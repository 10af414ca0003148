import CodeAtlas.Offside.Token

/-!
# Parse trees of an indented source

A parse tree has the tokens that matter as leaves: names, literals, and the few marks that tell
something apart. A branch says by its label what its parts are.
-/

namespace CodeAtlas.Offside

/-- What a branch of a parse tree is. -/
inductive Label
  /-- A member of an object: the object and a name. -/
  | member
  /-- An object and its index. -/
  | subscript
  /-- A callee, and its arguments or a generator. -/
  | call
  /-- The arguments of a call or of a class. -/
  | arguments
  /-- The value of an argument that is given by a name or by a mapping. -/
  | keyword
  /-- A tuple or a list. -/
  | sequence
  | starred
  /-- A chain of comparisons. -/
  | comparison
  /-- The right-hand side of a test for membership. -/
  | within
  /-- A value, the condition for it and the alternative. -/
  | conditional
  /-- Pairs and unpackings. -/
  | dictionary
  /-- A key and its value. -/
  | pair
  | unpacking
  /-- A function without a name: parameters and a result. -/
  | lambda
  /-- Adjacent string literals, by the expressions inside of them. -/
  | texts
  /-- Any other expression, by its operands. -/
  | compound
  | parameters
  /-- The parameters from the star on. -/
  | keywordOnly
  | default
  | note
  /-- A pattern, by the expressions inside of it. -/
  | pattern
  | function
  | classDefinition
  /-- Decorators, and what they decorate. -/
  | decorated
  | decorators
  /-- Targets and a value. -/
  | assign
  /-- A target, its annotation, and maybe a value. -/
  | annotated
  | importModules
  | importNames
  /-- A name or a dotted name, and maybe the name that it is bound to. -/
  | alias
  | dotted
  /-- A statement without a body. -/
  | simple
  /-- A part of a statement with bodies: expressions, and maybe a block. -/
  | clause
  | block
deriving DecidableEq, Repr, Inhabited

/-- A parse tree. -/
inductive Tree
  | leaf (token : Token)
  | branch (label : Label) (span : Span) (parts : List Tree)
deriving Repr, Inhabited

namespace Tree

/-- The line on which the tree starts. -/
def line : Tree → Nat
  | leaf t => t.start.line
  | branch _ span _ => span.start.line

/-- Whether the tree has the label. -/
def is (l : Label) : Tree → Bool
  | leaf _ => false
  | branch k _ _ => k == l

end Tree

/-- The uses of a target, which differ in what may be a target. -/
inductive TargetUse
  | assignment
  | deletion
  /-- The target of a loop, which may have been read as a test for membership. -/
  | loop
deriving DecidableEq, Repr

namespace Tree

mutual

/-- The line of the first part of a target that cannot be one. -/
def misusedLine? (use : TargetUse) : Tree → Option Nat
  | leaf t => if t.kind == .word then none else some t.start.line
  | branch .member _ _ => none
  | branch .subscript _ _ => none
  | branch .sequence _ parts => misusedLines? use parts
  | branch .starred span parts =>
    if use = .deletion then some span.start.line else misusedLines? use parts
  | branch .comparison span (left :: right :: _) =>
    if use = .loop then if right.is .within then misusedLine? use left else none
    else some span.start.line
  | branch _ span _ => some span.start.line

/-- The line of the first part of several targets that cannot be one. -/
def misusedLines? (use : TargetUse) : List Tree → Option Nat
  | [] => none
  | t :: ts =>
    match misusedLine? use t with
    | some n => some n
    | none => misusedLines? use ts

end
end Tree
end CodeAtlas.Offside
