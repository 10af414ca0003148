import CodeAtlas.Data.Table
import CodeAtlas.Offside.Builtins
import CodeAtlas.Offside.Module
import CodeAtlas.Source.Declaration

/-!
# Declarations and uses of an indented source

A walk over the syntax tree in source order. Declarations are recorded outside of function bodies
only, uses everywhere: the callee of each call, and each base of a class. What an import binds is
known from there on, in the whole file.

* `Expr.uses`: the uses in an expression;
* `Scope.visit`: what a statement adds;
* `extract`: all of it, from the text of a file.
-/

namespace CodeAtlas.Offside

/-- What the walk knows of names when it meets an expression. -/
structure Names where
  /-- The innermost class around. -/
  owner : Option String
  /-- What names imported from a module stand for: the module and the name there. -/
  imported : Table String (String × String)
  /-- The modules that names stand for. -/
  modules : Table String String
deriving Inhabited

/-- A use as the syntax tree tells it: with byte columns. -/
structure Mention where
  name : String
  span : Span
  module : Option String
  container : Option String
deriving DecidableEq, Repr

/-- A declaration as the syntax tree tells it: with byte columns. -/
structure Definition where
  name : String
  kind : SymbolKind
  span : Span
  container : Option String
deriving DecidableEq, Repr

namespace Expr

/-- The components of a dotted name. -/
def dotted? : Expr → Option (List String)
  | name id _ => some [id]
  | member owner id _ => owner.dotted?.map (· ++ [id])
  | _ => none

/-- The module of a member of `root.path`, where `root` is bound to a module. -/
def memberModule (n : Names) : Expr → Option String
  | member owner _ _ =>
    match owner.dotted? with
    | some (root :: path) => (n.modules.find? root).map fun m => ".".intercalate (m :: path)
    | _ => none
  | _ => none

/-- The module that a name of the module `m` is, taken as a module itself. -/
def submodule (m id : String) : String :=
  if m.toList.getLast? = some '.' then m ++ id else m ++ "." ++ id

/-- The mention that a callee or a base is. -/
def mention (n : Names) : Expr → List Mention
  | name id span =>
    match n.imported.find? id with
    | some (m, original) => [⟨original, span, some m, none⟩]
    | none => [⟨id, span, none, none⟩]
  | member (name owner _) id span =>
    if (owner = "self" || owner = "cls") && n.owner.isSome then [⟨id, span, none, n.owner⟩]
    else match n.modules.find? owner with
      | some m => [⟨id, span, some m, none⟩]
      | none =>
        match n.imported.find? owner with
        | some (m, original) => [⟨id, span, some (submodule m original), none⟩]
        | none => [⟨id, span, none, none⟩]
  | member owner id span => [⟨id, span, memberModule n (member owner id span), none⟩]
  | _ => []

mutual

/-- The mentions in an expression: for a call the callee, what the arguments mention, then what the
owner of a called member mentions. -/
def uses (n : Names) : Expr → List Mention
  | name .. => []
  | member owner _ _ => uses n owner
  | subscript owner index => uses n owner ++ uses n index
  | call (member owner id span) args keywords =>
    mention n (member owner id span) ++ usesAll n args ++ usesAll n keywords ++ uses n owner
  | call callee args keywords => mention n callee ++ usesAll n args ++ usesAll n keywords
  | sequence es => usesAll n es
  | starred e => uses n e
  | compound es => usesAll n es

/-- The mentions in a list of expressions. -/
def usesAll (n : Names) : List Expr → List Mention
  | [] => []
  | e :: es => uses n e ++ usesAll n es

end

/-- The last component of a name; a subscript does not count. -/
def lastName? : Expr → Option String
  | name id _ => some id
  | member _ id _ => some id
  | subscript owner _ => owner.lastName?
  | _ => none

/-- What a base of a class refers to: a subscript is left out. -/
def base : Expr → Expr
  | subscript owner _ => owner
  | e => e

mutual

/-- The names that an assignment to a target binds. -/
def boundNames : Expr → List String
  | name id _ => [id]
  | sequence es => boundNamesAll es
  | _ => []

/-- The names that an assignment to several targets binds. -/
def boundNamesAll : List Expr → List String
  | [] => []
  | e :: es => boundNames e ++ boundNamesAll es

end
end Expr

/-- The bases that make a class an enumeration. -/
def enumBases : List String := ["Enum", "IntEnum", "StrEnum", "Flag", "IntFlag"]

/-- The bases that make a class an interface. -/
def interfaceBases : List String := ["Protocol", "ABC"]

/-- The kind of a class, by its bases. -/
def classKind (bases : List Expr) : SymbolKind :=
  let names := bases.filterMap Expr.lastName?
  if names.any enumBases.contains then .enum
  else if names.any interfaceBases.contains then .interface
  else .class_

/-- The walk's state: what it knows of names, how many functions are around, and what it has found. -/
structure Scope where
  names : Names
  depth : Nat
  definitions : List Definition
  mentions : List Mention
deriving Inhabited

namespace Scope

/-- The state at the start of a file. -/
def empty : Scope := ⟨⟨none, .empty, .empty⟩, 0, [], []⟩

/-- Records declarations, unless inside a function. -/
def define (s : Scope) (names : List String) (kind : SymbolKind) (span : Span) : Scope :=
  if s.depth = 0 then
    { s with
      definitions := s.definitions ++ names.map fun id => ⟨id, kind, span, s.names.owner⟩ }
  else s

/-- Records mentions. -/
def mention (s : Scope) (ms : List Mention) : Scope := { s with mentions := s.mentions ++ ms }

/-- Records the mentions in expressions. -/
def visitAll (s : Scope) (es : List Expr) : Scope := s.mention (Expr.usesAll s.names es)

/-- Binds a module: an alias stands for the module, and without one the first component of the name
for itself. -/
def bindModule (t : Table String String) (a : Alias) : Table String String :=
  let root := String.ofList (a.name.toList.takeWhile (· != '.'))
  match a.asName with
  | some short => t.insert short a.name
  | none => t.insert root root

/-- Binds modules. -/
def bindModules (s : Scope) (modules : List Alias) : Scope :=
  { s with names.modules := modules.foldl bindModule s.names.modules }

/-- Binds names of a module. -/
def bindNames (s : Scope) (module : String) (names : List Alias) : Scope :=
  let bind (t : Table String (String × String)) (a : Alias) :=
    t.insert (a.asName.getD a.name) (module, a.name)
  { s with names.imported := names.foldl bind s.names.imported }

mutual

/-- What a statement adds. -/
def visit (s : Scope) : Stmt → Scope
  | .function name span decorators signature body =>
    let s := s.define [name] (if s.names.owner.isSome then .method else .function) span
    let s := s.visitAll (decorators ++ signature.defaults ++ signature.keywordDefaults)
    let s := visitBlock { s with depth := s.depth + 1 } body
    { s with depth := s.depth - 1 }
  | .class_ name span decorators bases _ body =>
    let s := s.define [name] (classKind bases) span
    let s := s.mention (bases.flatMap fun b => b.base.mention s.names)
    let s := s.visitAll decorators
    let owner := s.names.owner
    let s := visitBlock { s with names.owner := some name } body
    { s with names.owner := owner }
  | .assign targets value span =>
    let s := s.define (Expr.boundNamesAll targets) .variable_ span
    s.visitAll (targets ++ [value])
  | .annotated target note value span =>
    let s := match target with
      | .name id _ =>
        s.define [id] (if note.lastName? = some "TypeAlias" then .typeAlias else .variable_) span
      | _ => s
    s.visitAll value.toList
  | .importModules modules => s.bindModules modules
  | .importNames module names => s.bindNames module names
  | .simple parts => s.visitAll parts
  | .clause parts body => visitBlock (s.visitAll parts) body

/-- What statements add, one after the other. -/
def visitBlock (s : Scope) : List Stmt → Scope
  | [] => s
  | t :: ts => visitBlock (visit s t) ts

end
end Scope

/-- Whether a mention is that of a name that needs no import: it has no hint, and the file neither
declares nor imports the name. -/
def Mention.isBuiltin (declared : List String) (imported : Table String (String × String))
    (m : Mention) : Bool :=
  m.module.isNone && m.container.isNone && builtins.contains m.name &&
    !declared.contains m.name && !imported.contains m.name

/-- What a parsed file declares and uses. -/
def Module.extract (m : Module) (file : String) (columns : ColumnMap) : Extraction :=
  let s := Scope.visitBlock .empty m.body
  let declared := s.definitions.map Definition.name
  { declarations := s.definitions.map fun d => ⟨d.name, d.kind, d.span.toRange columns, d.container⟩
    uses := s.mentions.map fun u =>
      ⟨file, u.span.toRange columns, u.name, u.module, u.container, none,
        u.isBuiltin declared s.names.imported⟩ }

/-- The wording of a failure. -/
def ParseFailure.error (file : String) : ParseFailure → ParseError
  | .nullCharacter => ⟨file, none, "source code string cannot contain null bytes"⟩
  | .malformed line => ⟨file, some line, "invalid syntax"⟩

/-- What a file declares and uses, from its text. -/
def extract (file content : String) : Except ParseError Extraction :=
  match Module.parse content with
  | .ok m => .ok (m.extract file (ColumnMap.ofText content.toList))
  | .error f => .error (f.error file)

end CodeAtlas.Offside
