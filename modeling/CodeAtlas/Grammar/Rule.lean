import CodeAtlas.Grammar.Pattern

/-!
# Grammars

A grammar gives each name a rule. Rules are made of tokens and names; marks on a part of a rule say
how ambiguities are settled and what the part is called in trees. Names that begin with an underscore,
and names of categories, do not show in trees.
-/

namespace CodeAtlas.Grammar

/-- A token: the texts that it may have, and what helps to choose among tokens. -/
structure Token where
  pattern : Pattern
  precedence : Int
  /-- Nothing may stand between this token and the one before. -/
  immediate : Bool
  /-- The text of a token that has only one. -/
  spelling : Option String
deriving DecidableEq, Repr, Inhabited

namespace Token

/-- A token with a single text. -/
def literal (s : String) : Token := ⟨.ofString s, 0, false, some s⟩

/-- A token that is described by a pattern. -/
def ofPattern (p : Pattern) : Token := ⟨p, 0, false, none⟩

/-- The token, but with nothing between it and the one before. -/
def joined (t : Token) (precedence : Int) : Token :=
  { t with immediate := true, precedence := precedence }

/-- Tokens with one text go before others, and so do joined ones. -/
def rank (t : Token) : Nat := (if t.spelling.isSome then 2 else 0) + (if t.immediate then 1 else 0)

end Token

/-- How strongly a part of a rule holds together. -/
inductive Level
  | number (n : Int)
  | named (s : String)
deriving DecidableEq, Repr

/-- Which of two equally strong operators goes first. -/
inductive Side
  | left
  | right
deriving DecidableEq, Repr

/-- A remark about a part of a rule. -/
inductive Mark
  | level (l : Level)
  | side (s : Side)
  /-- Among readings of the same text the one of greater weight wins. -/
  | weight (n : Int)
  /-- The role that the part has in the node of the rule. -/
  | role (name : String)
  /-- The name that the part has in trees, whatever its own name is. -/
  | shown (name : String)
  /-- A reserved word may stand here for a name. -/
  | anyWord
deriving DecidableEq, Repr

/-- The right-hand side of a rule, over some kind of leaves. -/
inductive Rule (α : Type) where
  | blank
  | leaf (a : α)
  | seq (a b : Rule α)
  | either (a b : Rule α)
  /-- One or more times. -/
  | many (a : Rule α)
  | marked (m : Mark) (a : Rule α)
deriving DecidableEq, Repr, Inhabited

/-- A leaf of a rule as it is written. -/
inductive Leaf
  | token (t : Token)
  | name (s : String)
deriving DecidableEq, Repr, Inhabited

/-- A rule as it is written. -/
abbrev Expr := Rule Leaf

/-- A string stands for the token with this text. -/
instance : Coe String Expr := ⟨fun s => .leaf (.token (.literal s))⟩

namespace Expr

/-- What a name stands for. -/
def the (name : String) : Expr := .leaf (.name name)

/-- A token. -/
def token (t : Token) : Expr := .leaf (.token t)

/-- Parts one after the other. -/
def sequence : List Expr → Expr
  | [] => .blank
  | [a] => a
  | a :: as => .seq a (sequence as)

/-- One of several parts. -/
def choice : List Expr → Expr
  | [] => .blank
  | [a] => a
  | a :: as => .either a (choice as)

/-- A part that may be left out. -/
def optional (a : Expr) : Expr := .either a .blank

/-- A part any number of times. -/
def any (a : Expr) : Expr := optional (.many a)

/-- One or more parts with separators between them. -/
def separated (separator a : Expr) : Expr := .seq a (any (.seq separator a))

/-- One or more parts with commas between them. -/
def commas (a : Expr) : Expr := separated "," a

/-- A part with a role. -/
def role (name : String) (a : Expr) : Expr := .marked (.role name) a

/-- A part that is shown under another name. -/
def shown (name : String) (a : Expr) : Expr := .marked (.shown name) a

/-- A part with a named level. -/
def level (name : String) (a : Expr) : Expr := .marked (.level (.named name)) a

/-- A part with a level given by a number. -/
def strength (n : Int) (a : Expr) : Expr := .marked (.level (.number n)) a

/-- A part that groups to the left. -/
def left (a : Expr) : Expr := .marked (.side .left) a

/-- A part that groups to the right. -/
def right (a : Expr) : Expr := .marked (.side .right) a

/-- A part of some weight. -/
def weight (n : Int) (a : Expr) : Expr := .marked (.weight n) a

/-- A part in which any word may be a name. -/
def anyWord (a : Expr) : Expr := .marked .anyWord a

end Expr

/-- What an order of levels is made of: named levels, and rules as a whole. -/
inductive Rank
  | level (s : String)
  | rule (name : String)
deriving DecidableEq, Repr

/-- A token that is read by other means than a pattern. It may stand for a token of the grammar. -/
inductive Outside
  | name (s : String)
  | token (t : Token)
deriving DecidableEq, Repr

/-- A grammar. The first rule is the one of whole texts. -/
structure Grammar where
  rules : List (String × Expr)
  /-- Names that trees do not show, though they have no underscore. -/
  categories : List String
  /-- Names whose rules are put in their place. -/
  inlined : List String
  /-- Orders of levels, the strongest first; orders are independent of each other. -/
  orders : List (List Rank)
  /-- Tokens that are read by other means, by name or spelling. -/
  outside : List Outside
  /-- Names of tokens that may stand anywhere. -/
  extras : List String
  /-- The characters that may stand between tokens. -/
  blanks : CharSet
  /-- The name of the token that words are. -/
  word : String
  /-- Words that are no names, except where any word is one. -/
  reserved : List String

/-- The rule of a name. -/
def Grammar.rule (g : Grammar) (name : String) : Expr := (g.rules.lookup name).getD .blank

/-- The grammar with other rules for some names; rules for new names come last. -/
def Grammar.withRules (g : Grammar) (rules : List (String × Expr)) : Grammar :=
  { g with
    rules := g.rules.map (fun r => (r.1, (rules.lookup r.1).getD r.2)) ++
      rules.filter fun r => (g.rules.lookup r.1).isNone }

end CodeAtlas.Grammar
