import CodeAtlas.Source.Span

/-!
# Syntax trees of scripts

Trees keep what declarations, call sites and imports are made of: names, members, calls, and the
declarations and functions around them. Everything else is a `phrase`, by its parts in source order.
-/

namespace CodeAtlas.Script

/-- Which language a script is written in: with type annotations or without, and with markup in
expressions or without. -/
structure Dialect where
  typed : Bool
  markup : Bool
deriving DecidableEq, Repr

/-- What a declaration declares. -/
inductive Form
  | class_
  | abstractClass
  | function
  | generator
  | method
  | interface
  | enum
  | typeAlias
  | variable_
deriving DecidableEq, Repr, Inhabited

/-- What stands around other nodes without declaring a name. -/
inductive Frame
  /-- A class expression, with its name if it has one. -/
  | class_ (name : Option String)
  /-- A function expression, an arrow function, or a method without a plain name. -/
  | function
  /-- Anything else, generator expressions included. -/
  | phrase
deriving DecidableEq, Repr, Inhabited

/-- A node of a script. -/
inductive Node
  | identifier (name : String) (span : Span)
  | this
  /-- A member with a plain name: `object.property`, with what else stands in it. -/
  | member (object : Node) (property : String) (span : Span) (others : List Node)
  | call (callee : Node) (arguments : List Node)
  /-- An object construction: `new callee(arguments)`. -/
  | construct (callee : Node) (arguments : List Node)
  | declaration (form : Form) (name : String) (span : Span) (parts : List Node)
  | framed (frame : Frame) (parts : List Node)
deriving Inhabited

/-- A node without a meaning of its own. -/
def Node.phrase (parts : List Node) : Node := .framed .phrase parts

/-- An import of names from a module. The module is written as in the source, with its quotes. -/
structure Import where
  source : String
  /-- The imported names: the local name and the exported one. -/
  names : List (String × String)
  /-- The names that stand for the module as a whole. -/
  namespaces : List String
deriving Repr, Inhabited

/-- A parsed script. -/
structure Program where
  imports : List Import
  body : List Node
deriving Inhabited

end CodeAtlas.Script
