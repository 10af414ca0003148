import CodeAtlas.Source.Position

/-!
# Declarations and uses

What an extractor finds in one file: the declarations, and the places that call or refer to
something. A use says what is known about its target: the module it was imported from, the class it
must belong to, the exact place of the declaration, or that it lies outside of the project.
-/

namespace CodeAtlas

/-- Kinds of declarations. -/
inductive SymbolKind
  | function
  | method
  | class_
  | interface
  | enum
  | typeAlias
  | variable_
deriving DecidableEq, Repr, Inhabited

namespace SymbolKind

/-- All kinds. -/
def all : List SymbolKind := [.function, .method, .class_, .interface, .enum, .typeAlias, .variable_]

/-- The word for a kind. -/
def name : SymbolKind → String
  | function => "function"
  | method => "method"
  | class_ => "class"
  | interface => "interface"
  | enum => "enum"
  | typeAlias => "type_alias"
  | variable_ => "variable"

/-- The kind that a word stands for. -/
def ofName? (s : String) : Option SymbolKind := all.find? (·.name = s)

theorem ofName?_name (k : SymbolKind) : ofName? k.name = some k := by cases k <;> rfl

end SymbolKind

/-- A declaration in a file; `container` is the name of the class around it. -/
structure Declaration where
  name : String
  kind : SymbolKind
  range : Range
  container : Option String
deriving DecidableEq, Repr

/-- The place of a declaration. -/
structure Site where
  file : String
  position : Position
deriving DecidableEq, Repr

/-- A place that calls or refers to something by name. -/
structure Use where
  file : String
  range : Range
  name : String
  /-- The module that the name was imported from: a dotted name, or a path. -/
  module : Option String
  /-- The class that the target belongs to. -/
  container : Option String
  declaration : Option Site
  /-- The target lies outside of the project. -/
  external : Bool
deriving DecidableEq, Repr

/-- What was found in a file. -/
structure Extraction where
  declarations : List Declaration
  uses : List Use
deriving DecidableEq, Repr

/-- The empty extraction. -/
def Extraction.empty : Extraction := ⟨[], []⟩

/-- A file that an extractor cannot make sense of. -/
structure ParseError where
  file : String
  line : Option Nat
  message : String
deriving DecidableEq, Repr

/-- The error with its place in front. -/
def ParseError.text (e : ParseError) : String :=
  match e.line with
  | some n => e.file ++ ":" ++ toString n ++ ": " ++ e.message
  | none => e.file ++ ": " ++ e.message

end CodeAtlas
