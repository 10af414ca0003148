import CodeAtlas.Source.Declaration
import CodeAtlas.Source.Excerpt

/-!
# Symbols

A symbol is a declaration that is held in an index, together with the references to it. Files hold
their symbols in slots, and a handle names a symbol by its file and slot.
-/

namespace CodeAtlas

/-- The file and slot of a symbol. -/
structure Handle where
  file : String
  slot : Int
deriving DecidableEq, Repr, Inhabited

/-- A use whose target is known; `generation` is that of the index it was recorded in. -/
structure Reference where
  file : String
  range : Range
  target : Handle
  generation : Int
deriving DecidableEq, Repr, Inhabited

/-- A vector that stands for the meaning of a text. -/
abbrev Embedding := List Float

/-- A declaration held in an index. -/
structure Symbol where
  name : String
  kind : SymbolKind
  file : String
  range : Range
  slot : Int
  container : Option String := none
  embedding : Option Embedding := none
  references : List Reference := []
deriving Inhabited

namespace Symbol

/-- The symbol's handle. -/
def handle (s : Symbol) : Handle := ⟨s.file, s.slot⟩

/-- Where the declaration starts: symbols are told apart by it. -/
def site (s : Symbol) : Site := ⟨s.file, s.range.start⟩

/-- The name, with the container in front if there is one. -/
def qualifiedName (s : Symbol) : String :=
  match s.container with
  | none => s.name
  | some c => if c = "" then s.name else c ++ "." ++ s.name

/-- The symbol of a declaration, without embedding and references. -/
def ofDeclaration (file : String) (slot : Nat) (d : Declaration) : Symbol :=
  { name := d.name, kind := d.kind, file, range := d.range, slot, container := d.container }

/-- The text of the symbol in the content of its file. -/
def source (s : Symbol) (content : String) : String := Text.excerpt content s.range

end Symbol
end CodeAtlas
