import CodeAtlas.Index.Symbol

/-!
# Entries

What an index knows about one file. An entry is replaced as a whole, never merged.
-/

namespace CodeAtlas

/-- What an index knows about a file. -/
structure Entry where
  path : String
  language : String
  content : String := ""
  symbols : List Symbol := []
  /-- Why the file could not be read or made sense of. -/
  parseError : Option String := none
  contentHash : Option String := none
  generation : Int := 0
  /-- The vector of the whole file. -/
  embedding : Option Embedding := none
  /-- Tells apart entries that were made at different moments. -/
  stamp : Nat := 0
deriving Inhabited

namespace Entry

/-- The first symbol that starts at a position. -/
def symbolAtStart? (e : Entry) (p : Position) : Option Symbol :=
  e.symbols.find? fun s => s.range.start = p

/-- Of two symbols around a position, the one that starts later; the first one if neither does. -/
def inner (best : Option Symbol) (s : Symbol) : Option Symbol :=
  match best with
  | none => some s
  | some b => if b.range.start < s.range.start then some s else some b

/-- The symbol around a position that starts last. -/
def innermost? (e : Entry) (p : Position) : Option Symbol :=
  (e.symbols.filter fun s => s.range.contains p).foldl inner none

/-- The references to symbols of the file. -/
def references (e : Entry) : List Reference := e.symbols.flatMap Symbol.references

/-- The symbols that have an embedding. -/
def embeddedSymbols (e : Entry) : List Symbol := e.symbols.filter fun s => s.embedding.isSome

/-- Puts a reference behind those of the symbol at a place. -/
def addReference (e : Entry) (place : Nat) (r : Reference) : Entry :=
  { e with symbols := e.symbols.modify place fun s => { s with references := s.references ++ [r] } }

end Entry

/-- Whether two embeddings have equal numbers. -/
def sameEmbedding : Option Embedding → Option Embedding → Bool
  | none, none => true
  | some a, some b => a.map Float.toBits == b.map Float.toBits || a == b
  | _, _ => false

/-- Whether two symbols are equal in everything. -/
def Symbol.same (a b : Symbol) : Bool :=
  a.name = b.name && a.kind = b.kind && a.file = b.file && a.range = b.range && a.slot = b.slot &&
    a.container = b.container && sameEmbedding a.embedding b.embedding &&
    a.references = b.references

/-- Whether two lists agree element by element. -/
def sameList {α : Type} (same : α → α → Bool) : List α → List α → Bool
  | [], [] => true
  | a :: as, b :: bs => same a b && sameList same as bs
  | _, _ => false

/-- Whether two entries are equal in everything. -/
def Entry.same (a b : Entry) : Bool :=
  a.path = b.path && a.language = b.language && a.content = b.content &&
    sameList Symbol.same a.symbols b.symbols && a.parseError = b.parseError &&
    a.contentHash = b.contentHash && a.generation = b.generation &&
    sameEmbedding a.embedding b.embedding && a.stamp = b.stamp

end CodeAtlas
