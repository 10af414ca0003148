import CodeAtlas.Data.Table
import CodeAtlas.Error
import CodeAtlas.Index.Entry

/-!
# The store of an index

The entries by path, in order of first insertion, and the number of the generation they belong to.
Entries are written whole, and a full build replaces all of them in one step.
-/

namespace CodeAtlas

/-- The entries of one generation of an index. -/
structure Store where
  entries : Table String Entry
  generation : Int
deriving Inhabited

namespace Store

/-- The store before the first build. -/
def empty : Store := ⟨.empty, 0⟩

/-- The number of the generation that the next build installs. -/
def nextGeneration (s : Store) : Int := s.generation + 1

/-- Replaces the entry of a file; the entry now belongs to the store's generation. -/
def put (s : Store) (e : Entry) : Store :=
  { s with entries := s.entries.insert e.path { e with generation := s.generation } }

/-- Removes the entry of a file. -/
def remove (s : Store) (path : String) : Store := { s with entries := s.entries.erase path }

/-- Replaces all entries by those of a new generation. -/
def install (entries : Table String Entry) (generation : Int) : Store :=
  ⟨entries.map fun _ e => { e with generation }, generation⟩

/-- Removes all entries, which starts a new generation. -/
def clear (s : Store) : Store := ⟨.empty, s.generation + 1⟩

/-- The entry of a file. -/
def get? (s : Store) (path : String) : Option Entry := s.entries.find? path

/-- Whether there is an entry for the file. -/
def contains (s : Store) (path : String) : Bool := s.entries.contains path

/-- The paths, in order of first insertion. -/
def paths (s : Store) : List String := s.entries.keys

/-- All symbols, in the order of their files. -/
def symbols (s : Store) : List Symbol := s.entries.values.flatMap Entry.symbols

/-- The symbols of a name. -/
def symbolsNamed (s : Store) (name : String) : List Symbol :=
  s.symbols.filter fun x => x.name = name

/-- The symbol around a position that starts last. -/
def symbolAt? (s : Store) (path : String) (p : Position) : Option Symbol :=
  (s.get? path).bind (·.innermost? p)

/-- The handle of the first symbol that starts at a position. -/
def handleAtStart? (s : Store) (path : String) (p : Position) : Option Handle :=
  ((s.get? path).bind (·.symbolAtStart? p)).map Symbol.handle

/-- The symbol of a handle. A handle that is known to belong to another generation is refused. -/
def resolve (s : Store) (h : Handle) (generation : Option Int) : Except Error Symbol :=
  if generation.any (· ≠ s.generation) then
    .error (.staleGeneration (generation.getD 0) s.generation)
  else if h.slot < 0 then .error (.noSymbol h.file h.slot)
  else match (s.get? h.file).bind fun e => e.symbols[h.slot.toNat]? with
    | some x => .ok x
    | none => .error (.noSymbol h.file h.slot)

/-- The references of the stored symbol that has the same site. -/
def references (s : Store) (site : Site) : List Reference :=
  (((s.get? site.file).bind fun e => e.symbols.find? fun x => x.site = site).map
    Symbol.references).getD []

/-- Counts over the entries of a store. -/
structure Stats where
  generation : Int
  files : Nat
  symbols : Nat
  references : Nat
  parseErrors : Nat
  embeddedFiles : Nat
  embeddedSymbols : Nat
deriving DecidableEq, Repr

/-- Counts the entries and what they hold. -/
def stats (s : Store) : Stats :=
  let es := s.entries.values
  { generation := s.generation
    files := es.length
    symbols := (es.flatMap Entry.symbols).length
    references := (es.flatMap Entry.references).length
    parseErrors := es.countP fun e => e.parseError.isSome
    embeddedFiles := es.countP fun e => e.embedding.isSome
    embeddedSymbols := (es.flatMap Entry.embeddedSymbols).length }

end Store

/-- Whether two tables of entries are equal in everything, whatever the order of their paths. -/
def sameEntries (a b : Table String Entry) : Bool :=
  a.size = b.size && a.pairs.all fun p => match b.find? p.1 with
    | some e => p.2.same e
    | none => false

end CodeAtlas
