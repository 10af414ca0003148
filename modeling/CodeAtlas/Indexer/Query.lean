import CodeAtlas.Embed.Similarity
import CodeAtlas.Indexer.State

/-!
# Questions to an index

Looking up entries, symbols and definitions, and searching by similarity.
-/

namespace CodeAtlas

/-- The scope that a name means. -/
def Scope.ofName (name : String) : Except Error Scope :=
  match Scope.ofName? name with
  | some s => .ok s
  | none => .error (.unknownScope name)

namespace Store

/-- The symbol that a reference leads to. It leads nowhere once the entry of its target has been
removed or replaced; a reference of another generation is refused. -/
def definition (s : Store) (r : Reference) : Except Error (Option Symbol) :=
  match s.resolve r.target (some r.generation) with
  | .ok x => .ok (if x.references.contains r then some x else none)
  | .error (.noSymbol ..) => .ok none
  | .error e => .error e

/-- What a search looks at: in each entry the file, then its symbols, as far as they have vectors
and lie in the scope. -/
def candidates (s : Store) (scope : Scope) : List Candidate :=
  s.entries.values.flatMap fun e =>
    let files : List Candidate := match e.embedding with
      | some v => [⟨e.path, none, v⟩]
      | none => []
    let symbols := e.symbols.filterMap fun x =>
      x.embedding.map fun v => (⟨e.path, some x, v⟩ : Candidate)
    (if scope = .symbols then [] else files) ++ (if scope = .files then [] else symbols)

/-- The hits that are most similar to a vector, the best ones first. -/
def search (s : Store) (query : Embedding) (limit : Int) (minSimilarity : Float) (scope : Scope) :
    List Hit :=
  rank query (s.candidates scope) limit minSimilarity

end Store

namespace Indexer

/-- The entry of a file. -/
def entry? (fs : FileSystem) (path : Path) (ix : Indexer) : Except Error (Option Entry) := do
  return ix.store.get? (← ix.normalize fs path).toText

/-- The symbol around a position in a file that starts last. -/
def symbolAt? (fs : FileSystem) (path : Path) (p : Position) (ix : Indexer) :
    Except Error (Option Symbol) := do
  return ix.store.symbolAt? (← ix.normalize fs path).toText p

/-- Begins to watch the roots, if the settings say so. -/
def watch {σ : Type} (u : Setup σ) (fs : FileSystem) (ix : Indexer) : Except Error Unit × Indexer :=
  if u.config.enableWatcher && !ix.watching then
    ((ix.validRoots fs).map fun _ => (), { ix with watching := true })
  else (.ok (), ix)

/-- Ends watching. -/
def unwatch (ix : Indexer) : Indexer := { ix with watching := false }

end Indexer
end CodeAtlas
