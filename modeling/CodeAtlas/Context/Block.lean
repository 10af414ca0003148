import CodeAtlas.Context.Truncate
import CodeAtlas.Indexer.Query
import CodeAtlas.Number.Fixed

/-!
# Context for a prompt

What a search finds is written as a block of text for a prompt: a header, and for each hit its file,
its relevance and an excerpt between fences. Nothing is written for hits whose files are no longer
in the index.

* `Context.format`: the block for given hits;
* `Context.enhance`: the hits for a question in words, and their block.
-/

namespace CodeAtlas.Context

/-- The header of a block. -/
def header : String := "### Relevant code from your codebase:\n\n"

/-- The mark around an excerpt. -/
def fence : String := "\x60\x60\x60"

/-- The text that a hit stands for. -/
def excerpt (e : Entry) (h : Hit) : String :=
  match h.symbol with
  | some s => s.source e.content
  | none => e.content

/-- The line above an excerpt. -/
def title (name : Path) (h : Hit) : String :=
  let symbol := match h.symbol with
    | some s => ", symbol: " ++ s.name
    | none => ""
  "File: " ++ name.toText ++ " (relevance: " ++ Number.Fixed.text 1 (h.score * 100.0) ++ "%" ++
    symbol ++ ")\n"

/-- The part of a block for a hit, from its title to the blank line below it. -/
def part (limit : Int) (name : Path) (e : Entry) (h : Hit) : String :=
  let language := if e.language = plainText then "" else e.language
  title name h ++ fence ++ language ++ "\n" ++ truncate (excerpt e h) limit ++ "\n" ++ fence ++ "\n\n"

/-- The parts of a block, in the order of the hits. -/
def parts (fs : FileSystem) (limit : Int) (ix : Indexer) : List Hit → Except Error (List String)
  | [] => .ok []
  | h :: hs =>
    match ix.store.get? h.file with
    | none => parts fs limit ix hs
    | some e => do
      let name ← ix.displayName fs (.ofText h.file)
      let rest ← parts fs limit ix hs
      return part limit name e h :: rest

/-- The block for hits; it is empty if there is nothing to write. -/
def format (fs : FileSystem) (limit : Int) (ix : Indexer) (hits : List Hit) :
    Except Error String := do
  let ps ← parts fs limit ix hits
  return if ps.isEmpty then "" else header ++ String.join ps

/-- What was found for a question. -/
structure Found where
  text : String := ""
  hits : List Hit := []

/-- Finds what is similar to a question, with the settings of retrieval. Where there is no vector
for the question nothing is found. -/
def enhance {σ : Type} (config : RetrievalConfig) (embedder : Option (Embedder σ)) (fs : FileSystem)
    (ix : Indexer) (question : String) (s : σ) : Except Error Found × σ :=
  if !config.enabled then (.ok {}, s)
  else match embedder with
    | none => (.error .missingOperation, s)
    | some m =>
      match m.tryEmbed question s with
      | (.error e, s) => (.error e, s)
      | (.ok none, s) => (.ok {}, s)
      | (.ok (some v), s) =>
        let hits := ix.store.search v config.topN config.minSimilarity config.scope
        ((format fs config.maxChunkSize ix hits).map fun text => ⟨text, hits⟩, s)

end CodeAtlas.Context
