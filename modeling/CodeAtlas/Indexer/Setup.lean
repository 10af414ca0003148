import CodeAtlas.Embed.Embedder
import CodeAtlas.Extract.Extractor
import CodeAtlas.Extract.Language
import CodeAtlas.Files.Digest
import CodeAtlas.Files.System
import CodeAtlas.Settings.Config

/-!
# What an indexer works with

The settings, an analyzer for each language that has one, and an embedder if there is one. With
these a file is turned into an entry: `Setup.extractFile` reads and analyzes it, and
`Setup.embed` adds vectors. Both happen beside the index and see nothing of it.
-/

namespace CodeAtlas

/-- Analyzes a file, given by its path and content. The first kind of error is the analyzer's own
failure, the second one a file that cannot be parsed. -/
abbrev Analyzer := String → String → Except String (Except ParseError Extraction)

/-- The analyzer of a registered language. -/
def Registry.analyzer? (r : Registry) (language : String) : Option Analyzer :=
  (r.find? language).map fun e file content =>
    (e.extract language file content).mapError ExtractorError.message

/-- What an indexer works with. -/
structure Setup (σ : Type) where
  config : IndexingConfig
  analyzer? : String → Option Analyzer
  embedder : Option (Embedder σ)

namespace Setup

variable {σ : Type}

/-- The entry of a file before anything is known of it. -/
def blankEntry (path : Path) (generation : Int) (stamp : Nat) : Entry :=
  { path := path.toText, language := path.language, generation, stamp }

/-- The entry with what was found in its content, and the uses. -/
def analyzed (e : Entry) : Except String (Except ParseError Extraction) → Entry × List Use
  | .error reason => ({ e with parseError := some ("extractor failure: " ++ reason) }, [])
  | .ok (.error err) => ({ e with parseError := some err.text }, [])
  | .ok (.ok x) =>
    ({ e with symbols := x.declarations.zipIdx.map fun (d, i) => Symbol.ofDeclaration e.path i d },
     x.uses)

/-- The entry and the uses of a file as it is now. Files that are too large are not analyzed. -/
def extractFile (u : Setup σ) (fs : FileSystem) (path : Path) (generation : Int) (stamp : Nat) :
    Entry × List Use :=
  let entry := blankEntry path generation stamp
  match fs.readText path with
  | .error .notText => ({ entry with parseError := some Error.notText.message }, [])
  | .error (.refused cause) =>
    ({ entry with parseError := some ("could not read file: " ++ cause.message) }, [])
  | .ok content =>
    let entry := { entry with content, contentHash := some (Digest.ofText content) }
    match u.analyzer? entry.language with
    | none => (entry, [])
    | some analyze =>
      if u.config.maxFileBytes < fs.sizeOf path then (entry, [])
      else analyzed entry (analyze entry.path content)

/-- Gives an entry its vectors, as far as the settings ask for them, and counts those found. -/
def embed (u : Setup σ) (e : Entry) (s : σ) : Except Error (Entry × Nat) × σ :=
  match u.embedder with
  | none => (.ok (e, 0), s)
  | some m =>
    if u.config.generateEmbeddings then
      m.embedEntry ⟨u.config.embedFiles, u.config.embedSymbols⟩ e s
    else (.ok (e, 0), s)

/-- Gives entries their vectors, one after the other. -/
def embedAll (u : Setup σ) : List Entry → σ → Except Error (List Entry × Nat) × σ
  | [], s => (.ok ([], 0), s)
  | e :: es, s =>
    match u.embed e s with
    | (.error err, s) => (.error err, s)
    | (.ok (e, n), s) =>
      let (rest, s) := embedAll u es s
      (rest.map fun (es, k) => (e :: es, n + k), s)

end Setup
end CodeAtlas
