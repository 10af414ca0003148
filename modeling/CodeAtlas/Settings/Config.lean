import CodeAtlas.Document.Meaning
import CodeAtlas.Files.System
import CodeAtlas.Ignore.Filter
import CodeAtlas.Settings.Reading

/-!
# Configuration

The settings of indexing, of the model that computes vectors, and of retrieval, each with a default.
They are read from a file; without one, all settings have their defaults. A key for the model's
service may also come from the environment.
-/

namespace CodeAtlas

/-- Which embedded things a search looks at. -/
inductive Scope
  | all
  | files
  | symbols
deriving DecidableEq, Repr, Inhabited

/-- The scope of a name. -/
def Scope.ofName? : String → Option Scope
  | "all" => some all
  | "files" => some files
  | "symbols" => some symbols
  | _ => none

/-- The name of a scope. -/
def Scope.name : Scope → String
  | all => "all"
  | files => "files"
  | symbols => "symbols"

/-- Settings of indexing. -/
structure IndexingConfig where
  ignoreFileName : String := CodeAtlas.ignoreFileName
  extraIgnorePatterns : List String := []
  generateEmbeddings : Bool := true
  embedFiles : Bool := true
  embedSymbols : Bool := true
  maxSymbolEmbedChars : Int := 1000
  embeddingTimeout : Float := 30.0
  embeddingConcurrency : Int := 8
  maxFileBytes : Int := 1000000
  enableWatcher : Bool := false
  watcherDebounce : Float := 0.5
deriving Inhabited

/-- Settings of retrieval. -/
structure RetrievalConfig where
  enabled : Bool := true
  topN : Int := 5
  minSimilarity : Float := 0.7
  maxChunkSize : Int := 2000
  scope : Scope := .all
deriving Inhabited

/-- Settings of the model that computes vectors. -/
structure ModelConfig where
  modelType : String := "openai"
  modelName : String := "text-embedding-3-small"
  dimension : Int := 1536
  apiKey : Option String := none
  baseUrl : Option String := none
  batchSize : Int := 32
  timeout : Float := 60.0
deriving Inhabited

/-- All settings. -/
structure Config where
  indexing : IndexingConfig := {}
  retrieval : RetrievalConfig := {}
  model : ModelConfig := {}
deriving Inhabited

namespace Settings

/-- Reads the name of a scope. -/
def scope : Value → Checked Scope
  | .text s => match Scope.ofName? s with
    | some x => .ok x
    | none => .fault .notAmongChoices
  | _ => .fault .notAmongChoices

/-- Reads a whole number that is at least one. -/
def positive (v : Value) : Checked Int :=
  match int v with
  | .ok i => if 1 ≤ i then .ok i else .fault .tooSmall
  | w => w

/-- Reads the settings of indexing. -/
def indexing : Value → Checked IndexingConfig :=
  mapping fun v =>
    let d : IndexingConfig := {}
    IndexingConfig.mk <$> field v "ignore_file_name" d.ignoreFileName text
      <*> field v "extra_ignore_patterns" d.extraIgnorePatterns texts
      <*> field v "generate_embeddings" d.generateEmbeddings bool
      <*> field v "embed_files" d.embedFiles bool
      <*> field v "embed_symbols" d.embedSymbols bool
      <*> field v "max_symbol_embed_chars" d.maxSymbolEmbedChars int
      <*> field v "embedding_timeout" d.embeddingTimeout real
      <*> field v "embedding_concurrency" d.embeddingConcurrency positive
      <*> field v "max_file_bytes" d.maxFileBytes int
      <*> field v "enable_watcher" d.enableWatcher bool
      <*> field v "watcher_debounce" d.watcherDebounce real

/-- Reads the settings of retrieval. -/
def retrieval : Value → Checked RetrievalConfig :=
  mapping fun v =>
    let d : RetrievalConfig := {}
    RetrievalConfig.mk <$> field v "enabled" d.enabled bool
      <*> field v "top_n" d.topN int
      <*> field v "min_similarity" d.minSimilarity real
      <*> field v "max_chunk_size" d.maxChunkSize int
      <*> field v "scope" d.scope scope

/-- Reads the settings of the model. -/
def model : Value → Checked ModelConfig :=
  mapping fun v =>
    let d : ModelConfig := {}
    ModelConfig.mk <$> field v "model_type" d.modelType text
      <*> field v "model_name" d.modelName text
      <*> field v "dimension" d.dimension int
      <*> field v "api_key" d.apiKey textOrNull
      <*> field v "base_url" d.baseUrl textOrNull
      <*> field v "batch_size" d.batchSize int
      <*> field v "timeout" d.timeout real

/-- Reads all settings. -/
def config : Value → Checked Config :=
  mapping fun v =>
    Config.mk <$> field v "indexer" {} indexing
      <*> field v "rag" {} retrieval
      <*> field v "embedding" {} model

end Settings

namespace Config

/-- Whether a value stands for no settings at all. -/
def isVoid : Value → Bool
  | .null => true
  | .bool b => !b
  | .int i => i = 0
  | .real x => x == 0.0
  | .text s => s = ""
  | .list items => items.isEmpty
  | .mapping fields => fields.isEmpty
  | .bytes bs => bs.isEmpty
  | .set items => items.isEmpty
  | .other _ => false

/-- What a trouble with the document of a file means. -/
def troubleOf (path : Path) : Document.Trouble → Error
  | .malformed => .configUnreadable path.toText
  | .badScalar reason => .badScalar reason
  | .tooLarge reason => .overflow reason
  | .unknownWord word => .unknownWord word
  | .emptyNumber => .emptyNumber
  | .badTime => .missingOperation
  | .timeOfMapping => .wrongType "a time is read from a text"

/-- The value in a configuration file; there need not be one. -/
def fileValue (fs : FileSystem) (path : Path) : Except Error Value :=
  if fs.isFile path then
    match fs.readText path with
    | .error (.refused _) => .error (.configUnreadable path.toText)
    | .error .notText => .error .notText
    | .ok text => match Document.load text with
      | .error t => .error (troubleOf path t)
      | .ok v =>
        if isVoid v then .ok (.mapping [])
        else match v with
          | .mapping _ => .ok v
          | _ => .error (.configNotMapping path.toText (v.typeName))
  else .ok (.mapping [])

/-- The settings in a file, with a key from the environment where the file has none. -/
def load (fs : FileSystem) (path : Option Path) (environmentKey : Option String) :
    Except Error Config := do
  let v ← match path with
    | some p => fileValue fs p
    | none => pure (.mapping [])
  match Settings.config v with
  | .wrong cs => .error (.configInvalid cs)
  | .ok c =>
    let key := match c.model.apiKey with
      | some k => some k
      | none => environmentKey.filter (· ≠ "")
    return { c with model.apiKey := key }

end Config
end CodeAtlas
