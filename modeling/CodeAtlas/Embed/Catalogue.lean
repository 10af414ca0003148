import CodeAtlas.Data.Table
import CodeAtlas.Error
import CodeAtlas.Settings.Config

/-!
# The catalogue of services

The services that offer models, the models whose dimension is known, and the names under which a
configuration chooses a service.
-/

namespace CodeAtlas

namespace Service

/-- The dimensions of the models of a service, as far as they are known. -/
def dimensions : Service → List (String × Int)
  | openai =>
    [("text-embedding-3-small", 1536), ("text-embedding-3-large", 3072),
     ("text-embedding-ada-002", 1536)]
  | cohere =>
    [("embed-english-v3.0", 1024), ("embed-multilingual-v3.0", 1024),
     ("embed-english-light-v3.0", 384), ("embed-multilingual-light-v3.0", 384)]
  | ollama =>
    [("qwen3-embedding:8b", 4096), ("qwen3-embedding:4b", 2560), ("qwen3-embedding:0.6b", 1024),
     ("snowflake-arctic-embed2", 1024), ("bge-m3", 1024), ("mxbai-embed-large", 1024),
     ("nomic-embed-text", 768), ("nomic-embed-text:v1.5", 768), ("all-minilm", 384),
     ("all-minilm:l6-v2", 384)]

/-- The name of a model without what follows its first colon. -/
def baseName (model : String) : String :=
  String.ofList (model.toList.takeWhile (· ≠ ':'))

/-- The dimension of a configured model: the known one if there is one. Models on a local server
may carry a tag behind a colon. -/
def dimension (s : Service) (c : ModelConfig) : Int :=
  let known (name : String) := s.dimensions.lookup name
  match known c.modelName with
  | some n => n
  | none => match s with
    | ollama => (known (baseName c.modelName)).getD c.dimension
    | _ => c.dimension

end Service

/-- The services by the names that a configuration chooses them by. -/
abbrev Catalogue := Table String Service

namespace Catalogue

/-- The services under their own names. -/
def standard : Catalogue := .ofList [("openai", .openai), ("cohere", .cohere), ("ollama", .ollama)]

/-- The service that a configuration chooses. -/
def choose (t : Catalogue) (c : ModelConfig) : Except Error Service :=
  match t.find? c.modelType with
  | some s => .ok s
  | none => .error (.unknownModel c.modelType t.keys)

end Catalogue
end CodeAtlas
