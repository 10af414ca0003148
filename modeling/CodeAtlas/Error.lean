import CodeAtlas.Text.Quoted

/-!
# What can go wrong

The causes of failure, with their wording in `Error.message`. Failures of reading a document and of
checking a configuration have texts and details of their own.
-/

namespace CodeAtlas

/-- A step into a document: a field, or an element of a list. -/
inductive Step
  | field (name : String)
  | element (index : Nat)
deriving DecidableEq, Repr

/-- What is wrong with a value in a document. -/
inductive Fault
  | notText
  /-- Bytes that are no text. -/
  | brokenText
  | notBool
  | unreadableBool
  | notInt
  | unreadableInt
  | fractionalInt
  | oversizedInt
  | infiniteInt
  | notReal
  | unreadableReal
  | notList
  | notMapping
  | notAmongChoices
  | notAKind
  | tooSmall
deriving DecidableEq, Repr

/-- The code that a fault is reported by. -/
def Fault.code : Fault → String
  | notText => "string_type"
  | brokenText => "string_unicode"
  | notBool => "bool_type"
  | unreadableBool => "bool_parsing"
  | notInt => "int_type"
  | unreadableInt => "int_parsing"
  | fractionalInt => "int_from_float"
  | oversizedInt => "int_parsing_size"
  | infiniteInt => "finite_number"
  | notReal => "float_type"
  | unreadableReal => "float_parsing"
  | notList => "list_type"
  | notMapping => "model_type"
  | notAmongChoices => "literal_error"
  | notAKind => "enum"
  | tooSmall => "greater_than_equal"

/-- A fault and the place of the value that has it. -/
structure Complaint where
  place : List Step
  fault : Fault
deriving DecidableEq, Repr

/-- Services that turn texts into vectors. -/
inductive Service
  | openai
  | cohere
  | ollama
deriving DecidableEq, Repr, Inhabited

namespace Service

/-- The name that a service goes by. -/
def title : Service → String
  | openai => "OpenAI"
  | cohere => "Cohere"
  | ollama => "Ollama"

/-- The package that holds the client of a service. -/
def package : Service → String
  | openai => "openai"
  | cohere => "cohere"
  | ollama => "ollama"

end Service

/-- Why a text has no vector. -/
inductive EmbeddingError
  | emptyText
  /-- No answer came in time; the limit is given as text. -/
  | timedOut (limit : String)
  | providerFailed (reason : String)
  | notNumeric
  | wrongDimension (got expected : Int)
  | notFinite
  | keyRequired (service : Service)
  | requestFailed (service : Service) (reason : String)
  /-- The model is not on the server. -/
  | modelMissing (model : String)
  /-- The server answered with another status than success. -/
  | badStatus
  | cannotConnect (url reason : String)
  | badAnswer (reason : String)
  /-- A failure in the provider's own words. -/
  | other (text : String)
deriving DecidableEq, Repr

namespace EmbeddingError

/-- The wording of the failure. -/
def message : EmbeddingError → String
  | emptyText => "Cannot embed empty text"
  | timedOut limit => "Embedding timed out after " ++ limit ++ "s"
  | providerFailed reason => "Embedding provider failed: " ++ reason
  | notNumeric => "Provider returned a non-numeric vector: "
  | wrongDimension got expected =>
    "Provider returned " ++ toString got ++ " dimensions, expected " ++ toString expected
  | notFinite => "Provider returned a vector with non-finite values"
  | keyRequired s => s.title ++ " API key required"
  | requestFailed s reason => s.title ++ " embedding request failed: " ++ reason
  | modelMissing model =>
    "Ollama model '" ++ model ++ "' not found. Pull it with: ollama pull " ++ model
  | badStatus => "Ollama API error: "
  | cannotConnect url reason => "Cannot connect to Ollama at " ++ url ++ ": " ++ reason
  | badAnswer reason => "Failed to generate embedding: " ++ reason
  | other text => text

end EmbeddingError

/-- Why the operating system refuses something. -/
inductive FileError
  | notFound (path : String)
  | isDirectory (path : String)
  | notDirectory (path : String)
  | denied (path : String)
  | tooManyLinks (path : String)
deriving DecidableEq, Repr

namespace FileError

/-- The wording of the failure, with its number. -/
def message : FileError → String
  | notFound p => "[Errno 2] No such file or directory: " ++ Text.quoted p
  | isDirectory p => "[Errno 21] Is a directory: " ++ Text.quoted p
  | notDirectory p => "[Errno 20] Not a directory: " ++ Text.quoted p
  | denied p => "[Errno 13] Permission denied: " ++ Text.quoted p
  | tooManyLinks p => "[Errno 40] Too many levels of symbolic links: " ++ Text.quoted p

end FileError

/-- Why a text is no web address. -/
inductive AddressFault
  | tooLong
  /-- A character that may not be shown, and its place. -/
  | control (c : Char) (place : Nat)
  | badPort (port : String)
  | badAddress4 (host : String)
  | badAddress6 (host : String)
  | badName (host : String)
  /-- The path of a relative address starts with two slashes. -/
  | doubleSlash
  /-- The path of a relative address starts with a colon. -/
  | leadingColon
deriving DecidableEq, Repr

namespace AddressFault

/-- The wording of the failure. -/
def message : AddressFault → String
  | tooLong => "URL too long"
  | control c place => "Invalid non-printable ASCII character in URL, " ++
      Text.quoted (String.singleton c) ++ " at position " ++ toString place ++ "."
  | badPort port => "Invalid port: " ++ Text.quoted port
  | badAddress4 host => "Invalid IPv4 address: " ++ Text.quoted host
  | badAddress6 host => "Invalid IPv6 address: " ++ Text.quoted host
  | badName host => "Invalid IDNA hostname: " ++ Text.quoted host
  | doubleSlash => "Relative URLs cannot have a path starting with '//'"
  | leadingColon => "Relative URLs cannot have a path starting with ':'"

end AddressFault

/-- What can go wrong. -/
inductive Error
  /-- A handle belongs to another generation of the index. -/
  | staleGeneration (requested current : Int)
  | noSymbol (file : String) (slot : Int)
  /-- A slot, or the first element of an empty list. -/
  | indexOutOfRange
  | dimensionMismatch (left right : Nat)
  | unknownScope (scope : String)
  | unknownModel (name : String) (available : List String)
  /-- A link that leads back to itself. -/
  | linkLoop (path : String)
  /-- An ignore pattern that means nothing. -/
  | badPattern (pattern : String)
  /-- A character class of an ignore pattern that cannot be read. -/
  | badClass
  /-- None of the given roots is a directory. -/
  | noRoots (roots : List String)
  | invalid (complaints : List Complaint)
  /-- A configuration file that cannot be read. -/
  | configUnreadable (path : String)
  | configNotMapping (path kind : String)
  | configInvalid (complaints : List Complaint)
  /-- A file that holds no text. -/
  | notText
  /-- A scalar of a document whose text is not of its type. -/
  | badScalar (reason : String)
  /-- A word for truth or falsehood that is not known. -/
  | unknownWord (word : String)
  /-- A number that is written as the empty text. -/
  | emptyNumber
  /-- A value lacks an operation that is asked of it. -/
  | missingOperation
  /-- A value is of a type that an operation cannot take. -/
  | wrongType (reason : String)
  | notAFile (path : String)
  | notADirectory (path : String)
  | packageMissing (service : Service)
  /-- Texts cannot be sent in batches of no text. -/
  | emptyBatch
  /-- A number that is too large for its type. -/
  | overflow (reason : String)
  | embedding (cause : EmbeddingError)
  /-- Values that nest too deep. -/
  | tooDeep (reason : String)
  | badAddress (fault : AddressFault)
  /-- A web address that does not say how it is to be used. -/
  | untypedAddress (address : String)
  /-- An extractor or a model failed in its own words. -/
  | failed (text : String)
deriving DecidableEq, Repr

namespace Error

/-- The wording of the failure. -/
def message : Error → String
  | staleGeneration requested current =>
    "Index generation " ++ toString requested ++ " is stale (current generation: " ++
      toString current ++ ")"
  | noSymbol file slot => "No symbol at " ++ file ++ "#" ++ toString slot
  | indexOutOfRange => "list index out of range"
  | dimensionMismatch left right =>
    "Cannot compare vectors of dimension " ++ toString left ++ " and " ++ toString right
  | unknownScope scope => "Unknown search scope: " ++ scope
  | unknownModel name available =>
    "Unknown embedding model type: " ++ name ++ ". Available: " ++ ", ".intercalate available
  | linkLoop path => "Symlink loop from " ++ Text.quoted path
  | badPattern pattern => "Invalid git pattern: " ++ Text.quoted pattern
  | badClass => "bad character class"
  | noRoots [] => "No valid project root among: (none)"
  | noRoots roots => "No valid project root among: " ++ ", ".intercalate roots
  | invalid _ => "invalid values"
  | configUnreadable path => "Failed to read config " ++ path ++ ": "
  | configNotMapping path kind => "Config " ++ path ++ " must contain a mapping, got " ++ kind
  | configInvalid _ => "Invalid configuration: "
  | notText => "file is not valid UTF-8 text"
  | badScalar reason => reason
  | unknownWord word => word
  | emptyNumber => "string index out of range"
  | missingOperation => "operation is missing"
  | wrongType reason => reason
  | notAFile path => "Cannot attach " ++ path ++ ": not a file"
  | notADirectory path => "Cannot attach " ++ path ++ ": not a directory"
  | packageMissing s =>
    s.package ++ " not installed. Install with: pip install codebase-rag[" ++ s.package ++ "]"
  | emptyBatch => "range() arg 3 must not be zero"
  | overflow reason => reason
  | embedding cause => cause.message
  | tooDeep reason => reason
  | badAddress fault => fault.message
  | untypedAddress address => "unknown url type: " ++ Text.quoted address
  | failed text => text

end Error
end CodeAtlas
