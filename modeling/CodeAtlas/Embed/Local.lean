import CodeAtlas.Data.Json
import CodeAtlas.Embed.Catalogue
import CodeAtlas.Embed.Model
import CodeAtlas.Web.Status

/-!
# Models on a local server

A local server is asked for one vector per request. Before the first one a greeting is sent, which
shows whether the server is there and has the model; only after a good answer to it the link to the
server is ready. The steps of the link are functions of their own, because calls that run at the
same time share it and take turns at each request.

* `Link.opened`, `Link.greeted`: what a greeting does to the link when it is sent, and when it is
  answered;
* `Client.embedText`, `Client.embedBatch`: whole calls, nothing else going on.
-/

namespace CodeAtlas.Local

/-- What an answer holds. -/
inductive Body
  | text (content : String)
  | value (v : Value)
  /-- Bytes that are no text. -/
  | undecodable (reason : String)

/-- What comes back for a request. -/
inductive Response
  | answer (status : Nat) (body : Body)
  /-- There is no answer. -/
  | broken (reason : String)
  /-- The client itself fails; `foreseen` tells whether that is a failure of the kinds that are
  expected of an answer's content. -/
  | failed (cause : Error) (foreseen : Bool)

namespace Response

/-- Whether anything came back. -/
def isAnswer : Response → Bool
  | answer .. => true
  | _ => false

end Response

/-- The value in the body of an answer, or why there is none. A byte-order mark in front is no part
of it. -/
def Body.read : Body → Except Json.Trouble Value
  | .text s => Json.parse (if s.front? = some '\ufeff' then (s.drop 1).toString else s)
  | .value v => .ok v
  | .undecodable reason => .error (.malformed reason)

/-- The value in the field of an answer that holds the vector. -/
def vectorField : Value → Except Error Value
  | .mapping fields => match fields.lookup "embedding" with
    | some v => .ok v
    | none => .error (.embedding (.badAnswer "'embedding'"))
  | .list _ => .error (.wrongType "list indices must be integers or slices, not str")
  | .text _ => .error (.wrongType "string indices must be integers, not 'str'")
  | v => .error (.wrongType ("'" ++ v.typeName ++ "' object is not subscriptable"))

/-- The vector in a response from an address, which is taken as it is. -/
def vectorOf (a : Web.Address) : Response → Except Error Value
  | .broken reason => .error (.embedding (.badAnswer reason))
  | .failed cause foreseen =>
    .error (if foreseen then .embedding (.badAnswer cause.message) else cause)
  | .answer status body =>
    if !Web.Status.isSuccess status then
      .error (.embedding (.badAnswer (Web.Status.complaint status a)))
    else match body.read with
      | .error (.malformed reason) => .error (.embedding (.badAnswer reason))
      | .error (.tooDeep reason) => .error (.tooDeep reason)
      | .ok v => vectorField v

/-- Whether there is a client for the server, and whether the server has been found to be ready. -/
structure Link where
  connected : Bool := false
  ready : Bool := false
deriving DecidableEq, Repr

namespace Link

/-- A client is made, and a greeting goes out. -/
def opened (l : Link) : Link := { l with connected := true }

/-- The client is given up. -/
def dropped (l : Link) : Link := { l with connected := false }

/-- What a status without success says about a greeting. -/
def statusFault (model : String) (status : Nat) : EmbeddingError :=
  if status = 404 then .modelMissing model else .badStatus

/-- A greeting is answered: the link is ready, or its client is given up. A client that fails by
itself is kept. -/
def greeted (url model : String) (r : Response) (l : Link) : Except Error Unit × Link :=
  match r with
  | .broken reason => (.error (.embedding (.cannotConnect url reason)), l.dropped)
  | .failed cause _ => (.error cause, l)
  | .answer status _ =>
    if Web.Status.isSuccess status then (.ok (), { l with ready := true })
    else (.error (.embedding (statusFault model status)), l.dropped)

end Link

/-- A request to the server. -/
structure Post where
  url : String
  model : String
  prompt : String
deriving DecidableEq, Repr

/-- The link, the requests that were sent over it, and the server itself. -/
structure Connection (σ : Type) where
  link : Link := {}
  log : List Post := []
  server : σ

/-- A model on a server, as it is configured, and how the server behaves. -/
structure Client (σ : Type) where
  config : ModelConfig
  respond : String → σ → Response × σ

/-- Where the server is, if nothing else is said. -/
def standardUrl : String := "http://localhost:11434"

/-- What a greeting asks for the vector of. -/
def greeting : String := "test"

namespace Client

variable {σ : Type}

/-- Where the server is. -/
def url (c : Client σ) : String := (c.config.baseUrl.filter (· ≠ "")).getD standardUrl

/-- Where requests go. -/
def endpoint (c : Client σ) : Except AddressFault Web.Address := do
  (← Web.Address.ofText c.url).append "api/embeddings"

/-- Sends a request and waits for the response. -/
def post (c : Client σ) (address : Web.Address) (prompt : String) (s : Connection σ) :
    Response × Connection σ :=
  let (response, server) := c.respond prompt s.server
  (response, { s with server, log := s.log ++ [⟨address.toText, c.config.modelName, prompt⟩] })

/-- Makes the link ready, unless it is. An answer that comes from an address without a type cannot be
taken. -/
def makeReady (c : Client σ) (s : Connection σ) : Except Error Unit × Connection σ :=
  if s.link.ready then (.ok (), s)
  else match c.endpoint with
    | .error fault => (.error (.badAddress fault), s)
    | .ok address =>
      let (response, s) := c.post address greeting { s with link := s.link.opened }
      if response.isAnswer && !address.hasType then (.error (.untypedAddress address.shown), s)
      else
        let (result, link) := s.link.greeted c.url c.config.modelName response
        (result, { s with link })

/-- Asks for a vector over a link that is ready. -/
def ask (c : Client σ) (text : String) (s : Connection σ) : Except Error Value × Connection σ :=
  match s.link.connected, c.endpoint with
  | false, _ => (.error .missingOperation, s)
  | true, .error fault => (.error (.badAddress fault), s)
  | true, .ok address =>
    let (response, s) := c.post address text s
    (vectorOf address response, s)

/-- Asks for the vector of one text. -/
def embedText (c : Client σ) (text : String) (s : Connection σ) :
    Except Error Value × Connection σ :=
  match c.makeReady s with
  | (.error e, s) => (.error e, s)
  | (.ok (), s) => c.ask text s

/-- Asks for vectors of several texts at once. All of them are asked for, even if one fails. -/
def askAll (c : Client σ) : List String → Connection σ → List (Except Error Value) × Connection σ
  | [], s => ([], s)
  | text :: texts, s =>
    let (r, s) := c.ask text s
    let (rs, s) := askAll c texts s
    (r :: rs, s)

/-- Asks for vectors of texts, at most `size` at once. -/
def askBatches (c : Client σ) (size : Nat) (texts : List String) (s : Connection σ) :
    Except Error (List Value) × Connection σ :=
  if texts = [] ∨ size = 0 then (.ok [], s)
  else
    let (results, s) := c.askAll (texts.take size) s
    match results.mapM id with
    | .error e => (.error e, s)
    | .ok values =>
      let (rest, s) := askBatches c size (texts.drop size) s
      (rest.map (values ++ ·), s)
termination_by texts.length
decreasing_by
  rename_i h
  have : texts.length ≠ 0 := fun hz => h (.inl (List.length_eq_zero_iff.1 hz))
  simp only [List.length_drop]
  omega

/-- Asks for the vectors of texts. -/
def embedBatch (c : Client σ) (texts : List String) (s : Connection σ) :
    Except Error (List Value) × Connection σ :=
  match c.makeReady s with
  | (.error e, s) => (.error e, s)
  | (.ok (), s) =>
    if c.config.batchSize = 0 then (.error .emptyBatch, s)
    else c.askBatches c.config.batchSize.toNat texts s

/-- Gives the link up. -/
def close (_ : Client σ) (s : Connection σ) : Connection σ := { s with link := {} }

/-- The server's model. -/
def model (c : Client σ) : Model (Connection σ) where
  dimension := Service.ollama.dimension c.config
  ask text s := match c.embedText text s with
    | (.ok v, s) => (.answered v, s)
    | (.error e, s) => (.failed e, s)

end Client
end CodeAtlas.Local
