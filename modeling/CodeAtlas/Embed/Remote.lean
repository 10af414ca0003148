import CodeAtlas.Embed.Catalogue
import CodeAtlas.Embed.Model

/-!
# Models of remote services

A remote service is reached through a client from a package, which need not be installed, and with
a key. The client is made when it is first needed, and takes several texts in one request. One of
the services limits how many; texts beyond the limit go into further requests.

`Remote.Service σ` says how a service behaves; its states are in `σ`. All requests to it are logged.
-/

namespace CodeAtlas.Remote

/-- What is asked of the client of a service. -/
inductive Request
  /-- A client is made. -/
  | connect (key : String) (timeout : Float) (url : Option String)
  | vectors (model : String) (texts : List String)
  | close

/-- What a service says to a request for vectors. -/
inductive Response
  | vectors (values : List Value)
  | refused (reason : String)
  /-- There are no vectors to be found in the response, and looking for them fails. -/
  | shapeless (cause : Error)

/-- How a service behaves. -/
structure Behaviour (σ : Type) where
  /-- Whether the package with its client is there. -/
  installed : Bool
  respond : String → List String → σ → Response × σ
  /-- Why no client can be made with a key, a time limit and an address, if none can. -/
  obstacle? : String → Float → Option String → Option Error := fun _ _ _ => none

/-- The side of the client: whether there is one, what was asked of it, and the service itself. -/
structure Connection (σ : Type) where
  connected : Bool := false
  log : List Request := []
  service : σ

/-- A model of a service, as it is configured. -/
structure Client (σ : Type) where
  kind : Service
  config : ModelConfig
  behaviour : Behaviour σ

namespace Client

variable {σ : Type}

/-- The address that a client is made with. -/
def url? (c : Client σ) : Option String :=
  match c.kind with
  | .openai => c.config.baseUrl.filter (· ≠ "")
  | _ => none

/-- Makes the client of the service, unless there is one. -/
def connect (c : Client σ) (s : Connection σ) : Except Error Unit × Connection σ :=
  if s.connected then (.ok (), s)
  else if !c.behaviour.installed then (.error (.packageMissing c.kind), s)
  else match c.config.apiKey with
    | none | some "" => (.error (.embedding (.keyRequired c.kind)), s)
    | some key => match c.behaviour.obstacle? key c.config.timeout c.url? with
      | some cause => (.error cause, s)
      | none =>
        let log := s.log ++ [.connect key c.config.timeout c.url?]
        (.ok (), { s with connected := true, log })

/-- Sends one request for vectors. -/
def request (c : Client σ) (texts : List String) (s : Connection σ) :
    Except Error (List Value) × Connection σ :=
  let (response, service) := c.behaviour.respond c.config.modelName texts s.service
  let s := { s with service, log := s.log ++ [.vectors c.config.modelName texts] }
  match response with
  | .vectors values => (.ok values, s)
  | .refused reason => (.error (.embedding (.requestFailed c.kind reason)), s)
  | .shapeless cause => match c.kind with
    | .openai => (.error (.embedding (.requestFailed c.kind cause.message)), s)
    | _ => (.error cause, s)

/-- Sends texts in requests of at most `size` each, one request after the other. -/
def requestAll (c : Client σ) (size : Nat) (texts : List String) (s : Connection σ) :
    Except Error (List Value) × Connection σ :=
  if texts = [] ∨ size = 0 then (.ok [], s)
  else match c.request (texts.take size) s with
    | (.error e, s) => (.error e, s)
    | (.ok values, s) =>
      let (rest, s) := requestAll c size (texts.drop size) s
      (rest.map (values ++ ·), s)
termination_by texts.length
decreasing_by
  rename_i h
  have : texts.length ≠ 0 := fun hz => h (.inl (List.length_eq_zero_iff.1 hz))
  simp only [List.length_drop]
  omega

/-- The elements of a vector that came with a response. -/
def listed (v : Value) : Except Error Value :=
  match v.parts? with
  | some parts => .ok (.list parts)
  | none => .error (.wrongType ("'" ++ v.typeName ++ "' object is not iterable"))

/-- Asks for the vectors of texts. -/
def embedBatch (c : Client σ) (texts : List String) (s : Connection σ) :
    Except Error (List Value) × Connection σ :=
  match c.connect s with
  | (.error e, s) => (.error e, s)
  | (.ok (), s) => match c.kind with
    | .openai =>
      if c.config.batchSize = 0 then
        (.error (.embedding (.requestFailed c.kind Error.emptyBatch.message)), s)
      else c.requestAll c.config.batchSize.toNat texts s
    | _ =>
      let (values, s) := c.request texts s
      (values.bind fun vs => vs.mapM listed, s)

/-- Asks for the vector of one text. -/
def embedText (c : Client σ) (text : String) (s : Connection σ) :
    Except Error Value × Connection σ :=
  match c.embedBatch [text] s with
  | (.error e, s) => (.error e, s)
  | (.ok [], s) => (.error .indexOutOfRange, s)
  | (.ok (v :: _), s) => (.ok v, s)

/-- Gives the client up. -/
def close (c : Client σ) (s : Connection σ) : Connection σ :=
  let log := if s.connected && c.kind = .openai then s.log ++ [.close] else s.log
  { s with connected := false, log }

/-- The service as a model. -/
def model (c : Client σ) : Model (Connection σ) where
  dimension := c.kind.dimension c.config
  ask text s := match c.embedText text s with
    | (.ok v, s) => (.answered v, s)
    | (.error e, s) => (.failed e, s)

end Client
end CodeAtlas.Remote
