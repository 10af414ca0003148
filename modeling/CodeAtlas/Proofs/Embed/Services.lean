import CodeAtlas.Embed.Local
import CodeAtlas.Embed.Remote
import CodeAtlas.Proofs.Data.Except
import CodeAtlas.Proofs.Indexer.Failure

/-!
# How calls of services fail

A call for vectors is meant to fail with an `Error.IsEmbedding` only. What else it can fail with, and
when, is listed by `Remote.Client.Escapes` and `Remote.Client.Vectorless` for remote services, and by
`Local.Client.OpeningEscapes` and `Local.Client.AskingEscapes` for a local server. The lists are
complete, and each entry of them does make the call fail (`Service.calls_escape_iff`): for every
configuration, every behaviour of the service and every state that a call may find.
-/

namespace CodeAtlas

/-! ## Remote services -/

namespace Remote.Client

variable {σ : Type} {c : Client σ} {s : Connection σ} {texts : List String} {text : String}
  {e : Error}

/-- There is a client, or one can be made. -/
def Connects (c : Client σ) (s : Connection σ) : Prop :=
  s.connected = true ∨ ∃ key, c.config.apiKey = some key ∧ key ≠ "" ∧
    c.behaviour.obstacle? key c.config.timeout c.url? = none

/-- What the service says when all texts are sent in one request. -/
def response (c : Client σ) (texts : List String) (s : Connection σ) : Response :=
  (c.behaviour.respond c.config.modelName texts s.service).1

/-- The errors of another kind that asking for the vectors of texts ends with. -/
inductive Escapes (c : Client σ) (texts : List String) (s : Connection σ) : Error → Prop
  /-- Making a client fails in its own way. -/
  | obstacle {key : String} {cause : Error} (hs : s.connected = false)
    (hk : c.config.apiKey = some key) (hne : key ≠ "")
    (h : c.behaviour.obstacle? key c.config.timeout c.url? = some cause)
    (he : ¬ cause.IsEmbedding) : Escapes c texts s cause
  /-- Looking for vectors in a response fails. One service has this caught. -/
  | shapeless {cause : Error} (hs : c.Connects s) (hk : c.kind ≠ .openai)
    (h : c.response texts s = .shapeless cause) (he : ¬ cause.IsEmbedding) : Escapes c texts s cause
  /-- One of the vectors in a response has no elements. -/
  | unlisted {before after : List Value} {v : Value} (hs : c.Connects s) (hk : c.kind ≠ .openai)
    (h : c.response texts s = .vectors (before ++ v :: after))
    (hb : ∀ w ∈ before, ∃ parts, w.parts? = some parts) (hv : v.parts? = none) :
    Escapes c texts s (.wrongType ("'" ++ v.typeName ++ "' object is not iterable"))

/-- There is no vector for a text, because the response holds none or no request is sent. -/
def Vectorless (c : Client σ) (text : String) (s : Connection σ) : Prop :=
  c.Connects s ∧ ((c.kind = .openai ∧ c.config.batchSize < 0) ∨
    ((c.kind = .openai → 0 < c.config.batchSize) ∧ c.response [text] s = .vectors []))

/-! ### Connecting -/

theorem connect_of_connects (hi : c.behaviour.installed = true) (h : c.Connects s) :
    ∃ s', c.connect s = (.ok (), s') ∧ s'.service = s.service := by
  unfold connect
  by_cases hs : s.connected = true
  · exact ⟨s, if_pos hs, rfl⟩
  · obtain ⟨key, hk, hne, ho⟩ := h.resolve_left hs
    rw [if_neg hs, if_neg (by simp [hi]), hk]
    split
    · next h => cases h
    · next h =>
      cases h
      exact absurd rfl hne
    · next h =>
      cases h
      rw [ho]
      exact ⟨_, rfl, rfl⟩

theorem connect_of_not_connects (hi : c.behaviour.installed = true) (h : ¬ c.Connects s) :
    ∃ e, c.connect s = (.error e, s) := by
  obtain ⟨hs, hkey⟩ := not_or.1 h
  unfold connect
  rw [if_neg hs, if_neg (by simp [hi])]
  split
  · exact ⟨_, rfl⟩
  · exact ⟨_, rfl⟩
  · next key hne hk =>
    split
    · exact ⟨_, rfl⟩
    · next ho => exact absurd ⟨key, hk, hne, ho⟩ hkey

theorem connect_escapes_iff (hi : c.behaviour.installed = true) :
    (c.connect s).1 = .error e ∧ ¬ e.IsEmbedding ↔
      s.connected = false ∧ ∃ key, c.config.apiKey = some key ∧ key ≠ "" ∧
        c.behaviour.obstacle? key c.config.timeout c.url? = some e ∧ ¬ e.IsEmbedding := by
  constructor
  · rintro ⟨h, he⟩
    unfold connect at h
    split at h
    · cases h
    · next hs =>
      rw [if_neg (by simp [hi])] at h
      split at h
      · cases h
        exact absurd ⟨_, rfl⟩ he
      · cases h
        exact absurd ⟨_, rfl⟩ he
      · next key hne hk =>
        split at h
        · next ho =>
          cases h
          exact ⟨by simpa using hs, key, hk, hne, ho, he⟩
        · cases h
  · rintro ⟨hs, key, hk, hne, ho, he⟩
    simp [connect, hs, hi, hk, ho, he]

/-- Without a client only the making of one can make a call escape. -/
theorem escapes_of_not_connects (h : ¬ c.Connects s) : c.Escapes texts s e ↔
    s.connected = false ∧ ∃ key, c.config.apiKey = some key ∧ key ≠ "" ∧
      c.behaviour.obstacle? key c.config.timeout c.url? = some e ∧ ¬ e.IsEmbedding := by
  constructor
  · intro he
    cases he with
    | obstacle hs hk hne ho he => exact ⟨hs, _, hk, hne, ho, he⟩
    | shapeless hs => exact absurd hs h
    | unlisted hs => exact absurd hs h
  · rintro ⟨hs, key, hk, hne, ho, he⟩
    exact .obstacle hs hk hne ho he

/-! ### Requests -/

/-- What a response means to the client of a service. -/
def reading (k : Service) : Response → Except Error (List Value)
  | .vectors values => .ok values
  | .refused reason => .error (.embedding (.requestFailed k reason))
  | .shapeless cause =>
    .error (if k = .openai then .embedding (.requestFailed k cause.message) else cause)

theorem request_fst (c : Client σ) (texts : List String) (s : Connection σ) :
    (c.request texts s).1 = reading c.kind (c.response texts s) := by
  unfold request response
  generalize c.behaviour.respond c.config.modelName texts s.service = r
  obtain ⟨response, service⟩ := r
  cases response <;> cases c.kind <;> rfl

/-- What one service says is always caught. -/
theorem request_isEmbedding (hk : c.kind = .openai) (texts : List String) (s : Connection σ) :
    (c.request texts s).1.FailsWith Error.IsEmbedding := by
  rw [request_fst, hk]
  cases c.response texts s with
  | vectors values => exact .ok _
  | refused reason => exact .error ⟨_, rfl⟩
  | shapeless cause => exact .error ⟨_, rfl⟩

theorem requestAll_isEmbedding (hk : c.kind = .openai) (size : Nat) (texts : List String)
    (s : Connection σ) : (c.requestAll size texts s).1.FailsWith Error.IsEmbedding := by
  induction h : texts.length using Nat.strongRecOn generalizing texts s with
  | ind n ih =>
    have hr := request_isEmbedding hk (texts.take size) s
    rw [requestAll]
    split
    · exact .ok _
    · next hne =>
      split
      · next h' =>
        rw [h'] at hr
        exact .error (hr _ rfl)
      · refine (ih _ ?_ (texts.drop size) _ rfl).map _
        have : texts.length ≠ 0 := fun hz => hne (.inl (List.length_eq_zero_iff.1 hz))
        simp only [List.length_drop]
        omega

theorem listed_error_iff {v : Value} : listed v = .error e ↔
    v.parts? = none ∧ e = .wrongType ("'" ++ v.typeName ++ "' object is not iterable") := by
  unfold listed
  split <;> simp [*, eq_comm]

theorem listed_ok_iff {v : Value} : (∃ w, listed v = .ok w) ↔ ∃ parts, v.parts? = some parts := by
  unfold listed
  split <;> simp [*]

/-! ### Calls -/

section

variable {s' : Connection σ} (hs : c.connect s = (.ok (), s'))
include hs

theorem embedBatch_openai (hk : c.kind = .openai) : c.embedBatch texts s =
    if c.config.batchSize = 0 then
      (.error (.embedding (.requestFailed .openai Error.emptyBatch.message)), s')
    else c.requestAll c.config.batchSize.toNat texts s' := by
  rw [embedBatch, hs]
  dsimp only
  rw [hk]

theorem embedBatch_other (hk : c.kind ≠ .openai) : (c.embedBatch texts s).1 =
    reading c.kind (c.response texts s') >>= fun vs => vs.mapM listed := by
  rw [embedBatch, hs, ← request_fst]
  dsimp only
  split
  · contradiction
  · rfl

end

theorem embedBatch_isEmbedding (hk : c.kind = .openai) {s' : Connection σ}
    (hs : c.connect s = (.ok (), s')) :
    (c.embedBatch texts s).1.FailsWith Error.IsEmbedding := by
  rw [embedBatch_openai hs hk]
  split
  · exact .error ⟨_, rfl⟩
  · exact requestAll_isEmbedding hk _ _ _

theorem reading_escapes_iff {k : Service} {r : Response} :
    reading k r = .error e ∧ ¬ e.IsEmbedding ↔
      k ≠ .openai ∧ r = .shapeless e ∧ ¬ e.IsEmbedding := by
  cases r with
  | vectors values => simp [reading]
  | refused reason =>
    constructor
    · rintro ⟨⟨⟩, he⟩
      exact absurd ⟨_, rfl⟩ he
    · rintro ⟨-, ⟨⟩, -⟩
  | shapeless cause =>
    by_cases hk : k = .openai
    · constructor
      · rintro ⟨h, he⟩
        rw [reading, if_pos hk] at h
        cases h
        exact absurd ⟨_, rfl⟩ he
      · exact fun h => absurd hk h.1
    · simp [reading, hk]

/-- Once there is a client, only a response can make the call of one of the services escape. -/
theorem escapes_of_connects (hc : c.Connects s) : c.Escapes texts s e ↔ c.kind ≠ .openai ∧
    ((c.response texts s = .shapeless e ∧ ¬ e.IsEmbedding) ∨
      ∃ before v after, c.response texts s = .vectors (before ++ v :: after) ∧
        (∀ w ∈ before, ∃ parts, w.parts? = some parts) ∧ v.parts? = none ∧
          e = .wrongType ("'" ++ v.typeName ++ "' object is not iterable")) := by
  constructor
  · intro h
    cases h with
    | obstacle hs hk hne ho he =>
      rcases hc with hc | ⟨key, hk', -, ho'⟩
      · simp [hs] at hc
      · cases hk.symm.trans hk'
        cases ho.symm.trans ho'
    | shapeless _ hk h he => exact ⟨hk, .inl ⟨h, he⟩⟩
    | unlisted _ hk h hb hv => exact ⟨hk, .inr ⟨_, _, _, h, hb, hv, rfl⟩⟩
  · rintro ⟨hk, ⟨h, he⟩ | ⟨before, v, after, h, hb, hv, rfl⟩⟩
    · exact .shapeless hc hk h he
    · exact .unlisted hc hk h hb hv

theorem embedBatch_escapes_iff (hi : c.behaviour.installed = true) :
    (c.embedBatch texts s).1 = .error e ∧ ¬ e.IsEmbedding ↔ c.Escapes texts s e := by
  by_cases hc : c.Connects s
  · obtain ⟨s', hs', hservice⟩ := connect_of_connects hi hc
    have hresponse : c.response texts s' = c.response texts s := by
      rw [response, hservice]
      rfl
    rw [escapes_of_connects hc]
    by_cases hk : c.kind = .openai
    · exact ⟨fun h => absurd (embedBatch_isEmbedding hk hs' e h.1) h.2, fun h => absurd hk h.1⟩
    · rw [embedBatch_other hs' hk, hresponse, Except.bind_eq_error_iff, or_and_right,
        reading_escapes_iff]
      constructor
      · rintro (⟨-, h, he⟩ | ⟨⟨vs, hvs, h⟩, -⟩)
        · exact ⟨hk, .inl ⟨h, he⟩⟩
        · obtain ⟨before, v, after, rfl, hb, hv⟩ := Except.mapM_eq_error_iff.1 h
          obtain ⟨hparts, rfl⟩ := listed_error_iff.1 hv
          refine ⟨hk, .inr ⟨before, v, after, ?_, fun w hw => listed_ok_iff.1 (hb w hw), hparts,
            rfl⟩⟩
          cases hr : c.response texts s with
          | vectors values =>
            rw [hr] at hvs
            exact congrArg _ (Except.ok.inj hvs)
          | refused reason =>
            rw [hr] at hvs
            cases hvs
          | shapeless cause =>
            rw [hr] at hvs
            cases hvs
      · rintro ⟨-, ⟨h, he⟩ | ⟨before, v, after, h, hb, hv, rfl⟩⟩
        · exact .inl ⟨hk, h, he⟩
        · refine .inr ⟨⟨_, by rw [h]; rfl, Except.mapM_eq_error_iff.2 ⟨before, v, after, rfl,
            fun w hw => listed_ok_iff.2 (hb w hw), listed_error_iff.2 ⟨hv, rfl⟩⟩⟩, nofun⟩
  · obtain ⟨e', he'⟩ := connect_of_not_connects hi hc
    have hsame : (c.embedBatch texts s).1 = .error e ↔ (c.connect s).1 = .error e := by
      rw [embedBatch, he']
      simp
    rw [hsame, connect_escapes_iff hi, escapes_of_not_connects hc]

theorem reading_ok_iff {k : Service} {r : Response} {vs : List Value} :
    reading k r = .ok vs ↔ r = .vectors vs := by
  cases r <;> simp [reading]

/-- One text is sent in one request. -/
theorem requestAll_singleton {size : Nat} (h : size ≠ 0) {vs : List Value} :
    (c.requestAll size [text] s).1 = .ok vs ↔ reading c.kind (c.response [text] s) = .ok vs := by
  have htake : [text].take size = [text] := List.take_of_length_le (by simpa using by omega)
  have hdrop : [text].drop size = [] := List.drop_of_length_le (by simpa using by omega)
  rw [requestAll, if_neg (by simp [h]), htake, hdrop, ← request_fst]
  split
  · next hr => rw [hr]
  · next values s' hr =>
    rw [hr, requestAll, if_pos (.inl rfl)]
    simp [Except.map]

theorem embedBatch_nil_iff (hi : c.behaviour.installed = true) :
    (c.embedBatch [text] s).1 = .ok [] ↔ c.Vectorless text s := by
  by_cases hc : c.Connects s
  · obtain ⟨s', hs', hservice⟩ := connect_of_connects hi hc
    have hresponse : c.response [text] s' = c.response [text] s := by
      rw [response, hservice]
      rfl
    rw [Vectorless, and_iff_right hc, ← hresponse]
    by_cases hk : c.kind = .openai
    · rw [embedBatch_openai hs' hk]
      rcases lt_trichotomy c.config.batchSize 0 with hb | hb | hb
      · rw [if_neg (by omega), requestAll, if_pos (.inr (by omega))]
        exact ⟨fun _ => .inl ⟨hk, hb⟩, fun _ => rfl⟩
      · rw [if_pos hb]
        simp [hb, hk]
      · rw [if_neg (by omega), requestAll_singleton (by omega), reading_ok_iff]
        constructor
        · exact fun h => .inr ⟨fun _ => hb, h⟩
        · rintro (⟨-, h⟩ | ⟨-, h⟩)
          · omega
          · exact h
    · rw [embedBatch_other hs' hk, Except.bind_eq_ok_iff]
      simp only [reading_ok_iff, Except.mapM_eq_ok_iff, List.forall₂_nil_right_iff, hk, false_and,
        false_or, false_implies, true_and, exists_eq_right]
  · obtain ⟨e, he⟩ := connect_of_not_connects hi hc
    rw [embedBatch, he]
    exact ⟨nofun, fun h => absurd h.1 hc⟩

theorem embedText_escapes_iff (hi : c.behaviour.installed = true) :
    (c.embedText text s).1 = .error e ∧ ¬ e.IsEmbedding ↔
      c.Escapes [text] s e ∨ (c.Vectorless text s ∧ e = .indexOutOfRange) := by
  rw [← embedBatch_escapes_iff hi, ← embedBatch_nil_iff hi, embedText]
  generalize c.embedBatch [text] s = r
  obtain ⟨r, s'⟩ := r
  cases r with
  | error e' => simp
  | ok values =>
    cases values with
    | nil =>
      constructor
      · rintro ⟨⟨⟩, -⟩
        exact .inr ⟨rfl, rfl⟩
      · rintro (⟨⟨⟩, -⟩ | ⟨-, rfl⟩)
        exact ⟨rfl, nofun⟩
    | cons v values => simp

end Remote.Client

/-! ## A local server -/

namespace Local

/-- The errors of another kind that a response to a question means. -/
inductive Response.Escapes : Response → Error → Prop
  /-- The client fails in a way that is not foreseen. -/
  | failed {cause : Error} (he : ¬ cause.IsEmbedding) : Escapes (.failed cause false) cause
  | tooDeep {status : Nat} {body : Body} {reason : String} (hs : Web.Status.isSuccess status = true)
    (h : body.read = .error (.tooDeep reason)) : Escapes (.answer status body) (.tooDeep reason)
  /-- The answer has no fields. -/
  | shape {status : Nat} {body : Body} {v : Value} {e : Error}
    (hs : Web.Status.isSuccess status = true) (h : body.read = .ok v)
    (hm : ∀ fields, v ≠ .mapping fields) (he : vectorField v = .error e) :
    Escapes (.answer status body) e

variable {σ : Type} {c : Client σ} {s : Connection σ} {texts : List String} {text : String}
  {e : Error}

theorem vectorField_mapping (fields : List (String × Value)) :
    (vectorField (.mapping fields)).FailsWith Error.IsEmbedding := by
  rw [vectorField]
  split
  · exact .ok _
  · exact .error ⟨_, rfl⟩

theorem vectorField_other {v : Value} (hm : ∀ fields, v ≠ .mapping fields) :
    ∃ reason, vectorField v = .error (.wrongType reason) := by
  unfold vectorField
  split
  · exact absurd rfl (hm _)
  all_goals exact ⟨_, rfl⟩

theorem vectorOf_escapes_iff {a : Web.Address} {r : Response} :
    vectorOf a r = .error e ∧ ¬ e.IsEmbedding ↔ r.Escapes e := by
  constructor
  · rintro ⟨h, he⟩
    cases r with
    | broken reason =>
      cases h
      exact absurd ⟨_, rfl⟩ he
    | failed cause foreseen =>
      cases foreseen with
      | true =>
        cases h
        exact absurd ⟨_, rfl⟩ he
      | false =>
        cases h
        exact .failed he
    | answer status body =>
      rw [vectorOf] at h
      split at h
      · cases h
        exact absurd ⟨_, rfl⟩ he
      · next hs =>
        have hs : Web.Status.isSuccess status = true := by simpa using hs
        split at h
        · cases h
          exact absurd ⟨_, rfl⟩ he
        · next hb =>
          cases h
          exact .tooDeep hs hb
        · next v hb =>
          refine .shape hs hb ?_ h
          rintro fields rfl
          exact he (vectorField_mapping fields e h)
  · intro h
    cases h with
    | failed he => exact ⟨rfl, he⟩
    | tooDeep hs hb => exact ⟨by simp [vectorOf, hs, hb], nofun⟩
    | shape hs hb hm hf =>
      refine ⟨by simpa [vectorOf, hs, hb] using hf, ?_⟩
      obtain ⟨reason, hreason⟩ := vectorField_other hm
      cases hreason.symm.trans hf
      exact nofun

namespace Client

/-- The errors of another kind that making a link ready ends with. -/
inductive OpeningEscapes (c : Client σ) (s : Connection σ) : Error → Prop
  | address {fault : AddressFault} (hr : s.link.ready = false) (h : c.endpoint = .error fault) :
    OpeningEscapes c s (.badAddress fault)
  | untyped {address : Web.Address} {status : Nat} {body : Body} (hr : s.link.ready = false)
    (h : c.endpoint = .ok address) (ht : address.hasType = false)
    (ha : (c.respond greeting s.server).1 = .answer status body) :
    OpeningEscapes c s (.untypedAddress address.shown)
  /-- The client fails, foreseen or not. -/
  | failed {address : Web.Address} {cause : Error} {foreseen : Bool} (hr : s.link.ready = false)
    (h : c.endpoint = .ok address) (ha : (c.respond greeting s.server).1 = .failed cause foreseen)
    (he : ¬ cause.IsEmbedding) : OpeningEscapes c s cause

/-- The errors of another kind that a question over a link that is ready ends with. -/
inductive AskingEscapes (c : Client σ) (text : String) (s : Connection σ) : Error → Prop
  /-- Another call has given the client up. -/
  | unconnected (h : s.link.connected = false) : AskingEscapes c text s .missingOperation
  | address {fault : AddressFault} (hc : s.link.connected = true) (h : c.endpoint = .error fault) :
    AskingEscapes c text s (.badAddress fault)
  | response {address : Web.Address} {e : Error} (hc : s.link.connected = true)
    (h : c.endpoint = .ok address) (hr : (c.respond text s.server).1.Escapes e) :
    AskingEscapes c text s e

theorem post_fst (c : Client σ) (address : Web.Address) (prompt : String) (s : Connection σ) :
    (c.post address prompt s).1 = (c.respond prompt s.server).1 := rfl

/-- Only a client that fails can make a greeting escape. -/
theorem greeted_escapes_iff {url model : String} {r : Response} {l : Link} :
    (l.greeted url model r).1 = .error e ∧ ¬ e.IsEmbedding ↔
      (∃ foreseen, r = .failed e foreseen) ∧ ¬ e.IsEmbedding := by
  cases r with
  | broken reason =>
    constructor
    · rintro ⟨⟨⟩, he⟩
      exact absurd ⟨_, rfl⟩ he
    · rintro ⟨⟨_, ⟨⟩⟩, -⟩
  | failed cause foreseen => simp [Link.greeted]
  | answer status body =>
    rw [Link.greeted]
    split
    · simp
    · constructor
      · rintro ⟨⟨⟩, he⟩
        exact absurd ⟨_, rfl⟩ he
      · rintro ⟨⟨_, ⟨⟩⟩, -⟩

section

variable {address : Web.Address} (hr : s.link.ready = false) (he : c.endpoint = .ok address)
include hr he

theorem makeReady_of_endpoint : (c.makeReady s).1 =
    if ((c.respond greeting s.server).1.isAnswer && !address.hasType) = true then
      .error (.untypedAddress address.shown)
    else (s.link.opened.greeted c.url c.config.modelName (c.respond greeting s.server).1).1 := by
  simp only [makeReady, hr, he, post, Bool.false_eq_true, if_false]
  exact apply_ite Prod.fst _ _ _

/-- With an address to go to, the greeting makes the link escape, or the address with it. -/
theorem openingEscapes_of_endpoint : c.OpeningEscapes s e ↔
    if ((c.respond greeting s.server).1.isAnswer && !address.hasType) = true then
      e = .untypedAddress address.shown
    else (∃ foreseen, (c.respond greeting s.server).1 = .failed e foreseen) ∧ ¬ e.IsEmbedding := by
  constructor
  · intro h
    cases h with
    | address _ h => cases he.symm.trans h
    | untyped _ h ht ha =>
      cases he.symm.trans h
      simp [ha, ht, Response.isAnswer]
    | failed _ _ ha hne =>
      rw [ha]
      exact ⟨⟨_, rfl⟩, hne⟩
  · split
    · next hanswer =>
      rintro rfl
      obtain ⟨ha, ht⟩ := (Bool.and_eq_true _ _).mp hanswer
      cases hresponse : (c.respond greeting s.server).1 with
      | answer status body => exact .untyped hr he (by simpa using ht) hresponse
      | broken reason => simp [hresponse, Response.isAnswer] at ha
      | failed cause foreseen => simp [hresponse, Response.isAnswer] at ha
    · rintro ⟨⟨foreseen, ha⟩, hne⟩
      exact .failed hr he ha hne

end

theorem makeReady_escapes_iff :
    (c.makeReady s).1 = .error e ∧ ¬ e.IsEmbedding ↔ c.OpeningEscapes s e := by
  cases hr : s.link.ready with
  | true =>
    rw [makeReady, if_pos hr]
    constructor
    · rintro ⟨⟨⟩, -⟩
    · intro h
      cases h with
      | address hr' => cases hr.symm.trans hr'
      | untyped hr' => cases hr.symm.trans hr'
      | failed hr' => cases hr.symm.trans hr'
  | false =>
    cases hend : c.endpoint with
    | error fault =>
      rw [makeReady, if_neg (by simp [hr]), hend]
      constructor
      · rintro ⟨⟨⟩, -⟩
        exact .address hr hend
      · intro h
        cases h with
        | address _ h =>
          cases hend.symm.trans h
          exact ⟨rfl, nofun⟩
        | untyped _ h => cases hend.symm.trans h
        | failed _ h => cases hend.symm.trans h
    | ok address =>
      rw [makeReady_of_endpoint hr hend, openingEscapes_of_endpoint hr hend]
      split
      · constructor
        · rintro ⟨⟨⟩, -⟩
          rfl
        · rintro rfl
          exact ⟨rfl, nofun⟩
      · exact greeted_escapes_iff

theorem ask_escapes_iff :
    (c.ask text s).1 = .error e ∧ ¬ e.IsEmbedding ↔ c.AskingEscapes text s e := by
  unfold ask
  cases hc : s.link.connected with
  | false =>
    constructor
    · rintro ⟨⟨⟩, -⟩
      exact .unconnected hc
    · intro h
      cases h with
      | unconnected => exact ⟨rfl, nofun⟩
      | address hc' => cases hc.symm.trans hc'
      | response hc' => cases hc.symm.trans hc'
  | true =>
    cases he : c.endpoint with
    | error fault =>
      constructor
      · rintro ⟨⟨⟩, -⟩
        exact .address hc he
      · intro h
        cases h with
        | unconnected hc' => cases hc.symm.trans hc'
        | address _ h =>
          cases he.symm.trans h
          exact ⟨rfl, nofun⟩
        | response _ h => cases he.symm.trans h
    | ok address =>
      dsimp only
      rw [post_fst, vectorOf_escapes_iff]
      constructor
      · exact .response hc he
      · intro h
        cases h with
        | unconnected hc' => cases hc.symm.trans hc'
        | address _ h => cases he.symm.trans h
        | response _ _ hr => exact hr

theorem embedText_escapes_iff : (c.embedText text s).1 = .error e ∧ ¬ e.IsEmbedding ↔
    c.OpeningEscapes s e ∨ ∃ s', c.makeReady s = (.ok (), s') ∧ c.AskingEscapes text s' e := by
  rw [← makeReady_escapes_iff, embedText]
  generalize c.makeReady s = r
  obtain ⟨r, s'⟩ := r
  cases r with
  | error e' => simp
  | ok _ => simp [← ask_escapes_iff]

/-! ### Batches -/

theorem askAll_append (c : Client σ) (before after : List String) (s : Connection σ) :
    c.askAll (before ++ after) s =
      ((c.askAll before s).1 ++ (c.askAll after (c.askAll before s).2).1,
        (c.askAll after (c.askAll before s).2).2) := by
  induction before generalizing s with
  | nil => rfl
  | cons text texts ih => simp only [List.cons_append, askAll, ih]

/-- In batches the same questions are asked, up to the batch in which one fails. -/
theorem askBatches_fst {size : Nat} (h : size ≠ 0) (texts : List String) (s : Connection σ) :
    (c.askBatches size texts s).1 = (c.askAll texts s).1.mapM id := by
  induction hn : texts.length using Nat.strongRecOn generalizing texts s with
  | ind n ih =>
    rw [askBatches]
    split
    · next h' =>
      rw [h'.resolve_right h]
      rfl
    · next hne =>
      have hlt : (texts.drop size).length < n := by
        have : texts.length ≠ 0 := fun hz => hne (.inl (List.length_eq_zero_iff.1 hz))
        simp only [List.length_drop]
        omega
      conv_rhs => rw [← List.take_append_drop size texts, askAll_append, List.mapM_append]
      dsimp only
      split
      · next he =>
        rw [he]
        rfl
      · next values hv =>
        rw [hv, ← ih _ hlt (texts.drop size) _ rfl]
        cases (c.askBatches size (texts.drop size) (c.askAll (texts.take size) s).2).1 <;> rfl

/-- Questions fail as the first one fails that does. -/
theorem askAll_error_iff : (c.askAll texts s).1.mapM id = .error e ↔
    ∃ before text after, texts = before ++ text :: after ∧
      (∀ r ∈ (c.askAll before s).1, ∃ v, r = .ok v) ∧
        (c.ask text (c.askAll before s).2).1 = .error e := by
  induction texts generalizing s with
  | nil => simp [askAll, pure, Except.pure]
  | cons first texts ih =>
    have hcons : (c.askAll (first :: texts) s).1.mapM id = .error e ↔
        (c.ask first s).1 = .error e ∨ ∃ v, (c.ask first s).1 = .ok v ∧
          (c.askAll texts (c.ask first s).2).1.mapM id = .error e := by
      simp only [askAll, List.mapM_cons, Except.bind_eq_error_iff, id]
      simp [pure, Except.pure]
    rw [hcons, ih]
    constructor
    · rintro (h | ⟨v, hv, before, text, after, rfl, hb, h⟩)
      · exact ⟨[], first, texts, rfl, nofun, h⟩
      · exact ⟨first :: before, text, after, rfl, List.forall_mem_cons.2 ⟨⟨v, hv⟩, hb⟩, h⟩
    · rintro ⟨before, text, after, h, hb, he⟩
      cases before with
      | nil =>
        cases h
        exact .inl he
      | cons _ before =>
        cases h
        obtain ⟨⟨v, hv⟩, hb⟩ := List.forall_mem_cons.1 hb
        exact .inr ⟨v, hv, before, text, after, rfl, hb, he⟩

theorem embedBatch_escapes_iff : (c.embedBatch texts s).1 = .error e ∧ ¬ e.IsEmbedding ↔
    c.OpeningEscapes s e ∨ ∃ s', c.makeReady s = (.ok (), s') ∧
      ((c.config.batchSize = 0 ∧ e = .emptyBatch) ∨
        (0 < c.config.batchSize ∧ ∃ before text after, texts = before ++ text :: after ∧
          (∀ r ∈ (c.askAll before s').1, ∃ v, r = .ok v) ∧
            c.AskingEscapes text (c.askAll before s').2 e)) := by
  rw [← makeReady_escapes_iff, embedBatch]
  generalize c.makeReady s = r
  obtain ⟨r, s'⟩ := r
  cases r with
  | error e' => simp
  | ok _ =>
    simp only [reduceCtorEq, false_and, false_or, Prod.mk.injEq, true_and, exists_eq_left',
      ← ask_escapes_iff]
    rcases lt_trichotomy c.config.batchSize 0 with hb | hb | hb
    · rw [if_neg (by omega), askBatches, if_pos (.inr (by omega))]
      constructor
      · rintro ⟨⟨⟩, -⟩
      · rintro (⟨h, -⟩ | ⟨h, -⟩) <;> omega
    · rw [if_pos hb]
      constructor
      · rintro ⟨⟨⟩, -⟩
        exact .inl ⟨hb, rfl⟩
      · rintro (⟨-, rfl⟩ | ⟨h, -⟩)
        · exact ⟨rfl, nofun⟩
        · omega
    · rw [if_neg (by omega), askBatches_fst (by omega), askAll_error_iff]
      constructor
      · rintro ⟨⟨before, text, after, rfl, hb', h⟩, he⟩
        exact .inr ⟨hb, before, text, after, rfl, hb', h, he⟩
      · rintro (⟨h, -⟩ | ⟨-, before, text, after, rfl, hb', h, he⟩)
        · omega
        · exact ⟨⟨before, text, after, rfl, hb', h⟩, he⟩

end Client
end Local

/-- **How calls of services fail.** Whatever the configuration, the behaviour of the service and the
state that a call finds: a call of a remote service whose package is installed, or of a local server,
fails with an error of another kind than `Error.IsEmbedding` exactly for one of the reasons listed
above. In a batch for a local server the first question that fails decides. -/
theorem Service.calls_escape_iff {σ : Type} :
    (∀ (c : Remote.Client σ) s, c.behaviour.installed = true →
      (∀ texts e, (c.embedBatch texts s).1 = .error e ∧ ¬ e.IsEmbedding ↔ c.Escapes texts s e) ∧
      ∀ text e, (c.embedText text s).1 = .error e ∧ ¬ e.IsEmbedding ↔
        c.Escapes [text] s e ∨ (c.Vectorless text s ∧ e = .indexOutOfRange)) ∧
    ∀ (c : Local.Client σ) s,
      (∀ text e, (c.embedText text s).1 = .error e ∧ ¬ e.IsEmbedding ↔
        c.OpeningEscapes s e ∨ ∃ s', c.makeReady s = (.ok (), s') ∧ c.AskingEscapes text s' e) ∧
      ∀ texts e, (c.embedBatch texts s).1 = .error e ∧ ¬ e.IsEmbedding ↔
        c.OpeningEscapes s e ∨ ∃ s', c.makeReady s = (.ok (), s') ∧
          ((c.config.batchSize = 0 ∧ e = .emptyBatch) ∨
            (0 < c.config.batchSize ∧ ∃ before text after, texts = before ++ text :: after ∧
              (∀ r ∈ (c.askAll before s').1, ∃ v, r = .ok v) ∧
                c.AskingEscapes text (c.askAll before s').2 e)) :=
  ⟨fun _ _ hi => ⟨fun _ _ => Remote.Client.embedBatch_escapes_iff hi,
    fun _ _ => Remote.Client.embedText_escapes_iff hi⟩,
    fun _ _ => ⟨fun _ _ => Local.Client.embedText_escapes_iff,
      fun _ _ => Local.Client.embedBatch_escapes_iff⟩⟩

/-- A service that answers without any vector. -/
def Remote.Client.silent : Client Unit :=
  ⟨.openai, { apiKey := some "k" }, { installed := true, respond := fun _ _ s => (.vectors [], s) }⟩

/-- Then there is no first vector to be given. -/
theorem Remote.Client.silent_escapes :
    silent.behaviour.installed = true ∧
      ((silent.embedText "x" ⟨false, [], ()⟩).1 = .error .indexOutOfRange ∧
        ¬ Error.indexOutOfRange.IsEmbedding) :=
  ⟨rfl, ((Service.calls_escape_iff.1 silent ⟨false, [], ()⟩ rfl).2 "x" .indexOutOfRange).2
    (.inr ⟨⟨.inr ⟨"k", rfl, by decide, rfl⟩, .inr ⟨fun _ => by decide, rfl⟩⟩, rfl⟩)⟩

/-- A local server that answers with a list. -/
def Local.Client.enumerating : Client Unit :=
  ⟨{}, fun _ s => (.answer 200 (.value (.list [.real 1.0])), s)⟩

/-- A list has no fields, which is not caught. -/
theorem Local.Client.enumerating_escapes :
    ∃ e, (enumerating.embedText "x" ⟨{}, [], ()⟩).1 = .error e ∧ ¬ e.IsEmbedding := by
  have h : (match (enumerating.embedText "x" ⟨{}, [], ()⟩).1 with
      | .error e => some e
      | .ok _ => none) = some (.wrongType "list indices must be integers or slices, not str") := by
    decide +kernel
  split at h
  · next e he =>
    cases h
    exact ⟨_, he, nofun⟩
  · cases h

end CodeAtlas
