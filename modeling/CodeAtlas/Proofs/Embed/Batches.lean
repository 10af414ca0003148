import CodeAtlas.Proofs.Embed.Services

/-!
# Batches

A call for the vectors of many texts sends them in batches of a configured size. If the service
gives one vector per text, in the order of the texts, then so does the call, whatever the positive
size is: also if it does not divide the number of texts, or exceeds it. Settings do not keep the
size positive. Size zero makes every call fail, and with a negative size a call gives no vector at
all (`Service.batch_complete_or_void`).
-/

namespace CodeAtlas

/-- What vectors a call for those of texts gives with batches of a size: for each text one that the
service may give for it, or none at all if the size is negative. -/
def Service.Batched (gives : String → Value → Prop) (size : Int) (texts : List String)
    (vs : List Value) : Prop :=
  (0 < size ∧ List.Forall₂ gives texts vs) ∨ (size < 0 ∧ vs = [])

section

variable {gives : String → Value → Prop} {size : Int} {texts : List String} {vs : List Value}
  (run : Nat → Except Error (List Value))

/-- Batches of a negative size are those of no size. -/
theorem Service.Batched.of_run (hsize : size ≠ 0) (hzero : run 0 = .ok [])
    (hrun : ∀ n ≠ 0, run n = .ok vs → List.Forall₂ gives texts vs) (hr : run size.toNat = .ok vs) :
    Batched gives size texts vs := by
  rcases lt_or_gt_of_ne hsize with hneg | hpos
  · rw [Int.toNat_of_nonpos hneg.le, hzero] at hr
    cases hr
    exact .inr ⟨hneg, rfl⟩
  · exact .inl ⟨hpos, hrun _ (by omega) hr⟩

theorem Service.exists_run_toNat (hzero : run 0 = .ok []) (hrun : ∀ n ≠ 0, ∃ vs, run n = .ok vs)
    (size : Int) : ∃ vs, run size.toNat = .ok vs := by
  by_cases h : size.toNat = 0
  · exact ⟨[], h ▸ hzero⟩
  · exact hrun _ h

end

/-! ## Remote services -/

namespace Remote.Client

variable {σ : Type} {c : Client σ} {gives : String → Value → Prop} {s : Connection σ}
  {texts : List String} {vs : List Value}

/-- A response with vectors holds one for each text that was sent, in their order. -/
def GivesEach (c : Client σ) (gives : String → Value → Prop) : Prop :=
  ∀ texts s vs, c.response texts s = .vectors vs → List.Forall₂ gives texts vs

/-- Every response holds vectors. -/
def Answers (c : Client σ) : Prop := ∀ texts s, ∃ vs, c.response texts s = .vectors vs

theorem request_ok_iff : (c.request texts s).1 = .ok vs ↔ c.response texts s = .vectors vs := by
  rw [request_fst, reading_ok_iff]

/-- One request more: the vectors of the first batch, and those of what is left. -/
theorem requestAll_eq_ok_iff {size : Nat} (h : size ≠ 0) (hne : texts ≠ []) :
    (c.requestAll size texts s).1 = .ok vs ↔
      ∃ first rest, c.response (texts.take size) s = .vectors first ∧
        (c.requestAll size (texts.drop size) (c.request (texts.take size) s).2).1 = .ok rest ∧
          first ++ rest = vs := by
  rw [requestAll, if_neg (by simp [h, hne])]
  simp only [← request_ok_iff]
  split
  · next hr => simp [hr]
  · next first s' hr => simp [hr, Except.map_eq_ok_iff]

theorem requestAll_nil {size : Nat} : c.requestAll size [] s = (.ok [], s) := by simp [requestAll]

theorem requestAll_zero : c.requestAll 0 texts s = (.ok [], s) := by simp [requestAll]

theorem length_drop_lt {size : Nat} (h : size ≠ 0) (hne : texts ≠ []) :
    (texts.drop size).length < texts.length := by
  have := List.length_pos_iff.2 hne
  rw [List.length_drop]
  omega

/-- The vectors of the batches are those of the texts, by induction on the number of texts that are
left. -/
theorem requestAll_forall₂ {size : Nat} (h : size ≠ 0) (hg : c.GivesEach gives)
    (hr : (c.requestAll size texts s).1 = .ok vs) : List.Forall₂ gives texts vs := by
  induction hn : texts.length using Nat.strongRecOn generalizing texts s vs with
  | ind n ih =>
    by_cases hne : texts = []
    · subst hne
      rw [requestAll_nil] at hr
      cases hr
      exact .nil
    · obtain ⟨first, rest, hfirst, hrest, rfl⟩ := (requestAll_eq_ok_iff h hne).1 hr
      have hrest := ih _ (hn ▸ length_drop_lt h hne) hrest rfl
      rw [← List.take_append_drop size texts]
      exact List.rel_append (hg _ _ _ hfirst) hrest

theorem requestAll_returns {size : Nat} (h : size ≠ 0) (ha : c.Answers) (texts : List String)
    (s : Connection σ) : ∃ vs, (c.requestAll size texts s).1 = .ok vs := by
  induction hn : texts.length using Nat.strongRecOn generalizing texts s with
  | ind n ih =>
    by_cases hne : texts = []
    · exact ⟨[], by rw [hne, requestAll_nil]⟩
    · obtain ⟨first, hfirst⟩ := ha (texts.take size) s
      obtain ⟨rest, hrest⟩ := ih _ (hn ▸ length_drop_lt h hne) (texts.drop size)
        (c.request (texts.take size) s).2 rfl
      exact ⟨first ++ rest, (requestAll_eq_ok_iff h hne).2 ⟨first, rest, hfirst, hrest, rfl⟩⟩

/-- A call that gives vectors has a client, and batches are not empty. -/
theorem embedBatch_openai_eq_ok_iff (hk : c.kind = .openai) :
    (c.embedBatch texts s).1 = .ok vs ↔ c.config.batchSize ≠ 0 ∧ ∃ s', c.connect s = (.ok (), s') ∧
      (c.requestAll c.config.batchSize.toNat texts s').1 = .ok vs := by
  cases hs : c.connect s with
  | mk r s' =>
    cases r with
    | error e => simp [embedBatch, hs]
    | ok =>
      rw [embedBatch_openai hs hk]
      split <;> simp [*]

theorem embedBatch_batched (hk : c.kind = .openai) (hg : c.GivesEach gives)
    (hr : (c.embedBatch texts s).1 = .ok vs) :
    Service.Batched gives c.config.batchSize texts vs := by
  obtain ⟨hsize, s', -, hr⟩ := (embedBatch_openai_eq_ok_iff hk).1 hr
  exact .of_run (fun n => (c.requestAll n texts s').1) hsize (by rw [requestAll_zero])
    (fun _ h => requestAll_forall₂ h hg) hr

theorem embedBatch_returns_iff (hk : c.kind = .openai) (hi : c.behaviour.installed = true)
    (hc : c.Connects s) (ha : c.Answers) :
    (∃ vs, (c.embedBatch texts s).1 = .ok vs) ↔ c.config.batchSize ≠ 0 := by
  obtain ⟨s', hs', -⟩ := connect_of_connects hi hc
  simp only [embedBatch_openai_eq_ok_iff hk, hs']
  constructor
  · rintro ⟨vs, h, -⟩
    exact h
  · intro h
    obtain ⟨vs, hvs⟩ := Service.exists_run_toNat (fun n => (c.requestAll n texts s').1)
      (by rw [requestAll_zero]) (fun _ h => requestAll_returns h ha texts s') c.config.batchSize
    exact ⟨vs, h, s', rfl, hvs⟩

end Remote.Client

/-! ## A local server -/

namespace Local.Client

variable {σ : Type} {c : Client σ} {gives : String → Value → Prop} {s : Connection σ}
  {texts : List String} {text : String} {v : Value} {vs : List Value}

/-- A vector in a response to a text is one for that text. -/
def GivesEach (c : Client σ) (gives : String → Value → Prop) : Prop :=
  ∀ text server address v, vectorOf address (c.respond text server).1 = .ok v → gives text v

/-- Every response holds a vector. -/
def Answers (c : Client σ) : Prop :=
  ∀ text server address, ∃ v, vectorOf address (c.respond text server).1 = .ok v

/-- The link is there, or the greeting makes it, and there is a place where requests go. -/
def Reaches (c : Client σ) (s : Connection σ) : Prop :=
  (∃ address, c.endpoint = .ok address) ∧
    ∃ s', c.makeReady s = (.ok (), s') ∧ s'.link.connected = true

theorem ask_eq_ok_iff : (c.ask text s).1 = .ok v ↔ s.link.connected = true ∧
    ∃ address, c.endpoint = .ok address ∧ vectorOf address (c.respond text s.server).1 = .ok v := by
  rw [ask]
  split <;> simp_all [post_fst]

theorem ask_link : (c.ask text s).2.link = s.link := by
  rw [ask]
  split <;> rfl

/-- Asked one after the other, each text gets an answer of its own, in their order. -/
theorem askAll_forall₂ (hg : c.GivesEach gives) (h : (c.askAll texts s).1.mapM id = .ok vs) :
    List.Forall₂ gives texts vs := by
  induction texts generalizing s vs with
  | nil =>
    cases h
    exact .nil
  | cons text texts ih =>
    simp only [askAll, List.mapM_cons, id, Except.bind_eq_ok_iff] at h
    obtain ⟨v, hv, rest, hrest, h⟩ := h
    cases h
    obtain ⟨-, address, -, hv⟩ := ask_eq_ok_iff.1 hv
    exact .cons (hg _ _ _ _ hv) (ih hrest)

theorem askAll_returns {address : Web.Address} (he : c.endpoint = .ok address) (ha : c.Answers)
    (hs : s.link.connected = true) (texts : List String) :
    ∃ vs, (c.askAll texts s).1.mapM id = .ok vs := by
  induction texts generalizing s with
  | nil => exact ⟨[], rfl⟩
  | cons text texts ih =>
    obtain ⟨v, hv⟩ := ha text s.server address
    have hask : (c.ask text s).1 = .ok v := ask_eq_ok_iff.2 ⟨hs, address, he, hv⟩
    have hlink : (c.ask text s).2.link.connected = true := by rw [ask_link, hs]
    obtain ⟨vs, hvs⟩ := ih hlink
    refine ⟨v :: vs, ?_⟩
    simp only [askAll, List.mapM_cons, id, hask, hvs]
    rfl

theorem askBatches_zero : c.askBatches 0 texts s = (.ok [], s) := by simp [askBatches]

/-- A call that gives vectors has a link that is ready, and batches are not empty. -/
theorem embedBatch_eq_ok_iff :
    (c.embedBatch texts s).1 = .ok vs ↔ c.config.batchSize ≠ 0 ∧
      ∃ s', c.makeReady s = (.ok (), s') ∧
        (c.askBatches c.config.batchSize.toNat texts s').1 = .ok vs := by
  rw [embedBatch]
  cases c.makeReady s with
  | mk r s' =>
    cases r with
    | error e => simp
    | ok =>
      dsimp only
      split <;> simp [*]

theorem embedBatch_batched (hg : c.GivesEach gives) (hr : (c.embedBatch texts s).1 = .ok vs) :
    Service.Batched gives c.config.batchSize texts vs := by
  obtain ⟨hsize, s', -, hr⟩ := embedBatch_eq_ok_iff.1 hr
  refine .of_run (fun n => (c.askBatches n texts s').1) hsize (by rw [askBatches_zero])
    (fun n hn h => ?_) hr
  rw [askBatches_fst hn] at h
  exact askAll_forall₂ hg h

theorem embedBatch_returns_iff (hs : c.Reaches s) (ha : c.Answers) :
    (∃ vs, (c.embedBatch texts s).1 = .ok vs) ↔ c.config.batchSize ≠ 0 := by
  obtain ⟨⟨address, he⟩, s', hs', hlink⟩ := hs
  simp only [embedBatch_eq_ok_iff, hs']
  constructor
  · rintro ⟨vs, h, -⟩
    exact h
  · intro h
    obtain ⟨vs, hvs⟩ := Service.exists_run_toNat (fun n => (c.askBatches n texts s').1)
      (by rw [askBatches_zero])
      (fun n hn => by rw [askBatches_fst hn]; exact askAll_returns he ha hlink texts)
      c.config.batchSize
    exact ⟨vs, h, s', rfl, hvs⟩

end Local.Client

/-- **A batch is complete, or void.** Let a service give vectors one per text, in the order of the
texts: each is one that `gives` allows for its text. Then, for every configuration and every list of
texts, a call that comes to vectors has one for each text, in their order, if batches have a
positive size, and none at all if the size is negative. If the service can be reached and always
answers, a call comes to vectors whatever the size is, unless it is zero. -/
theorem Service.batch_complete_or_void {σ : Type} :
    (∀ (c : Remote.Client σ) s texts, c.kind = .openai →
      (∀ gives vs, c.GivesEach gives → (c.embedBatch texts s).1 = .ok vs →
        Batched gives c.config.batchSize texts vs) ∧
      (c.behaviour.installed = true → c.Connects s → c.Answers →
        ((∃ vs, (c.embedBatch texts s).1 = .ok vs) ↔ c.config.batchSize ≠ 0))) ∧
    ∀ (c : Local.Client σ) s texts,
      (∀ gives vs, c.GivesEach gives → (c.embedBatch texts s).1 = .ok vs →
        Batched gives c.config.batchSize texts vs) ∧
      (c.Reaches s → c.Answers →
        ((∃ vs, (c.embedBatch texts s).1 = .ok vs) ↔ c.config.batchSize ≠ 0)) :=
  ⟨fun _ _ _ hk => ⟨fun _ _ => Remote.Client.embedBatch_batched hk,
    Remote.Client.embedBatch_returns_iff hk⟩,
    fun _ _ _ => ⟨fun _ _ => Local.Client.embedBatch_batched, Local.Client.embedBatch_returns_iff⟩⟩

/-! ## Two services -/

/-- The vector of a text is its length. -/
def Service.measure (text : String) (v : Value) : Prop := .list [.int text.length] = v

/-- A service that gives every text its length, with batches of a size. -/
def Remote.Client.measuring (size : Int) : Client Unit where
  kind := .openai
  config := { apiKey := some "k", batchSize := size }
  behaviour :=
    { installed := true
      respond := fun _ texts s => (.vectors (texts.map fun t => .list [.int t.length]), s) }

theorem Remote.Client.measuring_givesEach (size : Int) :
    (measuring size).GivesEach Service.measure := by
  intro texts s vs h
  cases h
  simp only [Service.measure, List.forall₂_map_right_iff, List.forall₂_same, implies_true]

/-- Three texts go in two batches of two. -/
theorem Remote.Client.measuring_batches : (measuring 2).kind = .openai ∧
    (measuring 2).GivesEach Service.measure ∧ (measuring 2).Connects ⟨false, [], ()⟩ ∧
      (measuring 2).Answers ∧ ((measuring 2).embedBatch ["a", "bc", "d"] ⟨false, [], ()⟩).1 =
        .ok [.list [.int 1], .list [.int 2], .list [.int 1]] := by
  have hc : (measuring 2).Connects ⟨false, [], ()⟩ := .inr ⟨"k", rfl, by decide, rfl⟩
  have ha : (measuring 2).Answers := fun _ _ => ⟨_, rfl⟩
  have hcalls := Service.batch_complete_or_void.1 (measuring 2) ⟨false, [], ()⟩ ["a", "bc", "d"] rfl
  obtain ⟨vs, hvs⟩ := (hcalls.2 rfl hc ha).2 (by decide)
  refine ⟨rfl, measuring_givesEach 2, hc, ha, ?_⟩
  rcases hcalls.1 _ vs (measuring_givesEach 2) hvs with ⟨-, hall⟩ | ⟨hneg, -⟩
  · simp only [Service.measure, List.forall₂_cons_left_iff, List.forall₂_nil_left_iff] at hall
    obtain ⟨_, _, rfl, ⟨_, _, rfl, ⟨_, _, rfl, rfl, rfl⟩, rfl⟩, rfl⟩ := hall
    exact hvs
  · exact absurd hneg (by decide)

/-- Settings with a negative size of batches are accepted. Then there is no vector for a text that
the service gives one for. -/
theorem Remote.Client.measuring_void :
    Settings.model (.mapping [("api_key", .text "k"), ("batch_size", .int (-1))]) =
        .ok (measuring (-1)).config ∧
      (measuring (-1)).GivesEach Service.measure ∧ (measuring (-1)).Answers ∧
        ((measuring (-1)).embedBatch ["a"] ⟨false, [], ()⟩).1 = .ok [] := by
  refine ⟨rfl, measuring_givesEach _, fun _ _ => ⟨_, rfl⟩, ?_⟩
  refine (embedBatch_openai_eq_ok_iff rfl).2 ⟨by decide, _, rfl, ?_⟩
  rw [Int.toNat_of_nonpos (by decide), requestAll_zero]

end CodeAtlas
