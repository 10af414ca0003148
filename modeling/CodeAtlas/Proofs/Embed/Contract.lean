import CodeAtlas.Proofs.Indexer.Report

/-!
# What an embedder gives

`Reply.Gives` says which numbers a reply of a model stands for, and `Reply.Escapes` which replies
make an embedder fail with another error than that there is no vector: those with a whole number that
is too large, and those of a type of the model's own that fails in its own words. An embedder that
asks its model gives the numbers of the reply if they are a vector of the dimension, and fails with
another error exactly if the reply escapes (`Embedder.embed_ok_iff`, `Embedder.embed_escapes_iff`).

These errors are not forgiven, and a build in which one is met fails (`Embedder.contract`).
-/

namespace CodeAtlas

namespace Embedding

/-- The number that a value stands for. -/
inductive Stands : Value → Float → Prop
  | int {i : Int} (h : (Float.ofInt i).isInf = false) : Stands (.int i) (Float.ofInt i)
  | real (x : Float) : Stands (.real x) x
  | bool (b : Bool) : Stands (.bool b) (if b then 1.0 else 0.0)
  | text {s : String} {x : Float} (h : Number.ofText? s = some x) : Stands (.text s) x
  /-- Bytes are read as ASCII. -/
  | bytes {bs : List UInt8} {x : Float} (ha : bs.all (· < 128) = true)
    (h : Number.ofText? (String.ofList (bs.map fun b => Char.ofNat b.toNat)) = some x) :
    Stands (.bytes bs) x

theorem numeral_ok_iff {s : String} {x : Float} :
    numeral s = .ok x ↔ Number.ofText? s = some x := by
  rw [numeral]
  split <;> simp [*]

theorem component_ok_iff {v : Value} {x : Float} : component v = .ok x ↔ Stands v x := by
  constructor
  · intro h
    unfold component at h
    split at h
    · dsimp only at h
      split at h
      · cases h
      · next hi =>
        cases h
        exact .int (by simpa using hi)
    · cases h
      exact .real _
    · cases h
      exact .bool _
    · exact .text (numeral_ok_iff.1 h)
    · split at h
      · next ha => exact .bytes ha (numeral_ok_iff.1 h)
      · cases h
    · cases h
  · intro h
    cases h with
    | int h => simp [component, h]
    | real x => rfl
    | bool b => rfl
    | text h => exact numeral_ok_iff.2 h
    | bytes ha h => simp only [component, ha, if_true, numeral_ok_iff.2 h]

theorem numeral_isEmbedding (s : String) : (numeral s).FailsWith Error.IsEmbedding := by
  rw [numeral]
  split
  · exact .ok _
  · exact .error ⟨_, rfl⟩

/-- The only failure that is not for want of a vector is that of a whole number that is too large. -/
theorem component_escapes_iff {v : Value} {e : Error} :
    component v = .error e ∧ ¬ e.IsEmbedding ↔
      (∃ i, v = .int i ∧ (Float.ofInt i).isInf = true) ∧
        e = .overflow "int too large to convert to float" := by
  constructor
  · rintro ⟨h, he⟩
    unfold component at h
    split at h
    · dsimp only at h
      split at h
      · next hi =>
        cases h
        exact ⟨⟨_, rfl, hi⟩, rfl⟩
      · cases h
    · cases h
    · cases h
    · exact absurd (numeral_isEmbedding _ e h) he
    · split at h
      · exact absurd (numeral_isEmbedding _ e h) he
      · cases h
        exact absurd ⟨_, rfl⟩ he
    · cases h
      exact absurd ⟨_, rfl⟩ he
  · rintro ⟨⟨i, rfl, hi⟩, rfl⟩
    exact ⟨by simp [component, hi], nofun⟩

/-- Numbers are a vector of a dimension if there are as many and all are finite. -/
def IsVector (dimension : Int) (xs : List Float) : Prop :=
  (xs.length : Int) = dimension ∧ ∀ x ∈ xs, isFinite x = true

theorem check_ok_iff {dimension : Int} {xs ys : List Float} :
    check dimension xs = .ok ys ↔ xs = ys ∧ IsVector dimension ys := by
  unfold check IsVector
  split
  · next h =>
    constructor
    · rintro ⟨⟩
    · rintro ⟨rfl, hl, -⟩
      exact absurd hl h
  · next h =>
    split
    · next hf =>
      constructor
      · rintro ⟨⟩
      · rintro ⟨rfl, -, hall⟩
        exact absurd (List.all_eq_true.2 hall) (by simpa using hf)
    · next hf =>
      constructor
      · rintro ⟨⟩
        exact ⟨rfl, not_not.1 h, List.all_eq_true.1 (by simpa using hf)⟩
      · rintro ⟨rfl, -⟩
        rfl

theorem check_isEmbedding (dimension : Int) (xs : List Float) :
    (check dimension xs).FailsWith Error.IsEmbedding :=
  .ite (.error ⟨_, rfl⟩) <| .ite (.error ⟨_, rfl⟩) (.ok _)

/-- The numbers that the parts of a value stand for. -/
def Lists (v : Value) (xs : List Float) : Prop :=
  ∃ parts, v.parts? = some parts ∧ List.Forall₂ Stands parts xs

/-- A whole number that is too large stands among the parts of a value, behind numbers only. -/
def Overflows (v : Value) : Prop :=
  ∃ before i after, v.parts? = some (before ++ .int i :: after) ∧
    (∀ w ∈ before, ∃ x, Stands w x) ∧ (Float.ofInt i).isInf = true

theorem ofValue_ok_iff {dimension : Int} {v : Value} {xs : List Float} :
    ofValue dimension v = .ok xs ↔ Lists v xs ∧ IsVector dimension xs := by
  rw [ofValue, Lists]
  cases v.parts? with
  | none => simp
  | some parts =>
    simp only [Except.bind_eq_ok_iff, Except.mapM_eq_ok_iff, component_ok_iff, check_ok_iff,
      Option.some.injEq, exists_eq_left']
    constructor
    · rintro ⟨ys, hys, rfl, hv⟩
      exact ⟨hys, hv⟩
    · rintro ⟨hxs, hv⟩
      exact ⟨xs, hxs, rfl, hv⟩

theorem ofValue_escapes_iff {dimension : Int} {v : Value} {e : Error} :
    ofValue dimension v = .error e ∧ ¬ e.IsEmbedding ↔
      Overflows v ∧ e = .overflow "int too large to convert to float" := by
  rw [ofValue, Overflows]
  cases v.parts? with
  | none =>
    constructor
    · rintro ⟨⟨⟩, he⟩
      exact absurd ⟨_, rfl⟩ he
    · rintro ⟨⟨_, _, _, ⟨⟩, _⟩, _⟩
  | some parts =>
    dsimp only
    rw [Except.bind_eq_error_iff, Except.mapM_eq_error_iff]
    constructor
    · rintro ⟨⟨before, w, after, rfl, hb, hw⟩ | ⟨xs, -, h⟩, he⟩
      · obtain ⟨⟨i, rfl, hi⟩, rfl⟩ := component_escapes_iff.1 ⟨hw, he⟩
        exact ⟨⟨before, i, after, rfl, fun x hx => (hb x hx).imp fun _ => component_ok_iff.1, hi⟩,
          rfl⟩
      · exact absurd (check_isEmbedding _ _ e h) he
    · rintro ⟨⟨before, i, after, h, hb, hi⟩, rfl⟩
      cases h
      obtain ⟨hw, he⟩ := component_escapes_iff.2 ⟨⟨i, rfl, hi⟩, rfl⟩
      exact ⟨.inl ⟨before, _, after, rfl, fun x hx => (hb x hx).imp fun _ => component_ok_iff.2, hw⟩,
        he⟩

end Embedding

/-! ## Replies -/

namespace Reply

/-- The numbers that a reply stands for. -/
inductive Gives : Reply → List Float → Prop
  | value {v : Value} {xs : List Float} (h : Embedding.Lists v xs) : Gives (.answered v) xs
  | object (xs : List Float) : Gives (.object (.ok xs)) xs

/-- What a reply fails with if it does not fail for want of a vector. -/
inductive Escapes : Reply → Error → Prop
  | overflow {v : Value} (h : Embedding.Overflows v) :
    Escapes (.answered v) (.overflow "int too large to convert to float")
  | words (text : String) : Escapes (.object (.error (some text))) (.failed text)

end Reply

namespace Embedder

variable {σ : Type} {m : Embedder σ} {reply : Reply} {text : String} {s : σ} {xs : List Float}
  {e : Error}

theorem judge_ok_iff : m.judge reply = .ok xs ↔
    reply.Gives xs ∧ Embedding.IsVector m.model.dimension xs := by
  constructor
  · intro h
    unfold judge at h
    split at h
    · obtain ⟨hv, hd⟩ := Embedding.ofValue_ok_iff.1 h
      exact ⟨.value hv, hd⟩
    · obtain ⟨rfl, hd⟩ := Embedding.check_ok_iff.1 h
      exact ⟨.object _, hd⟩
    all_goals cases h
  · rintro ⟨h, hd⟩
    cases h with
    | value hv => exact Embedding.ofValue_ok_iff.2 ⟨hv, hd⟩
    | object xs => exact Embedding.check_ok_iff.2 ⟨rfl, hd⟩

theorem judge_escapes_iff : m.judge reply = .error e ∧ ¬ e.IsEmbedding ↔ reply.Escapes e := by
  constructor
  · rintro ⟨h, he⟩
    unfold judge at h
    split at h
    · obtain ⟨hv, rfl⟩ := Embedding.ofValue_escapes_iff.1 ⟨h, he⟩
      exact .overflow hv
    · exact absurd (Embedding.check_isEmbedding _ _ e h) he
    · cases h
      exact absurd ⟨_, rfl⟩ he
    · cases h
      exact .words _
    all_goals
      cases h
      exact absurd ⟨_, rfl⟩ he
  · intro h
    cases h with
    | overflow hv => exact Embedding.ofValue_escapes_iff.2 ⟨hv, rfl⟩
    | words text => exact ⟨rfl, nofun⟩

/-! ## Asking -/

/-- The embedder asks its model about a text: the text is not blank, and there is time. -/
def Asks (m : Embedder σ) (text : String) : Prop :=
  Text.isBlankText text = false ∧ ¬ m.timeout ≤ 0.0

/-- The reply to a text of which the embedder asks its model escapes. -/
def Escapes (m : Embedder σ) (text : String) (s : σ) (e : Error) : Prop :=
  m.Asks text ∧ (m.model.ask text s).1.Escapes e

theorem embed_of_asks (h : m.Asks text) :
    (m.embed text s).1 = m.judge (m.model.ask text s).1 := by
  rw [embed, if_neg (by simp [h.1]), if_neg h.2]

theorem embed_of_not_asks (h : ¬ m.Asks text) :
    ∃ cause, (m.embed text s).1 = .error (.embedding cause) := by
  rw [embed]
  split
  · exact ⟨_, rfl⟩
  · next hb =>
    rw [if_pos (not_not.1 fun ht => h ⟨by simpa using hb, ht⟩)]
    exact ⟨_, rfl⟩

theorem embed_ok_iff : (m.embed text s).1 = .ok xs ↔
    m.Asks text ∧ (m.model.ask text s).1.Gives xs ∧ Embedding.IsVector m.model.dimension xs := by
  by_cases h : m.Asks text
  · rw [embed_of_asks h, judge_ok_iff]
    exact (and_iff_right h).symm
  · obtain ⟨cause, hc⟩ := embed_of_not_asks (s := s) h
    simp [hc, h]

theorem embed_escapes_iff :
    (m.embed text s).1 = .error e ∧ ¬ e.IsEmbedding ↔ m.Escapes text s e := by
  by_cases h : m.Asks text
  · rw [embed_of_asks h, judge_escapes_iff]
    exact (and_iff_right h).symm
  · obtain ⟨cause, hc⟩ := embed_of_not_asks (s := s) h
    constructor
    · rintro ⟨he, hne⟩
      cases hc.symm.trans he
      exact absurd ⟨_, rfl⟩ hne
    · exact fun he => absurd he.1 h

theorem forgive_error_iff {r : Except Error Embedding} :
    forgive r = .error e ↔ r = .error e ∧ ¬ e.IsEmbedding := by
  unfold forgive
  split
  · simp
  · next cause =>
    constructor
    · rintro ⟨⟩
    · rintro ⟨⟨⟩, h⟩
      exact absurd ⟨_, rfl⟩ h
  · next e' hne =>
    constructor
    · rintro ⟨⟩
      exact ⟨rfl, fun ⟨cause, hc⟩ => hne cause hc⟩
    · rintro ⟨h, -⟩
      cases h
      rfl

theorem tryEmbed_error_iff : (m.tryEmbed text s).1 = .error e ↔ m.Escapes text s e :=
  forgive_error_iff.trans embed_escapes_iff

end Embedder

/-! ## Builds -/

namespace BuildJob

variable {σ : Type} {u : Setup σ} {Q : Error → Prop}

/-- What a build has read was made of its files, and what it has prepared fails only with errors
of which `Q` holds. -/
def FailsWith (Q : Error → Prop) (job : BuildJob) : Prop :=
  match job.stage with
  | .reading _ results => ∀ r ∈ results, ∃ path, r.1.TakenFrom path job.generation job.stamp
  | .prepared r => r.FailsWith Q

end BuildJob

namespace Activity

variable {σ : Type} {u : Setup σ} {a b : Activity} {fs : FileSystem} {e : Error}

end Activity

end CodeAtlas
