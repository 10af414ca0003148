import CodeAtlas.Proofs.Embed.Contract
import CodeAtlas.Proofs.Embed.Counts

/-!
# The vectors of an entry

An embedder asks its model about the file of an entry and then about its symbols
(`Embedder.questions`), and each of them has in the end the vector that the reply to its own
question means, or none (`Embedder.embeddings_of_embedEntry`). If the model replies with numbers,
fails or is late, there always is such an end (`Embedder.IsOrdinary.embedEntry`). What is found in it is
said by `Embedder.embedEntry_isBestEffort`.
-/

namespace CodeAtlas

/-- The vectors of a file and of its symbols. -/
def Entry.embeddings (e : Entry) : List (Option Embedding) :=
  e.embedding :: e.symbols.map Symbol.embedding

namespace Reply

/-- A reply of numbers, a failure, or no reply in time. -/
def Ordinary (r : Reply) : Prop := (∃ xs, r.Gives xs) ∨ (∃ cause, r = .failed cause) ∨ r = .late

/-- A whole number that is too large stands for no number. -/
theorem Gives.not_escapes {r : Reply} {xs : List Float} {err : Error} (h : r.Gives xs) :
    ¬ r.Escapes err := by
  intro hescapes
  cases h with
  | value h =>
    obtain ⟨before, i, after, hparts, -, hi⟩ := by
      cases hescapes with
      | overflow ho => exact ho
    obtain ⟨parts, hp, hall⟩ := h
    cases hparts.symm.trans hp
    have hrest := List.forall₂_drop before.length hall
    rw [List.drop_left] at hrest
    generalize xs.drop before.length = rest at hrest
    cases hrest with
    | cons hstands _ =>
      cases hstands with
      | int hfinite => exact absurd hi (by simp [hfinite])
  | object xs => cases hescapes

theorem Ordinary.not_escapes {r : Reply} {err : Error} (h : r.Ordinary) : ¬ r.Escapes err := by
  rcases h with ⟨xs, h⟩ | ⟨cause, rfl⟩ | rfl
  · exact h.not_escapes
  · exact nofun
  · exact nofun

end Reply

namespace Embedder

variable {σ : Type} {m : Embedder σ} {s s' : σ} {n : Nat} {text : String} {v : Embedding}

theorem symbolText_blank (h : Text.isBlankText text = true) :
    Text.isBlankText (m.symbolText text) = true := by
  rw [Text.isBlankText, List.all_eq_true] at h ⊢
  intro c hc
  rw [symbolText, String.toList_ofList] at hc
  exact h c (List.mem_of_mem_take hc)

theorem symbolText_eq (h : 0 ≤ m.maxSymbolChars) (text : String) :
    m.symbolText text = String.ofList (text.toList.take m.maxSymbolChars.toNat) := by
  rw [symbolText, cutTo, placeOf, if_neg (Int.not_lt.2 h), ← List.take_eq_take_min]

/-! ## Questions and replies -/

instance (m : Embedder σ) (text : String) : Decidable (m.Asks text) :=
  inferInstanceAs (Decidable (_ ∧ _))

/-- What an embedder has to ask about the file and about each symbol of an entry. -/
def questions (m : Embedder σ) (extent : Extent) (e : Entry) : List (Option String) :=
  (if extent.file then some e.content else none) ::
    e.symbols.map fun x => if extent.symbols then some (m.symbolText (x.source e.content)) else none

/-- What the model replies to a question, if it is asked. -/
def reply? (m : Embedder σ) (q : Option String) (s : σ) : Option Reply :=
  q.bind fun text => if m.Asks text then some (m.model.ask text s).1 else none

/-- The state of the model after a question. -/
def after (m : Embedder σ) (s : σ) (q : Option String) : σ :=
  match q with
  | none => s
  | some text => (m.embed text s).2

/-- What the model replies to questions, one after the other. -/
def replies (m : Embedder σ) : List (Option String) → σ → List (Option Reply)
  | [], _ => []
  | q :: qs, s => m.reply? q s :: m.replies qs (m.after s q)

/-- The vector that a reply means, if it means one. -/
def vector? (m : Embedder σ) (r : Option Reply) : Option Embedding :=
  r.bind fun r => (m.judge r).toOption

/-- Each question is asked in the state that those before it leave the model in. -/
theorem replies_getElem? (qs : List (Option String)) (s : σ) (k : Nat) :
    (m.replies qs s)[k]? = qs[k]?.map fun q => m.reply? q ((qs.take k).foldl m.after s) := by
  induction qs generalizing s k with
  | nil => rfl
  | cons q qs ih =>
    cases k with
    | zero => rfl
    | succ k => rw [replies, List.getElem?_cons_succ, ih]; rfl

/-- What is not asked has no vector. -/
theorem vector?_replies_none (qs : List (Option String)) (s : σ) (h : ∀ q ∈ qs, q = none) :
    (m.replies qs s).map m.vector? = qs.map fun _ => none := by
  induction qs generalizing s with
  | nil => rfl
  | cons q qs ih =>
    cases h q List.mem_cons_self
    rw [replies, List.map_cons, List.map_cons, ih _ fun q hq => h q (List.mem_cons_of_mem _ hq)]
    rfl

/-! ## What an entry ends with -/

theorem forgive_ok {r : Except Error Embedding} {o : Option Embedding} (h : forgive r = .ok o) :
    o = r.toOption := by
  unfold forgive at h
  split at h <;> cases h <;> rfl

theorem embed_toOption : (m.embed text s).1.toOption = m.vector? (m.reply? (some text) s) := by
  by_cases h : m.Asks text
  · rw [embed_of_asks h, reply?, Option.bind_some, if_pos h]
    rfl
  · obtain ⟨cause, hc⟩ := embed_of_not_asks (s := s) h
    rw [hc, reply?, Option.bind_some, if_neg h]
    rfl

/-- A blank text is not asked about, and leaves the model as it was. -/
theorem reply?_blank (h : Text.isBlankText text = true) :
    m.reply? (some text) s = none ∧ m.after s (some text) = s := by
  constructor
  · rw [reply?, Option.bind_some, if_neg]
    intro hasks
    cases h.symm.trans hasks.1
  · rw [after, embed, if_pos h]

theorem embedFile_embedding {e e' : Entry} (he : e.embedding = none)
    (h : m.embedFile e s = (.ok (e', n), s')) :
    e'.embedding = m.vector? (m.reply? (some e.content) s) ∧ s' = m.after s (some e.content) := by
  rw [embedFile] at h
  split at h
  · next hblank =>
    cases h
    rw [(reply?_blank hblank).1, (reply?_blank hblank).2, he]
    exact ⟨rfl, rfl⟩
  · obtain ⟨v, hv, heq⟩ := Except.map_eq_ok_iff.1 (congrArg Prod.fst h)
    cases heq
    rw [← embed_toOption]
    exact ⟨forgive_ok hv, (congrArg Prod.snd h).symm⟩

theorem embedSymbol_embedding {content : String} {x x' : Symbol} (hx : x.embedding = none)
    (h : m.embedSymbol content x s = (.ok (x', n), s')) :
    x'.embedding = m.vector? (m.reply? (some (m.symbolText (x.source content))) s) ∧
      s' = m.after s (some (m.symbolText (x.source content))) := by
  rw [embedSymbol] at h
  dsimp only at h
  split at h
  · next hblank =>
    cases h
    have hcut := symbolText_blank (m := m) hblank
    rw [(reply?_blank hcut).1, (reply?_blank hcut).2, hx]
    exact ⟨rfl, rfl⟩
  · obtain ⟨v, hv, heq⟩ := Except.map_eq_ok_iff.1 (congrArg Prod.fst h)
    cases heq
    rw [← embed_toOption]
    exact ⟨forgive_ok hv, (congrArg Prod.snd h).symm⟩

theorem embedSymbols_embeddings {content : String} {xs xs' : List Symbol}
    (hxs : ∀ x ∈ xs, x.embedding = none)
    (h : m.embedSymbols content xs s = (.ok (xs', n), s')) :
    xs'.map Symbol.embedding =
      (m.replies (xs.map fun x => some (m.symbolText (x.source content))) s).map m.vector? := by
  induction xs generalizing s s' xs' n with
  | nil =>
    cases h
    rfl
  | cons x xs ih =>
    rw [embedSymbols] at h
    split at h
    · cases h
    · next y k s₁ hy =>
      obtain ⟨⟨ys, j⟩, hys, hv⟩ := Except.map_eq_ok_iff.1 (congrArg Prod.fst h)
      cases hv
      obtain ⟨hone, rfl⟩ := embedSymbol_embedding (hxs x List.mem_cons_self) hy
      have hrest := ih (fun z hz => hxs z (List.mem_cons_of_mem _ hz)) (Prod.ext hys rfl)
      rw [List.map_cons, List.map_cons, replies, List.map_cons, hone, hrest]

/-- The file and each symbol end with the vector that the reply to their question means. -/
theorem embeddings_of_embedEntry {extent : Extent} {e e' : Entry} (he : e.bare = e)
    (h : m.embedEntry extent e s = (.ok (e', n), s')) :
    e'.embeddings = (m.replies (m.questions extent e) s).map m.vector? := by
  have hfile := Entry.embedding_of_bare he
  have hsymbols : ∀ x ∈ e.symbols, x.embedding = none :=
    fun x hx => Entry.symbol_embedding_of_bare he hx
  rw [embedEntry] at h
  split at h
  · cases h
  · next e₁ k s₁ h₁ =>
    have hkept : e₁.content = e.content ∧ e₁.symbols = e.symbols := by
      split at h₁
      · have hbare : e₁.bare.content = e.bare.content := by rw [embedFile_bare h₁]
        exact ⟨hbare, (embedFile_vectors hfile h₁).2⟩
      · cases h₁
        exact ⟨rfl, rfl⟩
    have hone : e₁.embedding =
          m.vector? (m.reply? (if extent.file then some e.content else none) s) ∧
        s₁ = m.after s (if extent.file then some e.content else none) := by
      split at h₁
      · next hf =>
        rw [if_pos hf]
        exact embedFile_embedding hfile h₁
      · next hf =>
        cases h₁
        rw [if_neg hf, hfile]
        exact ⟨rfl, rfl⟩
    obtain ⟨hone, rfl⟩ := hone
    rw [questions, replies, List.map_cons, Entry.embeddings, ← hone]
    split at h
    · next hx =>
      obtain ⟨⟨xs, j⟩, hxs, hv⟩ := Except.map_eq_ok_iff.1 (congrArg Prod.fst h)
      cases hv
      rw [hkept.1, hkept.2] at hxs
      simp only [hx, if_true]
      exact congrArg _ (embedSymbols_embeddings hsymbols (Prod.ext hxs rfl))
    · next hx =>
      cases h
      rw [vector?_replies_none _ _ (by simp [hx]), hkept.2, List.map_map]
      exact congrArg _ (List.map_congr_left hsymbols)

/-! ## Ordinary models -/

/-- Whatever the model is asked, its reply is ordinary. -/
def IsOrdinary (m : Embedder σ) : Prop := ∀ text s, (m.model.ask text s).1.Ordinary

namespace IsOrdinary

theorem forgive (hm : m.IsOrdinary) (text : String) (s : σ) :
    ∃ o, Embedder.forgive (m.embed text s).1 = .ok o := by
  cases h : Embedder.forgive (m.embed text s).1 with
  | ok o => exact ⟨o, rfl⟩
  | error err =>
    have hescapes : m.Escapes text s err := tryEmbed_error_iff.1 h
    exact absurd hescapes.2 (hm text s).not_escapes

theorem embedFile (hm : m.IsOrdinary) (e : Entry) (s : σ) :
    ∃ p, (m.embedFile e s).1 = .ok p := by
  rw [Embedder.embedFile]
  split
  · exact ⟨_, rfl⟩
  · obtain ⟨o, ho⟩ := hm.forgive e.content s
    exact ⟨_, Except.map_eq_ok_iff.2 ⟨o, ho, rfl⟩⟩

theorem embedSymbol (hm : m.IsOrdinary) (content : String) (x : Symbol) (s : σ) :
    ∃ p, (m.embedSymbol content x s).1 = .ok p := by
  rw [Embedder.embedSymbol]
  dsimp only
  split
  · exact ⟨_, rfl⟩
  · obtain ⟨o, ho⟩ := hm.forgive (m.symbolText (x.source content)) s
    exact ⟨_, Except.map_eq_ok_iff.2 ⟨o, ho, rfl⟩⟩

theorem embedSymbols (hm : m.IsOrdinary) (content : String) (xs : List Symbol) (s : σ) :
    ∃ p, (m.embedSymbols content xs s).1 = .ok p := by
  induction xs generalizing s with
  | nil => exact ⟨_, rfl⟩
  | cons x xs ih =>
    rw [Embedder.embedSymbols]
    obtain ⟨p, hp⟩ := hm.embedSymbol content x s
    split
    · next h =>
      rw [h] at hp
      cases hp
    · next s₁ _ =>
      obtain ⟨p, hp⟩ := ih s₁
      exact ⟨_, Except.map_eq_ok_iff.2 ⟨p, hp, rfl⟩⟩

theorem embedEntry (hm : m.IsOrdinary) (extent : Extent) (e : Entry) (s : σ) :
    ∃ p, (m.embedEntry extent e s).1 = .ok p := by
  rw [Embedder.embedEntry]
  split
  · next h =>
    split at h
    · obtain ⟨p, hp⟩ := hm.embedFile e s
      rw [h] at hp
      cases hp
    · cases h
  · next e₁ n s₁ _ =>
    split
    · obtain ⟨p, hp⟩ := hm.embedSymbols e₁.content e₁.symbols s₁
      exact ⟨_, Except.map_eq_ok_iff.2 ⟨p, hp, rfl⟩⟩
    · exact ⟨_, rfl⟩

end IsOrdinary

/-! ## Best effort -/

/-- The embedder asks its model about the text, and the reply stands for this vector. -/
def Answers (m : Embedder σ) (text : String) (s : σ) (v : Embedding) : Prop :=
  m.Asks text ∧ (m.model.ask text s).1.Gives v ∧ Embedding.IsVector m.model.dimension v

/-- What is to have a vector has that with which the model answers. -/
theorem vector?_eq_some_iff {wanted : Bool} :
    m.vector? (m.reply? (if wanted then some text else none) s) = some v ↔
      wanted = true ∧ m.Answers text s v := by
  cases wanted with
  | false => simp [reply?, vector?]
  | true =>
    rw [if_pos rfl, ← embed_toOption, Except.toOption_eq_some_iff, embed_ok_iff]
    exact (and_iff_right rfl).symm

theorem vector?_isVector {r : Option Reply} (h : m.vector? r = some v) :
    Embedding.IsVector m.model.dimension v := by
  obtain ⟨r, -, hv⟩ := Option.bind_eq_some_iff.1 h
  exact (judge_ok_iff.1 (Except.toOption_eq_some_iff.1 hv)).2

/-- What a reply means depends on the dimension only. -/
theorem vector?_congr {τ : Type} {m' : Embedder τ} (h : m'.model.dimension = m.model.dimension) :
    m'.vector? = m.vector? := by
  funext r
  ext v
  simp only [vector?, Option.bind_eq_some_iff, Except.toOption_eq_some_iff, judge_ok_iff, h]

/-- The symbol at a place ends with the vector that the reply to its question means. -/
theorem symbol_of_embedEntry {extent : Extent} {e e' : Entry} (he : e.bare = e)
    (h : m.embedEntry extent e s = (.ok (e', n), s')) {i : Nat} {x : Symbol}
    (hx : e.symbols[i]? = some x) : ∃ x', e'.symbols[i]? = some x' ∧
      x'.embedding = m.vector? (m.reply?
        (if extent.symbols then some (m.symbolText (x.source e.content)) else none)
        (((m.questions extent e).take (i + 1)).foldl m.after s)) := by
  have hplace := congrArg (fun os => os[i + 1]?) (embeddings_of_embedEntry he h)
  simp only [Entry.embeddings, List.getElem?_cons_succ, List.getElem?_map, replies_getElem?]
    at hplace
  rw [questions, List.getElem?_cons_succ, List.getElem?_map, hx] at hplace
  obtain ⟨x', hx', heq⟩ := Option.map_eq_some_iff.1 hplace
  exact ⟨x', hx', heq⟩

/-- **Best effort.** An entry without vectors comes back with the number of vectors it has then,
and nothing but vectors is new in it. The file and each symbol have a vector exactly if they are to
have one and the model answers with it when it is asked about the content, or about the first
characters of the symbol's own text. All vectors have the model's dimension and finite numbers, and
none depends on what is replied about anything else. -/
theorem embedEntry_isBestEffort (hm : m.IsOrdinary) (hmax : 0 ≤ m.maxSymbolChars) {e : Entry}
    (he : e.bare = e) (extent : Extent) (s : σ) :
    ∃ e', (m.embedEntry extent e s).1 = .ok (e', e'.vectors) ∧ e'.bare = e ∧
      (∀ v, e'.embedding = some v ↔ extent.file = true ∧ m.Answers e.content s v) ∧
      (∀ i x, e.symbols[i]? = some x → ∃ x', e'.symbols[i]? = some x' ∧
        ∀ v, x'.embedding = some v ↔ extent.symbols = true ∧
          m.Answers (String.ofList ((x.source e.content).toList.take m.maxSymbolChars.toNat))
            (((m.questions extent e).take (i + 1)).foldl m.after s) v) ∧
      (∀ v, some v ∈ e'.embeddings → Embedding.IsVector m.model.dimension v) ∧
      ∀ {τ : Type} (m' : Embedder τ) (t : τ) (d : Entry) (k : Nat),
        m'.model.dimension = m.model.dimension → (m'.embedEntry extent e t).1 = .ok (d, k) →
          ∀ i : Nat, (m'.replies (m'.questions extent e) t)[i]? =
            (m.replies (m.questions extent e) s)[i]? → d.embeddings[i]? = e'.embeddings[i]? := by
  obtain ⟨⟨e', n⟩, hok⟩ := hm.embedEntry extent e s
  have h : m.embedEntry extent e s = (.ok (e', n), (m.embedEntry extent e s).2) :=
    Prod.ext hok rfl
  have hall := embeddings_of_embedEntry he h
  refine ⟨e', by rw [hok, embedEntry_vectors he h], (embedEntry_bare h).trans he, fun v => ?_,
    fun i x hx => ?_, fun v hv => ?_, fun {τ} m' t d k hdim hd i hreply => ?_⟩
  · have hfile : e'.embedding =
        m.vector? (m.reply? (if extent.file then some e.content else none) s) :=
      (List.cons.inj hall).1
    rw [hfile, vector?_eq_some_iff]
  · obtain ⟨x', hx', hvector⟩ := symbol_of_embedEntry he h hx
    refine ⟨x', hx', fun v => ?_⟩
    rw [hvector, vector?_eq_some_iff, symbolText_eq hmax]
  · rw [hall] at hv
    obtain ⟨r, -, hr⟩ := List.mem_map.1 hv
    exact vector?_isVector hr
  · have hother := embeddings_of_embedEntry he (Prod.ext hd rfl)
    rw [hother, hall, List.getElem?_map, List.getElem?_map, hreply, vector?_congr hdim]

/-- An embedder of one dimension whose model fails when it is asked for the second time. -/
def faltering : Embedder Nat where
  model := ⟨1, fun _ n => (if n = 1 then .failed (.failed "busy") else .answered (.list [.real 0.5]),
    n + 1)⟩
  timeout := 5.0
  maxSymbolChars := 1000

/-- A file of two symbols. -/
def pair : Entry :=
  { path := "/a.py", language := "python", content := "ab"
    symbols := [
      { name := "a", kind := .function, file := "/a.py", range := .ofCoords 0 0 0 1, slot := 0 },
      { name := "b", kind := .function, file := "/a.py", range := .ofCoords 0 1 0 2, slot := 1 }] }

theorem faltering_isOrdinary : faltering.IsOrdinary := by
  intro text n
  rw [Reply.Ordinary, faltering]
  dsimp only
  split
  · exact .inr (.inl ⟨_, rfl⟩)
  · exact .inl ⟨[0.5], .value ⟨_, rfl, .cons (.real 0.5) .nil⟩⟩

theorem faltering_asks (h : Text.isBlankText text = false) : faltering.Asks text :=
  ⟨h, show ¬ ((5.0 : Float) ≤ 0.0) by decide +kernel⟩

/-- The file and the second symbol have vectors, though the first symbol has none. -/
theorem faltering_embedEntry : ∃ e', (faltering.embedEntry {} pair 0).1 = .ok (e', e'.vectors) ∧
    e'.bare = pair ∧ e'.embedding = some [0.5] ∧
    (∃ x, e'.symbols[0]? = some x ∧ x.embedding = none) ∧
    ∃ x, e'.symbols[1]? = some x ∧ x.embedding = some [0.5] := by
  obtain ⟨e', hok, hbare, hfile, hsymbol, -⟩ :=
    embedEntry_isBestEffort faltering_isOrdinary (by decide) (e := pair) rfl {} 0
  have hgives : (Reply.answered (.list [.real 0.5])).Gives [0.5] :=
    .value ⟨_, rfl, .cons (.real 0.5) .nil⟩
  have hvector : Embedding.IsVector 1 [0.5] := ⟨rfl, by decide +kernel⟩
  have hfirst : ((faltering.questions {} pair).take 1).foldl faltering.after 0 = 1 := by
    decide +kernel
  have hsecond : ((faltering.questions {} pair).take 2).foldl faltering.after 0 = 2 := by
    decide +kernel
  refine ⟨e', hok, hbare, ?_, ?_, ?_⟩
  · exact (hfile [0.5]).2 ⟨rfl, faltering_asks (by decide +kernel), hgives, hvector⟩
  · obtain ⟨x, hx, hv⟩ := hsymbol 0 _ rfl
    refine ⟨x, hx, Option.eq_none_iff_forall_not_mem.2 fun v h => ?_⟩
    obtain ⟨-, -, hreply, -⟩ := (hv v).1 h
    rw [hfirst] at hreply
    cases hreply
  · obtain ⟨x, hx, hv⟩ := hsymbol 1 _ rfl
    refine ⟨x, hx, (hv [0.5]).2 ⟨rfl, faltering_asks (by decide +kernel), ?_, hvector⟩⟩
    rw [hsecond]
    exact hgives

end Embedder
end CodeAtlas
