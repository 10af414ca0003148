import CodeAtlas.Indexer.Query
import CodeAtlas.Proofs.Indexer.Effects

/-!
# Following references

A reference that was once found leads to the symbol it was recorded at for as long as the entry of
that symbol stays in the store. Once the entry has been removed or replaced it leads nowhere, even
if the file has come back and its slots hold other symbols; and once a new generation has begun it
is refused (`Activity.definitions_run`).

Entries are told apart by their stamps: all entries that a build installs have its stamp, and no
task that waits or is begun afterwards has it (`Activity.Since`).
-/

namespace CodeAtlas

/-! ## In one store -/

namespace Store

variable {s : Store} {r : Reference}

theorem definition_stale (h : r.generation ≠ s.generation) :
    s.definition r = .error (.staleGeneration r.generation s.generation) := by
  simp [definition, resolve, h]

/-- A handle of the store's own generation leads to a stored symbol or to none. -/
theorem resolve_cases (s : Store) (h : Handle) :
    (∃ e x, s.get? h.file = some e ∧ x ∈ e.symbols ∧
      s.resolve h (some s.generation) = .ok x) ∨
    s.resolve h (some s.generation) = .error (.noSymbol h.file h.slot) := by
  rw [resolve, if_neg (by simp)]
  split
  · exact .inr rfl
  · split
    · next x hx =>
      obtain ⟨e, he, hs⟩ := Option.bind_eq_some_iff.1 hx
      exact .inl ⟨e, x, he, List.mem_of_getElem? hs, rfl⟩
    · exact .inr rfl

/-- A reference leads nowhere if its file has no entry, or one that nothing refers to. -/
theorem definition_unreferenced (hg : r.generation = s.generation)
    (h : ∀ e, s.get? r.target.file = some e → e.references = []) : s.definition r = .ok none := by
  rcases resolve_cases s r.target with ⟨e, x, he, hx, hr⟩ | hr
  · have hnil := Entry.references_eq_nil_iff.1 (h e he) x hx
    simp [definition, hg, hr, hnil]
  · simp [definition, hg, hr]

/-- What is found of references is held by a symbol of the file. -/
theorem mem_references {site : Site} (h : r ∈ s.references site) :
    ∃ e x, s.get? site.file = some e ∧ x ∈ e.symbols ∧ r ∈ x.references := by
  rw [references] at h
  cases hx : (s.get? site.file).bind fun e => e.symbols.find? fun x => x.site = site with
  | none => simp [hx] at h
  | some x =>
    simp only [hx, Option.map_some, Option.getD_some] at h
    obtain ⟨e, he, hfind⟩ := Option.bind_eq_some_iff.1 hx
    exact ⟨e, x, he, List.mem_of_find?_eq_some hfind, h⟩

/-- A reference leads to the symbol that holds it. -/
theorem definition_linked (H : IsGeneration s.entries s.generation)
    (hg : r.generation = s.generation) {p : String} {e : Entry} (he : s.get? p = some e)
    {x : Symbol} (hx : x ∈ e.symbols) (ht : x.handle = r.target) (hr : r ∈ x.references) :
    s.definition r = .ok (some x) := by
  rw [definition, ← ht, hg, H.resolve_handle he hx]
  simp [hr]

end Store

namespace Activity

variable {σ : Type} {u : Setup σ} {a : Activity}

/-! ## Where references come from -/

/-- The move ends a build well, and so installs a generation. -/
def Installs (u : Setup σ) (a : Activity) (m : Move σ) : Prop :=
  a.IsBuildMove m ∧
    ∃ report, (a.step u m).1 = some (.finished (.ok (.report (some report))))

/-- An entry with references is what a build has installed, and no generation has begun since. -/
theorem installed_of_references (H : a.Sound) (ms : List (Move σ)) {p : String} {e : Entry}
    (he : (a.run u ms).index.store.get? p = some e) (hr : e.references ≠ []) :
    (a.index.store.get? p = some e ∧
        (a.run u ms).index.store.generation = a.index.store.generation) ∨
      ∃ before m since, ms = before ++ m :: since ∧ (a.run u before).Installs u m ∧
        (a.run u (before ++ [m])).index.store.get? p = some e ∧
        (a.run u ms).index.store.generation =
          (a.run u (before ++ [m])).index.store.generation ∧
        ∀ q d, (a.run u (before ++ [m])).index.store.get? q = some d → d.stamp = e.stamp := by
  induction ms generalizing a with
  | nil => exact .inl ⟨he, rfl⟩
  | cons m ms ih =>
    rcases ih (H.step m) he with ⟨he', hg'⟩ | ⟨before, m', since, rfl, h⟩
    · have hs := effect (u := u) H m
      generalize hstanding : (a.step u m).1 = standing at hs
      generalize hstore : (a.step u m).2.index.store = s at hs he' hg'
      cases hs with
      | installed p' ht hm =>
        rw [← hstore] at he' hg'
        refine .inr ⟨[], _, ms, rfl, ⟨⟨_, ht⟩, _, hstanding⟩, he', hg'.trans rfl, fun q d hd => ?_⟩
        have hd : (Store.install p'.entries _).get? q = some d := hstore ▸ hd
        rw [hstore] at he'
        rw [Store.get?, hm.generation.install] at hd he'
        rw [hm.stamp q d hd, hm.stamp p e he']
      | cleared roots hb => simp [Store.get?, Store.clear, Table.find?_empty] at he'
      | same hg hbuild hold => exact .inl ⟨hold p e he', hg'.trans hg⟩
      | put ht hb hg hj hold =>
        rcases hold p e he' with he' | ⟨-, hnil⟩
        · exact .inl ⟨he', hg'.trans hg⟩
        · exact absurd hnil hr
    · exact .inr ⟨m :: before, m', since, rfl, h⟩

/-! ## Since a generation was installed -/

/-- What has happened to a store since a moment after which nothing is begun with the stamp: its
entries are old ones, or new ones that nothing refers to. -/
structure Since (old : Store) (k : Nat) (a : Activity) : Prop where
  generation : a.index.store.generation = old.generation
  past : k < a.index.clock
  task : ∀ n t, a.waiting n = some t → t.stamp ≠ k
  stored : ∀ p e, a.index.store.get? p = some e →
    old.get? p = some e ∨ e.references = [] ∧ e.stamp ≠ k

/-- The move changes nothing in the store but that entries are lost, and that those of files are put
into it that are being taken in. -/
theorem stored_of_generation_eq (H : a.Sound) {m : Move σ}
    (hg : (a.step u m).2.index.store.generation = a.index.store.generation) {p : String} {e : Entry}
    (he : (a.step u m).2.index.store.get? p = some e) :
    a.index.store.get? p = some e ∨
      e.references = [] ∧ ∃ n t, a.waiting n = some t ∧ e.stamp = t.stamp := by
  have hs := effect (u := u) H m
  generalize (a.step u m).1 = standing at hs
  generalize (a.step u m).2.index.store = s at hs he hg
  cases hs with
  | installed p' ht hm =>
    have := (H.build _ _ ht).2
    simp only [Store.install] at hg
    omega
  | cleared roots hb =>
    simp only [Store.clear] at hg
    omega
  | same hg hr hold => exact .inl (hold p e he)
  | put ht hb hg hj hold =>
    rcases hold p e he with he | ⟨hk, hr⟩
    · exact .inl he
    · exact .inr ⟨hr, _, _, ht, hk⟩

namespace Since

variable {old : Store} {k : Nat}

theorem step (h : Since old k a) (H : a.Sound) {m : Move σ}
    (hg : (a.step u m).2.index.store.generation = a.index.store.generation) :
    Since old k (a.step u m).2 := by
  refine ⟨hg.trans h.generation, Nat.lt_of_lt_of_le h.past (clock_le_step H m), ?_, ?_⟩
  · intro n t' ht'
    rcases step_waiting H m ht' with ⟨t, ht, rfl | hc⟩ | hnew
    · exact h.task n t' ht
    · exact hc.stamp ▸ h.task n t ht
    · exact hnew ▸ (Nat.ne_of_lt h.past).symm
  · intro p e he
    rcases stored_of_generation_eq H hg he with he | ⟨hr, n, t, ht, hk⟩
    · exact h.stored p e he
    · exact .inr ⟨hr, hk ▸ h.task n t ht⟩

/-- While the generation is the same, so it has been after each of the moves. -/
theorem generation_eq (H : a.Sound) {m : Move σ} {ms : List (Move σ)}
    (hg : (a.run u (m :: ms)).index.store.generation = a.index.store.generation) :
    (a.step u m).2.index.store.generation = a.index.store.generation ∧
      ((a.step u m).2.run u ms).index.store.generation =
        (a.step u m).2.index.store.generation := by
  have h₁ : a.index.store.generation ≤ (a.step u m).2.index.store.generation :=
    generation_le_run H [m]
  have h₂ := generation_le_run (u := u) (H.step (u := u) m) ms
  rw [run_cons] at hg
  omega

theorem run (h : Since old k a) (H : a.Sound) {ms : List (Move σ)}
    (hg : (a.run u ms).index.store.generation = a.index.store.generation) :
    Since old k (a.run u ms) := by
  induction ms generalizing a with
  | nil => exact h
  | cons m ms ih =>
    obtain ⟨h₁, h₂⟩ := generation_eq H hg
    exact ih (h.step H h₁) (H.step m) h₂

/-- An entry that has gone does not come back. -/
theorem run_gone (h : Since old k a) (H : a.Sound) {q : String}
    (hq : ∀ e, a.index.store.get? q = some e → e.stamp ≠ k) {ms : List (Move σ)}
    (hg : (a.run u ms).index.store.generation = a.index.store.generation) :
    ∀ e, (a.run u ms).index.store.get? q = some e → e.stamp ≠ k := by
  induction ms generalizing a with
  | nil => exact hq
  | cons m ms ih =>
    obtain ⟨h₁, h₂⟩ := generation_eq H hg
    -- What a move stores within a generation has the stamp of a task, and no task has this one.
    refine ih (h.step H h₁) (H.step m) (fun e he => ?_) h₂
    rcases stored_of_generation_eq H h₁ he with he | ⟨-, n, t, ht, hk⟩
    · exact hq e he
    · exact hk ▸ h.task n t ht

end Since

/-! ## All orders of moves -/

/-- The entry of a file has been removed or replaced by one of the moves. -/
def Touched (u : Setup σ) (a : Activity) (file : String) (ms : List (Move σ)) : Prop :=
  ∃ ms', ms' <+: ms ∧ (a.run u ms').index.store.get? file ≠ a.index.store.get? file

/-- What a reference to a symbol leads to, moves after the build that has recorded it. -/
structure Leads (u : Setup σ) (a : Activity) (r : Reference) (x : Symbol) (ms : List (Move σ)) :
    Prop where
  stale : (a.run u ms).index.store.generation ≠ a.index.store.generation →
    (a.run u ms).index.store.definition r =
      .error (.staleGeneration r.generation (a.run u ms).index.store.generation)
  touched : (a.run u ms).index.store.generation = a.index.store.generation →
    a.Touched u r.target.file ms → (a.run u ms).index.store.definition r = .ok none
  linked : (a.run u ms).index.store.generation = a.index.store.generation →
    ¬ a.Touched u r.target.file ms → (a.run u ms).index.store.definition r = .ok (some x)

/-- A reference leads to its symbol until the symbol's entry is touched, and is refused from the
next generation on. -/
theorem leads (H : a.Sound) {r : Reference} {x : Symbol} {e : Entry}
    (he : a.index.store.get? r.target.file = some e) (hx : x ∈ e.symbols)
    (ht : x.handle = r.target) (hr : r ∈ x.references)
    (hg : r.generation = a.index.store.generation) (ms : List (Move σ)) : a.Leads u r x ms := by
  have hsince : Since a.index.store e.stamp a :=
    ⟨rfl, H.past _ e he, fun n t hn hk => H.stored _ e n t he hn hk.symm,
      fun p d hd => .inl hd⟩
  have hrun : (a.run u ms).Sound := H.run ms
  refine ⟨fun hne => ?_, fun heq htouched => ?_, fun heq huntouched => ?_⟩
  · exact Store.definition_stale fun h => hne (h.symm.trans hg)
  · obtain ⟨ms', ⟨rest, rfl⟩, hne⟩ := htouched
    rw [run_append] at heq ⊢
    have h₁ := generation_le_run (u := u) H ms'
    have h₂ := generation_le_run (u := u) (H.run (u := u) ms') rest
    have hg₁ : (a.run u ms').index.store.generation = a.index.store.generation := by omega
    have hg₂ : ((a.run u ms').run u rest).index.store.generation =
        (a.run u ms').index.store.generation := by omega
    have hmid := hsince.run H hg₁
    -- From the moment on at which the entry is another one, none with its stamp is there.
    have hgone : ∀ d, (a.run u ms').index.store.get? r.target.file = some d →
        d.stamp ≠ e.stamp := by
      intro d hd
      rcases hmid.stored _ d hd with hold | ⟨-, hk⟩
      · rw [he] at hold
        cases hold
        exact absurd (hd.trans he.symm) hne
      · exact hk
    have hlater := hmid.run_gone (H.run ms') hgone hg₂
    have hlast := hmid.run (H.run ms') hg₂
    refine Store.definition_unreferenced (hg.trans heq.symm) fun d hd => ?_
    rcases hlast.stored _ d hd with hold | ⟨hnil, -⟩
    · rw [he] at hold
      cases hold
      exact absurd rfl (hlater _ hd)
    · exact hnil
  · have hsame : (a.run u ms).index.store.get? r.target.file = a.index.store.get? r.target.file :=
      Classical.byContradiction fun hne => huntouched ⟨ms, List.prefix_refl ms, hne⟩
    exact Store.definition_linked hrun.store (hg.trans heq.symm) (hsame.trans he) hx ht hr

/-- Exactly those moves start a new generation that end a build well or find no root for one; and
whatever reference was found at some moment was recorded at its target by the last build that had
ended well, and leads there until the entry of the target is touched or a generation begins. -/
theorem definitions_run (u : Setup σ) (roots : List Path) :
    (∀ ms m, let a := (fresh roots).run u ms
      (a.IsBuildMove m ∧ Renews (a.step u m).1 →
        (a.step u m).2.index.store.generation = a.index.store.generation + 1) ∧
      (¬ (a.IsBuildMove m ∧ Renews (a.step u m).1) →
        (a.step u m).2.index.store.generation = a.index.store.generation)) ∧
    ∀ earlier site r, r ∈ ((fresh roots).run u earlier).index.store.references site →
      ∃ before m since e x, earlier = before ++ m :: since ∧
        ((fresh roots).run u before).Installs u m ∧
        let a := (fresh roots).run u (before ++ [m])
        a.index.store.get? r.target.file = some e ∧ x ∈ e.symbols ∧ x.handle = r.target ∧
          r ∈ x.references ∧
          ((fresh roots).run u earlier).index.store.generation = a.index.store.generation ∧
          ∀ later, a.Leads u r x (since ++ later) := by
  refine ⟨fun ms m => step_generation (sound_run u roots ms) m, fun earlier site r hr => ?_⟩
  have H := sound_run u roots earlier
  obtain ⟨e, x, he, hx, hmem⟩ := Store.mem_references hr
  have hsound := H.store.sound _ e he
  have ht := hsound.target x hx r hmem
  have hfile : r.target.file = site.file := by
    rw [ht]
    exact (hsound.file x hx).trans (H.store.path _ e he)
  have hne : e.references ≠ [] := fun hnil => by
    simp [Entry.references_eq_nil_iff.1 hnil x hx] at hmem
  rcases installed_of_references (fresh_sound roots) earlier he hne with
    ⟨hempty, -⟩ | ⟨before, m, since, heq, hi, he', hg, hk⟩
  · simp [fresh, Store.get?, Store.empty, Table.find?_empty] at hempty
  · rw [← hfile] at he'
    refine ⟨before, m, since, e, x, heq, hi, he', hx, ht.symm, hmem, hg, fun later => ?_⟩
    have hgr := (hsound.generation x hx r hmem).trans (H.store.generation _ e he)
    exact leads (sound_run u roots _) he' hx ht.symm hmem (hgr.trans hg) _

end Activity
end CodeAtlas
