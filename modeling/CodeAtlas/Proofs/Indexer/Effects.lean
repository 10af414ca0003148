import CodeAtlas.Proofs.Indexer.Invariant

/-!
# What a move does

To the store: a build that ends well replaces it, one that finds no root empties it, and any other
move forgets entries or puts the entry of one file into it (`Activity.Effect`). To what waits: tasks
go on as they were begun, and new ones have new stamps (`Activity.step_waiting`). While a build is
going on, nothing but its end changes the index (`Activity.step_busy`).
-/

namespace CodeAtlas

namespace Activity

variable {σ : Type} {u : Setup σ} {a : Activity}

/-- Whether the move is the call or a further step of a build. -/
def IsBuildMove (a : Activity) : Move σ → Prop
  | .call op _ => op = .build
  | .resume n _ _ => ∃ job, a.waiting n = some (.build job)

/-- Whether a build that stands so has brought forth a new generation: it has ended well, or has
found no root. -/
def Renews : Option Standing → Prop
  | some (.finished (.ok (.report r))) => r.isSome = true
  | some (.finished (.error e)) => e.IsNoRoots
  | _ => False

/-- What a move does to the store, and how the operation stands that has moved. -/
inductive Effect (a : Activity) : Move σ → Option Standing → Store → Prop
  /-- A build ends well. -/
  | installed {n : Nat} {fs : FileSystem} {x : σ} {job : BuildJob} (p : Prepared)
    (ht : a.waiting n = some (.build job)) (h : job.Makes p) :
    Effect a (.resume n fs x) (some (.finished (.ok (.report (some (job.report p))))))
      (.install p.entries job.generation)
  /-- A build finds no root. -/
  | cleared {fs : FileSystem} (roots : List String) (hb : a.index.building = false) :
    Effect a (.call .build fs) (some (.finished (.error (.noRoots roots)))) a.index.store.clear
  | same {m : Move σ} {standing : Option Standing} {s : Store}
    (hg : s.generation = a.index.store.generation) (hr : a.IsBuildMove m → ¬ Renews standing)
    (he : ∀ p e, s.get? p = some e → a.index.store.get? p = some e) : Effect a m standing s
  /-- The entry of a file is put into the store. -/
  | put {n : Nat} {fs : FileSystem} {x : σ} {standing : Option Standing} {s : Store}
    {purpose : Purpose} {job : FileJob} (ht : a.waiting n = some (.file purpose job))
    (hb : a.index.building = false) (hg : s.generation = a.index.store.generation)
    (hj : job.generation = a.index.store.generation)
    (he : ∀ p e, s.get? p = some e → a.index.store.get? p = some e ∨
      e.stamp = job.stamp ∧ e.references = []) : Effect a (.resume n fs x) standing s

/-- What an operation leaves of the store when it goes on to its next file. -/
theorem onward_store {ix ix' : Indexer} {standing : Standing} (h : ix.Onward standing ix') :
    ix'.store.generation = ix.store.generation ∧
      ∀ p e, ix'.store.get? p = some e → ix.store.get? p = some e := by
  cases h with
  | finished r h => exact ⟨h.generation, fun p e => h.get?⟩
  | waiting purpose path h hb => exact ⟨h.generation, fun p e => h.get?⟩

theorem entered_effect {fs : FileSystem} {standing : Standing} {ix : Indexer}
    (hb : a.index.building = false) (h : Indexer.Entered u fs a.index standing ix) :
    Effect a (.call .build fs : Move σ) (some standing) ix.store := by
  cases h with
  | failed filters h =>
    exact .same rfl (fun _ => mt Error.IsNoRoots.isConfiguration h) fun p e he => he
  | rootless h => exact .cleared _ hb
  | begun filters roots found hr hd => exact .same rfl (fun _ => id) fun p e he => he

theorem resumed_effect {n : Nat} {t : Task} (ht : a.waiting n = some t) (fs : FileSystem) (x : σ)
    {standing : Standing} {ix : Indexer} (h : Indexer.Resumed a.index t standing ix) :
    Effect a (.resume n fs x) (some standing) ix.store := by
  have file : ∀ {purpose job}, t = .file purpose job → ¬ a.IsBuildMove (.resume n fs x) := by
    rintro purpose job rfl ⟨job', hj⟩
    rw [ht] at hj
    cases hj
  cases h with
  | working h hs => exact .same rfl (fun _ => id) fun p e he => he
  | failed e => exact .same rfl (fun hm => absurd hm (file rfl)) fun p e he => he
  | late r hb => exact .same rfl (fun hm => absurd hm (file rfl)) fun p e he => he
  | outdated hb hg h =>
    have h := onward_store h
    exact .same h.1 (fun hm => absurd hm (file rfl)) h.2
  | kept e hb hg he h =>
    have h := onward_store h
    refine .put ht hb h.1 hg.symm fun p e' he' => ?_
    have hp := h.2 p e' he'
    simp only [Store.get?, Store.put, Table.find?_insert] at hp
    split at hp
    · cases hp
      exact .inr ⟨he.stamp, he.references⟩
    · exact .inl hp
  | unbuilt h =>
    exact .same rfl (fun _ => mt Error.IsNoRoots.isConfiguration h) fun p e he => he
  | built p h => exact .installed p ht h

/-- What a move does to the store. -/
theorem effect (H : a.Sound) (m : Move σ) :
    Effect a m (a.step u m).1 (a.step u m).2.index.store := by
  cases m with
  | call op fs =>
    rw [step_call]
    cases hb : a.index.building with
    | true =>
      rw [Indexer.start_busy hb]
      refine .same rfl (fun hm => ?_) fun p e he => he
      have hm : op = .build := hm
      subst hm
      simp [Renews, Operation.idle]
    | false =>
      by_cases hop : op = .build
      · subst hop
        exact entered_effect hb (Indexer.start_entered u fs hb)
      · have h := onward_store (Indexer.start_onward u fs hop hb)
        exact .same h.1 (fun hm => absurd hm hop) h.2
  | resume n fs s =>
    cases hn : a.waiting n with
    | none =>
      rw [step_resume_none u hn]
      refine .same rfl ?_ fun p e he => he
      rintro ⟨job, hm⟩
      simp [hn] at hm
    | some t =>
      rw [step_resume u hn]
      exact resumed_effect hn fs s (Indexer.resume_resumed u fs (H.task n t hn) s)

/-- A move of a build that ends well or finds no root starts a new generation, and nothing else
does. -/
theorem step_generation (H : a.Sound) (m : Move σ) :
    (a.IsBuildMove m ∧ Renews (a.step u m).1 →
      (a.step u m).2.index.store.generation = a.index.store.generation + 1) ∧
    (¬ (a.IsBuildMove m ∧ Renews (a.step u m).1) →
      (a.step u m).2.index.store.generation = a.index.store.generation) := by
  have h := effect (u := u) H m
  generalize (a.step u m).1 = standing at h ⊢
  generalize (a.step u m).2.index.store = s at h ⊢
  cases h with
  | installed p ht h => exact ⟨fun _ => (H.build _ _ ht).2, fun hn => absurd ⟨⟨_, ht⟩, rfl⟩ hn⟩
  | cleared roots hb => exact ⟨fun _ => rfl, fun hn => absurd ⟨rfl, roots, rfl⟩ hn⟩
  | same hg hr he => exact ⟨fun ⟨hm, hs⟩ => absurd hs (hr hm), fun _ => hg⟩
  | put ht hb hg hj he =>
    refine ⟨fun ⟨⟨job, hm⟩, _⟩ => ?_, fun _ => hg⟩
    rw [ht] at hm
    cases hm

/-- Generations only grow. -/
theorem generation_le_run (H : a.Sound) (ms : List (Move σ)) :
    a.index.store.generation ≤ (a.run u ms).index.store.generation := by
  induction ms generalizing a with
  | nil => exact Int.le_refl _
  | cons m ms ih =>
    have h := step_generation (u := u) H m
    have hle := ih (H.step (u := u) m)
    rw [run_cons]
    by_cases hm : a.IsBuildMove m ∧ Renews (a.step u m).1
    · have := h.1 hm
      omega
    · have := h.2 hm
      omega

/-! ## Tasks -/

/-- What waits for an operation that goes on to its next file. -/
theorem onward_task {ix ix' : Indexer} {standing : Standing} (h : ix.Onward standing ix')
    {t : Task} (ht : standing.task? = some t) : t.stamp = ix.clock := by
  cases h with
  | finished r h => cases ht
  | waiting purpose path h hb =>
    cases ht
    exact h.clock

theorem entered_task {fs : FileSystem} {ix ix' : Indexer} {standing : Standing}
    (h : Indexer.Entered u fs ix standing ix') {t : Task} (ht : standing.task? = some t) :
    t.stamp = ix.clock := by
  cases h with
  | failed filters h => cases ht
  | rootless h => cases ht
  | begun filters roots found hr hd =>
    cases ht
    rfl

theorem resumed_task {ix ix' : Indexer} {t : Task} {standing : Standing}
    (h : ix.Resumed t standing ix') {t' : Task} (ht : standing.task? = some t') :
    t.Continues t' ∨ t'.stamp = ix.clock := by
  cases h with
  | working hc hs =>
    cases ht
    exact .inl hc
  | failed e => cases ht
  | late r hb => cases ht
  | outdated hb hg ho => exact .inr (onward_task ho ht)
  | kept e hb hg he ho => exact .inr (onward_task ho ht)
  | unbuilt hu => cases ht
  | built p hp => cases ht

/-- What waits after a move has waited before, perhaps with less work done, or has a new stamp. -/
theorem step_waiting (H : a.Sound) (m : Move σ) {n : Nat} {t' : Task}
    (h : (a.step u m).2.waiting n = some t') :
    (∃ t, a.waiting n = some t ∧ (t' = t ∨ t.Continues t')) ∨ t'.stamp = a.index.clock := by
  cases m with
  | call op fs =>
    rw [step_call] at h
    rcases note_waiting_eq_some h with ⟨-, h⟩ | ⟨-, h⟩
    · right
      cases hb : a.index.building with
      | true =>
        rw [Indexer.start_busy hb] at h
        cases h
      | false =>
        by_cases hop : op = .build
        · subst hop
          exact entered_task (Indexer.start_entered u fs hb) h
        · exact onward_task (Indexer.start_onward u fs hop hb) h
    · exact .inl ⟨t', h, .inl rfl⟩
  | resume k fs s =>
    cases hk : a.waiting k with
    | none =>
      rw [step_resume_none u hk] at h
      exact .inl ⟨t', h, .inl rfl⟩
    | some t =>
      rw [step_resume u hk] at h
      rcases note_waiting_eq_some h with ⟨hn, h⟩ | ⟨-, h⟩
      · rcases resumed_task (Indexer.resume_resumed u fs (H.task k t hk) s) h with hc | hs
        · exact .inl ⟨t, hn ▸ hk, .inr hc⟩
        · exact .inr hs
      · exact .inl ⟨t', h, .inl rfl⟩

/-! ## The clock -/

theorem onward_clock {ix ix' : Indexer} {standing : Standing} (h : ix.Onward standing ix') :
    ix.clock ≤ ix'.clock := by
  cases h with
  | finished r h => exact Nat.le_of_eq h.clock.symm
  | waiting purpose path h hb => exact h.clock ▸ Nat.le_succ _

theorem entered_clock {fs : FileSystem} {ix ix' : Indexer} {standing : Standing}
    (h : Indexer.Entered u fs ix standing ix') : ix.clock ≤ ix'.clock := by
  cases h with
  | failed filters h => exact Nat.le_refl _
  | rootless h => exact Nat.le_refl _
  | begun filters roots found hr hd => exact Nat.le_succ _

theorem resumed_clock {ix ix' : Indexer} {t : Task} {standing : Standing}
    (h : ix.Resumed t standing ix') : ix.clock ≤ ix'.clock := by
  cases h with
  | outdated hb hg ho => exact onward_clock ho
  | kept e hb hg he ho =>
    have h := onward_clock ho
    exact h
  | _ => exact Nat.le_refl _

/-- The clock only goes on. -/
theorem clock_le_step (H : a.Sound) (m : Move σ) :
    a.index.clock ≤ (a.step u m).2.index.clock := by
  cases m with
  | call op fs =>
    rw [step_call]
    cases hb : a.index.building with
    | true =>
      rw [Indexer.start_busy hb]
      exact Nat.le_refl _
    | false =>
      by_cases hop : op = .build
      · subst hop
        exact entered_clock (Indexer.start_entered u fs hb)
      · exact onward_clock (Indexer.start_onward u fs hop hb)
  | resume n fs s =>
    cases hn : a.waiting n with
    | none => simp [step_resume_none u hn]
    | some t =>
      rw [step_resume u hn]
      exact resumed_clock (Indexer.resume_resumed u fs (H.task n t hn) s)

/-! ## During a build -/

/-- How a build that is going on ends. -/
inductive Ended (ix : Indexer) (job : BuildJob) : Indexer → Prop
  | unbuilt : Ended ix job { ix with building := false }
  | built (p : Prepared) (h : job.Makes p) :
    Ended ix job
      { ix with
        building := false, store := .install p.entries job.generation
        lastReport := some (job.report p) }

theorem resumed_file_busy {ix ix' : Indexer} {purpose : Purpose} {job : FileJob}
    {standing : Standing} (hb : ix.building = true)
    (h : ix.Resumed (.file purpose job) standing ix') : ix' = ix := by
  cases h with
  | outdated hn => simp [hb] at hn
  | kept e hn => simp [hb] at hn
  | _ => rfl

theorem resumed_build {ix ix' : Indexer} {job : BuildJob} {standing : Standing}
    (h : ix.Resumed (.build job) standing ix') :
    (ix' = ix ∧ ∃ stage, standing.task? = some (.build { job with stage })) ∨
      (standing.task? = none ∧ Ended ix job ix') := by
  cases h with
  | working hc hs =>
    cases hc with
    | build job stage => exact .inl ⟨rfl, stage, rfl⟩
  | unbuilt hu => exact .inr ⟨rfl, .unbuilt⟩
  | built p hp => exact .inr ⟨rfl, .built p hp⟩

/-- While a build is going on, the index stays as it is until the build ends. -/
theorem step_busy (H : a.Sound) {n : Nat} {job : BuildJob} (hn : a.waiting n = some (.build job))
    (m : Move σ) :
    ((a.step u m).2.index = a.index ∧
      ∃ stage, (a.step u m).2.waiting n = some (.build { job with stage })) ∨
    ((a.step u m).2.waiting n = none ∧ Ended a.index job (a.step u m).2.index) := by
  have hb := (H.build n job hn).1
  cases m with
  | call op fs =>
    rw [step_call, Indexer.start_busy hb]
    have hne : n ≠ a.calls := Nat.ne_of_lt (H.call n _ hn)
    exact .inl ⟨rfl, job.stage, (if_neg hne).trans hn⟩
  | resume k fs s =>
    cases hk : a.waiting k with
    | none =>
      rw [step_resume_none u hk]
      exact .inl ⟨rfl, job.stage, hn⟩
    | some t =>
      rw [step_resume u hk]
      have hr : a.index.Resumed t (a.index.resume u fs t s).1 (a.index.resume u fs t s).2.1 :=
        Indexer.resume_resumed u fs (H.task k t hk) s
      by_cases hkn : n = k
      · subst hkn
        rw [hn] at hk
        cases hk
        rcases resumed_build hr with ⟨hix, stage, hs⟩ | ⟨hs, he⟩
        · exact .inl ⟨hix, stage, (if_pos rfl).trans hs⟩
        · exact .inr ⟨(if_pos rfl).trans hs, he⟩
      · cases t with
        | build job' => exact absurd (H.one n k job job' hn hk) hkn
        | file purpose job' =>
          exact .inl ⟨resumed_file_busy hb hr, job.stage, (if_neg hkn).trans hn⟩

end Activity
end CodeAtlas
