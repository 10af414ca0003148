import CodeAtlas.Proofs.Indexer.Effects

/-!
# Builds are isolated

Builds exclude each other, and from its call to its end a build and whatever is called meanwhile
leave the store and the attachments as they are; its end replaces the store in one step
(`Activity.IsolatesBuild`). A file whose entry is begun before a build has ended, or made while one
is going on, does not get into the store (`Activity.LeavesOut`). `Activity.builds_isolated` says so
of all orders of moves.
-/

namespace CodeAtlas

/-- The second index has the attachments of the first. -/
structure Indexer.SameAttachments (ix ix' : Indexer) : Prop where
  files : ix'.attachedFiles = ix.attachedFiles
  folders : ix'.attachedFolders = ix.attachedFolders

/-- A store that holds the next generation, with an entry for each of the files and no others. -/
def Store.IsNextOf (s s' : Store) (files : List Path) : Prop :=
  ∃ entries, s' = .install entries s.nextGeneration ∧ IsGeneration entries s.nextGeneration ∧
    ∀ q, entries.contains q = true ↔ q ∈ files.map Path.toText

namespace Activity

variable {σ : Type} {u : Setup σ} {a : Activity}

/-- What a build that is called now does to the index, whatever else moves before it ends. -/
structure IsolatesBuild (u : Setup σ) (a : Activity) (fs : FileSystem) : Prop where
  attachments : ∀ ms, ((a.step u (.call .build fs)).2.run u ms).waiting a.calls ≠ none →
    a.index.SameAttachments ((a.step u (.call .build fs)).2.run u ms).index
  store : ∀ ms, ((a.step u (.call .build fs)).2.run u ms).waiting a.calls ≠ none →
    ((a.step u (.call .build fs)).2.run u ms).index.store = a.index.store
  /-- The build ends at once: nothing has happened, or there is no root. -/
  atOnce : (a.step u (.call .build fs)).2.waiting a.calls = none →
    a.index.SameAttachments (a.step u (.call .build fs)).2.index ∧
      ((a.step u (.call .build fs)).2.index.store = a.index.store ∨
        (a.step u (.call .build fs)).2.index.store = a.index.store.clear ∧
          ∃ roots, (a.step u (.call .build fs)).1 = some (.finished (.error (.noRoots roots))))
  /-- The build ends later: it has failed, or the next generation takes the place of the store. -/
  atEnd : ∀ ms m, ((a.step u (.call .build fs)).2.run u ms).waiting a.calls ≠ none →
    ((a.step u (.call .build fs)).2.run u (ms ++ [m])).waiting a.calls = none →
    a.index.SameAttachments ((a.step u (.call .build fs)).2.run u (ms ++ [m])).index ∧
      (((a.step u (.call .build fs)).2.run u (ms ++ [m])).index.store = a.index.store ∨
        ∃ roots found filters, a.index.validRoots fs = .ok roots ∧
          ({ a.index with filters := .empty } : Indexer).discoverAll u fs roots =
            (.ok found, { a.index with filters }) ∧
          a.index.store.IsNextOf ((a.step u (.call .build fs)).2.run u (ms ++ [m])).index.store
            found.files)

/-- A file that is being taken in does not get into the store if a new generation begins before
that is done, or if a build is going on when it is. -/
structure LeavesOut (u : Setup σ) (a : Activity) (n : Nat) (job : FileJob) : Prop where
  outdated : ∀ ms, (a.run u ms).index.store.generation ≠ a.index.store.generation →
    ∀ p e, (a.run u ms).index.store.get? p = some e → e.stamp ≠ job.stamp
  late : a.index.building = true → ∀ m,
    (∀ t, (a.step u m).2.waiting n = some t → t.stamp ≠ job.stamp) →
    ∀ ms p e, ((a.step u m).2.run u ms).index.store.get? p = some e → e.stamp ≠ job.stamp

/-! ## From the call of a build to its end -/

/-- There is nothing to note of a call that is over. -/
theorem note_none {index : Indexer} {n : Nat} (hn : a.waiting n = none) (calls : Nat) :
    note { a with index, calls } n none = { a with index, calls } := by
  simp only [note, mk.injEq, true_and, and_true]
  funext m
  split
  · next h => exact h ▸ hn.symm
  · rfl

/-- A call that is over stays so. -/
theorem step_over {n : Nat} (hn : a.waiting n = none) (hc : n < a.calls) (m : Move σ) :
    (a.step u m).2.waiting n = none ∧ n < (a.step u m).2.calls := by
  cases m with
  | call op fs => exact ⟨(if_neg (Nat.ne_of_lt hc)).trans hn, Nat.lt_succ_of_lt hc⟩
  | resume k fs s =>
    cases hk : a.waiting k with
    | none =>
      rw [step_resume_none u hk]
      exact ⟨hn, hc⟩
    | some t =>
      have hne : n ≠ k := by
        rintro rfl
        rw [hn] at hk
        cases hk
      rw [step_resume u hk]
      exact ⟨(if_neg hne).trans hn, hc⟩

theorem run_over {n : Nat} (hn : a.waiting n = none) (hc : n < a.calls) (ms : List (Move σ)) :
    (a.run u ms).waiting n = none := by
  induction ms generalizing a with
  | nil => exact hn
  | cons m ms ih =>
    obtain ⟨hn, hc⟩ := step_over (u := u) hn hc m
    exact ih hn hc

theorem calls_le_step (m : Move σ) : a.calls ≤ (a.step u m).2.calls := by
  cases m with
  | call op fs => exact Nat.le_succ _
  | resume n fs s =>
    rw [step]
    split <;> exact Nat.le_refl _

/-- As long as a build waits, the index is what it was when the build was entered. -/
theorem run_busy (H : a.Sound) {n : Nat} {job : BuildJob} (hn : a.waiting n = some (.build job))
    (ms : List (Move σ)) (h : (a.run u ms).waiting n ≠ none) :
    (a.run u ms).index = a.index ∧
      ∃ stage, (a.run u ms).waiting n = some (.build { job with stage }) := by
  induction ms generalizing a job with
  | nil => exact ⟨rfl, job.stage, hn⟩
  | cons m ms ih =>
    rw [run_cons] at h ⊢
    -- A call that is over stays over, so a build that waits at the end has not ended before.
    rcases step_busy (u := u) H hn m with ⟨hix, stage, hs⟩ | ⟨hover, -⟩
    · have := ih (H.step m) hs h
      rw [hix] at this
      exact this
    · have hc : n < (a.step u m).2.calls :=
        Nat.lt_of_lt_of_le (H.call n _ hn) (calls_le_step m)
      exact absurd (run_over hover hc ms) h

/-- A build that is over after its call is isolated, as it has at most emptied the store. -/
theorem IsolatesBuild.of_over {fs : FileSystem}
    (hw : (a.step u (.call .build fs)).2.waiting a.calls = none)
    (ha : a.index.SameAttachments (a.step u (.call .build fs)).2.index)
    (hs : (a.step u (.call .build fs)).2.index.store = a.index.store ∨
      (a.step u (.call .build fs)).2.index.store = a.index.store.clear ∧
        ∃ roots, (a.step u (.call .build fs)).1 = some (.finished (.error (.noRoots roots)))) :
    a.IsolatesBuild u fs := by
  have hover : ∀ ms, ((a.step u (.call .build fs)).2.run u ms).waiting a.calls = none :=
    run_over hw (Nat.lt_succ_self _)
  exact {
    attachments := fun ms h => absurd (hover ms) h
    store := fun ms h => absurd (hover ms) h
    atOnce := fun _ => ⟨ha, hs⟩
    atEnd := fun ms m h => absurd (hover ms) h }

/-- A build that waits after its call is isolated: the index stays as it is, until the build ends
and at most replaces the store. -/
theorem IsolatesBuild.of_waiting (H : a.Sound) {fs : FileSystem}
    {filters : Table Path IgnoreFilter} {roots : List Path} {found : Discovery}
    (hr : a.index.validRoots fs = .ok roots)
    (hd : ({ a.index with filters := .empty } : Indexer).discoverAll u fs roots =
      (.ok found, { a.index with filters }))
    (hw : (a.step u (.call .build fs)).2.waiting a.calls = some (.build
      ⟨roots, found, a.index.store.nextGeneration, a.index.clock, .reading found.files []⟩))
    (hix : (a.step u (.call .build fs)).2.index =
      { a.index with filters, building := true, clock := a.index.clock + 1 }) :
    a.IsolatesBuild u fs := by
  have hb : (a.step u (.call .build fs)).2.Sound := H.step _
  constructor
  · intro ms h
    rw [(run_busy hb hw ms h).1, hix]
    exact ⟨rfl, rfl⟩
  · intro ms h
    rw [(run_busy hb hw ms h).1, hix]
  · intro h
    rw [hw] at h
    cases h
  · intro ms m h hend
    obtain ⟨hsame, stage, hs⟩ := run_busy hb hw ms h
    rw [run_append] at hend ⊢
    rcases step_busy (hb.run ms) hs m with ⟨-, stage', hs'⟩ | ⟨-, he⟩
    · have hn : some _ = none := hs'.symm.trans hend
      cases hn
    · have hnext : ((((a.step u (.call .build fs)).2.run u ms).run u [m]).index =
        (((a.step u (.call .build fs)).2.run u ms).step u m).2.index) := rfl
      rw [hnext]
      rw [hsame, hix] at he
      generalize (((a.step u (.call .build fs)).2.run u ms).step u m).2.index = ix at he ⊢
      cases he with
      | unbuilt => exact ⟨⟨rfl, rfl⟩, .inl rfl⟩
      | built p hp =>
        exact ⟨⟨rfl, rfl⟩, .inr ⟨roots, found, filters, hr, hd, p.entries, rfl, hp.generation,
          hp.contains⟩⟩

/-- A build is isolated from all that goes on. -/
theorem isolatesBuild (H : a.Sound) (fs : FileSystem) : a.IsolatesBuild u fs := by
  cases hb : a.index.building with
  | true =>
    refine .of_over ?_ ?_ (.inl ?_)
    all_goals rw [step_call, Indexer.start_busy hb]
    · exact if_pos rfl
    · exact ⟨rfl, rfl⟩
    · rfl
  | false =>
    have he := Indexer.start_entered u fs hb
    have hw : (a.step u (.call .build fs)).2.waiting a.calls =
      (a.index.start u fs .build).1.task? := if_pos rfl
    have ha : (a.step u (.call .build fs)).1 = some (a.index.start u fs .build).1 := rfl
    have hix : (a.step u (.call .build fs)).2.index = (a.index.start u fs .build).2 := rfl
    generalize (a.index.start u fs .build).1 = standing at he hw ha
    generalize (a.index.start u fs .build).2 = ix at he hix
    cases he with
    | failed filters h => exact .of_over hw (hix ▸ ⟨rfl, rfl⟩) (.inl (hix ▸ rfl))
    | rootless h => exact .of_over hw (hix ▸ ⟨rfl, rfl⟩) (.inr ⟨hix ▸ rfl, _, ha⟩)
    | begun filters roots found hr hd => exact .of_waiting H hr hd hw hix

/-! ## Files that do not get into the store -/

/-- Nothing has the stamp but files that are being taken in, begun at the given generation at the
latest, and what they have put into the store before the next one. -/
structure Aged (k : Nat) (g : Int) (a : Activity) : Prop where
  past : k < a.index.clock
  task : ∀ n t, a.waiting n = some t → t.stamp = k →
    ∃ purpose job, t = .file purpose job ∧ job.generation ≤ g
  stored : ∀ p e, a.index.store.get? p = some e → e.stamp = k → a.index.store.generation ≤ g

theorem Aged.step {k : Nat} {g : Int} (h : Aged k g a) (H : a.Sound) (m : Move σ) :
    Aged k g (a.step u m).2 := by
  constructor
  · exact Nat.lt_of_lt_of_le h.past (clock_le_step H m)
  · intro n t' ht' hk
    rcases step_waiting H m ht' with ⟨t, ht, rfl | hc⟩ | hnew
    · exact h.task n t' ht hk
    · obtain ⟨purpose, job, rfl, hg⟩ := h.task n t ht (hc.stamp.symm.trans hk)
      cases hc with
      | file purpose job stage => exact ⟨purpose, _, rfl, hg⟩
    · exact absurd (hk.symm.trans hnew) (Nat.ne_of_lt h.past)
  · intro p e he hk
    have hs := effect (u := u) H m
    generalize (a.step u m).1 = standing at hs
    generalize (a.step u m).2.index.store = s at hs he ⊢
    cases hs with
    | installed p' ht hm =>
      rw [Store.get?, hm.generation.install] at he
      obtain ⟨purpose, job, hj, -⟩ := h.task _ _ ht ((hm.stamp p e he).symm.trans hk)
      cases hj
    | cleared roots hb => simp [Store.get?, Store.clear, Table.find?_empty] at he
    | same hg hr hold =>
      rw [hg]
      exact h.stored p e (hold p e he) hk
    | put ht hb hg hj hold =>
      rw [hg]
      rcases hold p e he with he | ⟨hstamp, -⟩
      · exact h.stored p e he hk
      · obtain ⟨purpose, job', hj', hg'⟩ := h.task _ _ ht (hstamp.symm.trans hk)
        cases hj'
        exact hj ▸ hg'

theorem Aged.run {k : Nat} {g : Int} (h : Aged k g a) (H : a.Sound) (ms : List (Move σ)) :
    Aged k g (a.run u ms) := by
  induction ms generalizing a with
  | nil => exact h
  | cons m ms ih => exact ih (h.step H m) (H.step m)

/-- What gets into the store by a move was being taken in by the task that has moved. -/
theorem stored_step (H : a.Sound) (m : Move σ) {p : String} {e : Entry}
    (he : (a.step u m).2.index.store.get? p = some e) :
    a.index.store.get? p = some e ∨
      ∃ n fs s t, m = .resume n fs s ∧ a.waiting n = some t ∧ e.stamp = t.stamp ∧
        (a.index.building = true → ∃ job, t = .build job) := by
  have hs := effect (u := u) H m
  generalize (a.step u m).1 = standing at hs
  generalize (a.step u m).2.index.store = s at hs he
  cases hs with
  | installed p' ht hm =>
    rw [Store.get?, hm.generation.install] at he
    exact .inr ⟨_, _, _, _, rfl, ht, hm.stamp p e he, fun _ => ⟨_, rfl⟩⟩
  | cleared roots hb => simp [Store.get?, Store.clear, Table.find?_empty] at he
  | same hg hr hold => exact .inl (hold p e he)
  | put ht hb hg hj hold =>
    rcases hold p e he with he | ⟨hstamp, -⟩
    · exact .inl he
    · exact .inr ⟨_, _, _, _, rfl, ht, hstamp, fun h => by simp [hb] at h⟩

/-- What a file is taken in for does not get into the store while a build is going on. -/
theorem busy_stored (H : a.Sound) {n : Nat} {purpose : Purpose} {job : FileJob}
    (hn : a.waiting n = some (.file purpose job)) (hb : a.index.building = true) (m : Move σ)
    {p : String} {e : Entry} (he : (a.step u m).2.index.store.get? p = some e) :
    e.stamp ≠ job.stamp := by
  rcases stored_step H m he with he | ⟨i, fs, s, t, -, ht, hstamp, hbuild⟩
  · exact H.stored p e n _ he hn
  · intro hk
    obtain ⟨job', rfl⟩ := hbuild hb
    obtain rfl := H.apart i n _ _ ht hn (hstamp.symm.trans hk)
    rw [hn] at ht
    cases ht

/-- A file that is being taken in is left out of later generations, and if it comes too late. -/
theorem leavesOut (H : a.Sound) {n : Nat} {purpose : Purpose} {job : FileJob}
    (hn : a.waiting n = some (.file purpose job)) : a.LeavesOut u n job := by
  have hclock : job.stamp < a.index.clock := H.clock n _ hn
  have hstored : ∀ p e, a.index.store.get? p = some e → e.stamp ≠ job.stamp :=
    fun p e he => H.stored p e n _ he hn
  constructor
  · intro ms hne p e he hk
    have hold : Aged job.stamp a.index.store.generation a := by
      refine ⟨hclock, fun m t ht hk => ?_, fun p e he hk => absurd hk (hstored p e he)⟩
      obtain rfl := H.apart m n t _ ht hn hk
      rw [hn] at ht
      cases ht
      exact ⟨purpose, job, rfl, H.file m purpose job hn⟩
    have hle := (hold.run H ms).stored p e he hk
    have hge := generation_le_run (u := u) H ms
    omega
  · intro hb m hover ms p e he hk
    have hgone : Aged job.stamp ((a.step u m).2.index.store.generation - 1) (a.step u m).2 := by
      refine ⟨Nat.lt_of_lt_of_le hclock (clock_le_step H m), fun i t' ht' hi => ?_,
        fun q d hd hq => absurd hq (busy_stored H hn hb m hd)⟩
      rcases step_waiting H m ht' with ⟨t, ht, hold⟩ | hnew
      · have hstamp : t.stamp = job.stamp := by
          rcases hold with rfl | hc
          · exact hi
          · exact hc.stamp.symm.trans hi
        obtain rfl := H.apart i n t _ ht hn hstamp
        exact absurd hi (hover t' ht')
      · exact absurd (hi.symm.trans hnew) (Nat.ne_of_lt hclock)
    have hle := (hgone.run (H.step m) ms).stored p e he hk
    have hge := generation_le_run (u := u) (H.step (u := u) m) ms
    omega

/-! ## All orders of moves -/

/-- However operations interleave: at most one build waits, and it does so exactly while one is
going on; another one that is called meanwhile is refused, and nothing comes of it; the course of
every build is isolated; what gets into the store was being taken in by the task that has moved,
which its stamp tells from all others; and files are left out that a build has overtaken. -/
theorem builds_isolated (u : Setup σ) (roots : List Path) (before : List (Move σ)) :
    let a := (fresh roots).run u before
    (∀ m n job job', a.waiting m = some (.build job) → a.waiting n = some (.build job') → m = n) ∧
      (a.index.building = true ↔ ∃ n job, a.waiting n = some (.build job)) ∧
      (a.index.building = true → ∀ fs, a.step u (.call .build fs) =
        (some (.finished (.ok (.report none))), { a with calls := a.calls + 1 })) ∧
      (∀ fs, a.IsolatesBuild u fs) ∧
      (∀ m n t t', a.waiting m = some t → a.waiting n = some t' → t.stamp = t'.stamp → m = n) ∧
      (∀ m p e, (a.step u m).2.index.store.get? p = some e → a.index.store.get? p = some e ∨
        ∃ n fs s t, m = .resume n fs s ∧ a.waiting n = some t ∧ e.stamp = t.stamp) ∧
      ∀ n purpose job, a.waiting n = some (.file purpose job) → a.LeavesOut u n job := by
  intro a
  have H : a.Sound := sound_run u roots before
  refine ⟨H.one, ⟨H.building, fun ⟨n, job, h⟩ => (H.build n job h).1⟩, fun hb fs => ?_,
    isolatesBuild H, H.apart, fun m p e he => ?_, fun n purpose job => leavesOut H⟩
  · rw [step_call, Indexer.start_busy hb]
    simp only [Operation.idle, Standing.task?, Prod.mk.injEq, true_and]
    exact note_none H.calls (a.calls + 1)
  · rcases stored_step H m he with he | ⟨n, fs, s, t, hm, ht, hk, -⟩
    · exact .inl he
    · exact .inr ⟨n, fs, s, t, hm, ht, hk⟩

end Activity
end CodeAtlas
