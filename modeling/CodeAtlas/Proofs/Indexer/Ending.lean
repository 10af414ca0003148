import CodeAtlas.Proofs.Indexer.Isolation

/-!
# How builds end

A build replaces all of the store or leaves it as it is. `Activity.BuildEnds` relates what there is
when a build is called to what there is when it ends, at once or after any other moves, and
`Indexer.Ends` lists how it can end: it is refused, it fails, or it reports. A fault of
configuration empties the store, and the host is told of it once; any other failure leaves no trace;
and a report names the generation that is there then (`Activity.build_ends`). Every build that is
called can be brought to one of these ends (`Activity.exists_buildEnds`).
-/

namespace CodeAtlas

namespace Indexer

/-- What a build that fails leaves behind. -/
structure Fails (ix : Indexer) (e : Error) (ix' : Indexer) : Prop where
  idle : ix'.building = false
  attachments : ix.SameAttachments ix'
  report : ix'.lastReport = ix.lastReport
  /-- The store is emptied, and the host is told of the error. -/
  configuration : e.IsConfiguration → ix'.store.entries = .empty ∧
    ix'.store.generation = ix.store.generation + 1 ∧ ix'.notified = ix.notified ++ [e]
  other : ¬ e.IsConfiguration → ix'.store = ix.store ∧ ix'.notified = ix.notified

/-- What a build that reports leaves behind. -/
structure Reports (ix : Indexer) (r : BuildReport) (ix' : Indexer) : Prop where
  idle : ix'.building = false
  attachments : ix.SameAttachments ix'
  report : ix'.lastReport = some r
  notified : ix'.notified = ix.notified
  next : r.generation = ix.store.nextGeneration
  generation : ix'.store.generation = r.generation
  entries : IsGeneration ix'.store.entries r.generation
  files : r.files = ix'.store.entries.values.length
  symbols : r.symbols = ix'.store.symbols.length
  parseErrors : r.parseErrors = ix'.store.entries.values.countP fun e => e.parseError.isSome

/-- How a build ends, by what it comes to. -/
inductive Ends (ix : Indexer) : Except Error Result → Indexer → Prop
  /-- Another build is going on. -/
  | refused (hb : ix.building = true) : Ends ix (.ok (.report none)) ix
  | failed {e : Error} {ix' : Indexer} (h : ix.Fails e ix') : Ends ix (.error e) ix'
  | reported {r : BuildReport} {ix' : Indexer} (h : ix.Reports r ix') :
    Ends ix (.ok (.report (some r))) ix'

variable {σ : Type} {u : Setup σ} {fs : FileSystem} {ix ix' : Indexer} {r : Except Error Result}

theorem Entered.ends (hb : ix.building = false) (h : Entered u fs ix (.finished r) ix') :
    ix.Ends r ix' := by
  cases h with
  | failed filters h =>
    exact .failed ⟨hb, ⟨rfl, rfl⟩, rfl, fun hc => absurd hc h, fun _ => ⟨rfl, rfl⟩⟩
  | rootless h =>
    exact .failed ⟨hb, ⟨rfl, rfl⟩, rfl, fun _ => ⟨rfl, rfl, rfl⟩, fun hn => absurd (.noRoots _) hn⟩

/-- A build that ends when the index is still what it was when the build was entered. -/
theorem Resumed.ends {job : BuildJob} {filters : Table Path IgnoreFilter} {clock : Nat}
    (h : Resumed { ix with filters, building := true, clock } (.build job) (.finished r) ix')
    (hg : job.generation = ix.store.nextGeneration) : ix.Ends r ix' := by
  cases h with
  | unbuilt h => exact .failed ⟨rfl, ⟨rfl, rfl⟩, rfl, fun hc => absurd hc h, fun _ => ⟨rfl, rfl⟩⟩
  | built p h =>
    have he := h.generation.install
    refine .reported ⟨rfl, ⟨rfl, rfl⟩, rfl, rfl, hg, rfl, ?_, ?_, ?_, ?_⟩
    · rw [he]
      exact h.generation
    · rw [he]
      rfl
    · rw [Store.symbols, he]
      rfl
    · rw [he]
      rfl

end Indexer

namespace Activity

variable {σ : Type} {u : Setup σ} {a b : Activity} {fs : FileSystem} {r : Except Error Result}

/-- A build that is called at the first activity comes to the result, and leaves the second one
behind. -/
inductive BuildEnds (u : Setup σ) (a : Activity) (fs : FileSystem) :
    Except Error Result → Activity → Prop
  | atOnce {r : Except Error Result}
    (h : (a.step u (.call .build fs)).1 = some (.finished r)) :
    BuildEnds u a fs r (a.step u (.call .build fs)).2
  /-- There are other moves before the last one of the build. -/
  | later {r : Except Error Result} (ms : List (Move σ)) (fs' : FileSystem) (s : σ)
    (h : (((a.step u (.call .build fs)).2.run u ms).step u (.resume a.calls fs' s)).1 =
      some (.finished r)) :
    BuildEnds u a fs r
      (((a.step u (.call .build fs)).2.run u ms).step u (.resume a.calls fs' s)).2

theorem step_resume_over {n : Nat} (hn : a.waiting n = none) (hc : n < a.calls)
    (ms : List (Move σ)) (fs : FileSystem) (s : σ) :
    ((a.run u ms).step u (.resume n fs s)).1 = none := by
  rw [step_resume_none u (run_over hn hc ms)]

/-- A build that waits ends with the index as it was when the build was entered. -/
theorem ends_of_waiting (H : a.Sound) {ix : Indexer} {n : Nat} {job : BuildJob}
    {filters : Table Path IgnoreFilter} {clock : Nat} (hn : a.waiting n = some (.build job))
    (hix : a.index = { ix with filters, building := true, clock })
    (hg : job.generation = ix.store.nextGeneration) (ms : List (Move σ)) {s : σ}
    (h : ((a.run u ms).step u (.resume n fs s)).1 = some (.finished r)) :
    ix.Ends r ((a.run u ms).step u (.resume n fs s)).2.index := by
  have hw : (a.run u ms).waiting n ≠ none := by
    intro hnone
    rw [step_resume_none u hnone] at h
    cases h
  obtain ⟨hsame, stage, hs⟩ := run_busy H hn ms hw
  have hlast : (a.run u ms).index.Resumed _ _ _ :=
    Indexer.resume_resumed u fs ((H.run ms).task n _ hs) s
  rw [step_resume u hs] at h ⊢
  rw [Option.some.inj h, hsame, hix] at hlast
  rw [hsame, hix]
  exact hlast.ends hg

/-- A build that waits when it has been called, and ends after some other moves. -/
structure BuildWaits (u : Setup σ) (a : Activity) (fs : FileSystem) (r : Except Error Result)
    (b : Activity) (filters : Table Path IgnoreFilter) (job : BuildJob) (ms : List (Move σ))
    (fs' : FileSystem) (s : σ) : Prop where
  roots : a.index.validRoots fs = .ok job.roots
  found : ({ a.index with filters := .empty } : Indexer).discoverAll u fs job.roots =
    (.ok job.found, { a.index with filters })
  generation : job.generation = a.index.store.nextGeneration
  waiting : (a.step u (.call .build fs)).2.waiting a.calls = some (.build job)
  index : (a.step u (.call .build fs)).2.index =
    { a.index with filters, building := true, clock := a.index.clock + 1 }
  last : ((a.step u (.call .build fs)).2.run u ms).step u (.resume a.calls fs' s) =
    (some (.finished r), b)

/-- A build is refused, or ends when it is entered, or waits before it ends. -/
theorem BuildEnds.course (h : BuildEnds u a fs r b) :
    (a.index.building = true ∧ r = .ok (.report none) ∧ b.index = a.index) ∨
      (a.index.building = false ∧ (a.step u (.call .build fs)).1 = some (.finished r) ∧
        a.index.Entered u fs (.finished r) b.index) ∨
      ∃ filters job ms fs' s, a.BuildWaits u fs r b filters job ms fs' s := by
  have hcalls : a.calls < (a.step u (.call .build fs)).2.calls := Nat.lt_succ_self _
  have hw : (a.step u (.call .build fs)).2.waiting a.calls =
    (a.index.start u fs .build).1.task? := if_pos rfl
  have hs : (a.step u (.call .build fs)).1 = some (a.index.start u fs .build).1 := rfl
  have hix : (a.step u (.call .build fs)).2.index = (a.index.start u fs .build).2 := rfl
  cases hb : a.index.building with
  | true =>
    rw [Indexer.start_busy hb] at hw hs hix
    cases h with
    | atOnce h =>
      cases hs.symm.trans h
      exact .inl ⟨rfl, rfl, hix⟩
    | later ms fs' s h =>
      rw [step_resume_over hw hcalls] at h
      cases h
  | false =>
    have he := Indexer.start_entered u fs hb
    generalize (a.index.start u fs .build).1 = standing at he hw hs
    generalize (a.index.start u fs .build).2 = ix at he hix
    cases h with
    | atOnce h =>
      cases hs.symm.trans h
      exact .inr (.inl ⟨rfl, h, hix ▸ he⟩)
    | later ms fs' s h =>
      cases he with
      | failed filters he =>
        rw [step_resume_over hw hcalls] at h
        cases h
      | rootless he =>
        rw [step_resume_over hw hcalls] at h
        cases h
      | begun filters roots found hr hd =>
        exact .inr (.inr ⟨filters, _, ms, fs', s, hr, hd, rfl, hw, hix, Prod.ext h rfl⟩)

theorem BuildEnds.ends (H : a.Sound) (h : BuildEnds u a fs r b) : a.index.Ends r b.index := by
  rcases h.course with ⟨hb, rfl, hix⟩ | ⟨hb, -, he⟩ | ⟨filters, job, ms, fs', s, hwaits⟩
  · rw [hix]
    exact .refused hb
  · exact he.ends hb
  · have hlast := ends_of_waiting (H.step (u := u) (.call .build fs)) hwaits.waiting hwaits.index
      hwaits.generation ms (congrArg Prod.fst hwaits.last)
    rw [hwaits.last] at hlast
    exact hlast

/-- Every build that is called can be brought to its end. -/
theorem exists_buildEnds (u : Setup σ) (a : Activity) (fs : FileSystem) (s : σ) :
    ∃ r b, BuildEnds u a fs r b := by
  cases hs : (a.index.start u fs .build).1 with
  | finished r => exact ⟨r, _, .atOnce (congrArg some hs)⟩
  | waiting t =>
    have hw : (a.step u (.call .build fs)).2.waiting a.calls = some t := by
      rw [step_call, hs]
      exact if_pos rfl
    obtain ⟨ms, s', hlast⟩ := step_finish u fs hw s
    exact ⟨_, _, .later ms fs s' (congrArg Prod.fst hlast)⟩

/-- Whatever operations have been called, and however they interleave with it: a build can be
brought to its end, and there it is refused, or fails and leaves no half of its work behind, or
installs the generation that it reports. -/
theorem build_ends (u : Setup σ) (roots : List Path) (before : List (Move σ)) (fs : FileSystem) :
    (∀ _ : σ, ∃ r b, BuildEnds u ((fresh roots).run u before) fs r b) ∧
      ∀ r b, BuildEnds u ((fresh roots).run u before) fs r b →
        ((fresh roots).run u before).index.Ends r b.index := by
  have H : ((fresh roots).run u before).Sound := sound_run u roots before
  exact ⟨fun s => exists_buildEnds u _ fs s, fun r b h => h.ends H⟩

/-- A build without roots: the store is emptied, and the host is told. -/
theorem build_ends_rootless :
    let u : Setup Unit := ⟨{}, fun _ => none, none⟩
    let fs : FileSystem := { nodes := .empty, workingDirectory := .ofText "/" }
    ∃ b, BuildEnds u (fresh []) fs (.error (.noRoots [])) b ∧ b.index.building = false ∧
      b.index.store.entries = .empty ∧ b.index.store.generation = 1 ∧
        b.index.notified = [.noRoots []] := by
  intro u fs
  have hb : BuildEnds u (fresh []) fs (.error (.noRoots [])) _ := .atOnce rfl
  refine ⟨_, hb, ?_⟩
  have hends := (build_ends u [] [] fs).2 _ _ hb
  cases hends with
  | failed h =>
    obtain ⟨hempty, hnext, htold⟩ := h.configuration (.noRoots [])
    exact ⟨h.idle, hempty, hnext, htold⟩

end Activity
end CodeAtlas
