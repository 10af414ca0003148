import CodeAtlas.Proofs.Indexer.Steps

/-!
# What a task does at its next step

A task is sound if what it has worked out so far was made of the files that it was begun for
(`Task.Sound`). A step of a sound task works out more and changes nothing else, or ends the work on
a file, or ends a build; `Indexer.Resumed` lists what it can do (`resume_resumed`).

So a build that runs alone and ends well leaves the files that it has found in the store, and no
others (`Indexer.finish_build`), and an update that has taken in a file ends with the entry of the
file in the store (`Indexer.finish_single`).
-/

namespace CodeAtlas

/-- What is known of a file so far was made of that file. -/
def FileJob.Sound (job : FileJob) : Prop :=
  match job.stage with
  | .begun => True
  | .extracted e => e.TakenFrom job.path job.generation job.stamp
  | .embedded r => ∀ e, r = .ok e → e.TakenFrom job.path job.generation job.stamp

/-- What was prepared is the generation of the files that a build found. -/
structure BuildJob.Makes (job : BuildJob) (p : Prepared) : Prop where
  generation : IsGeneration p.entries job.generation
  stamp : ∀ q e, p.entries.find? q = some e → e.stamp = job.stamp
  contains : ∀ q, p.entries.contains q = true ↔ q ∈ job.found.files.map Path.toText

/-- What a build has read so far was made of the files that it found, from the first one on. -/
def BuildJob.Sound (job : BuildJob) : Prop :=
  match job.stage with
  | .reading rest results =>
    (∀ r ∈ results, ∃ path, r.1.TakenFrom path job.generation job.stamp) ∧
      results.map (·.1.path) ++ rest.map Path.toText = job.found.files.map Path.toText
  | .prepared r => (∀ p, r = .ok p → job.Makes p) ∧ Configured r

namespace Task

/-- The work so far fits what the task was begun for. -/
def Sound : Task → Prop
  | file _ job => job.Sound
  | build job => job.Sound

/-- When the task was begun. -/
def stamp : Task → Nat
  | file _ job => job.stamp
  | build job => job.stamp

/-- The second task is the first one with more work done. -/
inductive Continues : Task → Task → Prop
  | file (purpose : Purpose) (job : FileJob) (stage : FileStage) :
    Continues (.file purpose job) (.file purpose { job with stage })
  | build (job : BuildJob) (stage : BuildStage) :
    Continues (.build job) (.build { job with stage })

theorem Continues.stamp {t t' : Task} (h : t.Continues t') : t'.stamp = t.stamp := by
  cases h <;> rfl

end Task

theorem Indexer.takeIn_sound (purpose : Purpose) (path : Path) (ix : Indexer) :
    (Task.file purpose (ix.takeIn path).1).Sound := trivial

namespace FileJob

variable {σ : Type} {u : Setup σ} {job : FileJob}

/-- Analysing the file keeps the work on it sound. -/
theorem Sound.extract (fs : FileSystem) : Sound { job with
    stage := .extracted (u.extractFile fs job.path job.generation job.stamp).1 } :=
  Setup.extractFile_takenFrom fs job.path job.generation job.stamp

/-- Asking for vectors keeps the work on a file sound. -/
theorem Sound.embed {e : Entry} (H : job.Sound) (hs : job.stage = .extracted e) (s : σ) :
    Sound { job with stage := .embedded ((u.embed e s).1.map Prod.fst) } := by
  rw [Sound, hs] at H
  intro e' he'
  obtain ⟨⟨e'', n⟩, hr, rfl⟩ := Except.map_eq_ok_iff.1 he'
  exact H.of_bare (Setup.embed_bare (Prod.ext hr rfl))

/-- What is known of a file in the end was made of it. -/
theorem Sound.takenFrom {e : Entry} (H : job.Sound) (hs : job.stage = .embedded (.ok e)) :
    e.TakenFrom job.path job.generation job.stamp := by
  rw [Sound, hs] at H
  exact H e rfl

end FileJob

theorem BuildJob.Sound.of_found (roots : List Path) (found : Discovery) (n : Int) (stamp : Nat) :
    Sound ⟨roots, found, n, stamp, .reading found.files []⟩ := ⟨nofun, rfl⟩

namespace BuildJob

variable {σ : Type} {u : Setup σ} {job : BuildJob}

/-- Reading one more file keeps a build sound. -/
theorem Sound.read {path : Path} {rest : List Path} {results : List (Entry × List Use)}
    (H : job.Sound) (hs : job.stage = .reading (path :: rest) results) (fs : FileSystem) :
    Sound { job with
      stage := .reading rest (results ++ [u.extractFile fs path job.generation job.stamp]) } := by
  rw [Sound, hs] at H
  obtain ⟨hr, hf⟩ := H
  have he : (u.extractFile fs path job.generation job.stamp).1.TakenFrom path _ _ :=
    Setup.extractFile_takenFrom fs path job.generation job.stamp
  refine ⟨fun r hmem => ?_, ?_⟩
  · rcases List.mem_append.1 hmem with hmem | hmem
    · exact hr r hmem
    · rw [List.mem_singleton.1 hmem]
      exact ⟨path, he⟩
  · rw [← hf, List.map_append, List.append_assoc, List.map_singleton, List.singleton_append,
      List.map_cons, he.path]

/-- What is prepared of all files keeps a build sound. -/
theorem Sound.prepare {results : List (Entry × List Use)} (H : job.Sound)
    (hs : job.stage = .reading [] results) (s : σ) :
    Sound { job with stage := .prepared (job.prepare u results s).1 } := by
  rw [Sound, hs] at H
  obtain ⟨hr, hf⟩ := H
  rw [List.map_nil, List.append_nil] at hf
  refine ⟨fun p hp => ?_, prepare_configured s hr⟩
  obtain ⟨hg, hk, hc⟩ := prepare_ok hp hr
  exact ⟨hg, hk, hf ▸ hc⟩

end BuildJob

namespace Indexer

variable {σ : Type} {u : Setup σ} {fs : FileSystem}

/-- What a task can do at its next step. -/
inductive Resumed (ix : Indexer) : Task → Standing → Indexer → Prop
  | working {t t' : Task} (h : t.Continues t') (hs : t'.Sound) : Resumed ix t (.waiting t') ix
  | failed {purpose : Purpose} {job : FileJob} (e : Error) :
    Resumed ix (.file purpose job) (.finished (.error e)) ix
  /-- A build is going on. -/
  | late {purpose : Purpose} {job : FileJob} (r : Result) (hb : ix.building = true) :
    Resumed ix (.file purpose job) (.finished (.ok r)) ix
  /-- A build has ended meanwhile. -/
  | outdated {purpose : Purpose} {job : FileJob} {standing : Standing} {ix' : Indexer}
    (hb : ix.building = false) (hg : ix.store.generation ≠ job.generation)
    (h : Onward ix standing ix') : Resumed ix (.file purpose job) standing ix'
  | kept {purpose : Purpose} {job : FileJob} {standing : Standing} {ix' : Indexer} (e : Entry)
    (hb : ix.building = false) (hg : ix.store.generation = job.generation)
    (he : e.TakenFrom job.path job.generation job.stamp)
    (h : Onward { ix with store := ix.store.put e } standing ix') :
    Resumed ix (.file purpose job) standing ix'
  | unbuilt {job : BuildJob} {e : Error} (h : ¬ e.IsConfiguration) :
    Resumed ix (.build job) (.finished (.error e)) { ix with building := false }
  | built {job : BuildJob} (p : Prepared) (h : job.Makes p) :
    Resumed ix (.build job) (.finished (.ok (.report (some (job.report p)))))
      { ix with
        building := false, store := .install p.entries job.generation
        lastReport := some (job.report p) }

/-! ## Ending the work on a file -/

variable (u fs) (purpose : Purpose) (job : FileJob) (e : Entry)

theorem settle_busy {ix : Indexer} (hb : ix.building = true) :
    ∃ r, ix.settle u fs purpose job e = (.finished (.ok r), ix) := by
  have hk : ix.keep job e = (none, ix) := by simp [keep, hb]
  rw [settle, hk]
  cases purpose with
  | single => exact ⟨_, rfl⟩
  | scan rest done => exact ⟨_, scanNext_busy hb⟩
  | folder rest done => exact ⟨_, rfl⟩

/-- Once the entry is kept or dropped, the operation goes on. -/
theorem settle_onward {ix : Indexer} (hb : ix.building = false) :
    Onward (ix.keep job e).2 (ix.settle u fs purpose job e).1 (ix.settle u fs purpose job e).2 := by
  have hk : (ix.keep job e).2.building = false := by
    rw [keep]
    split <;> exact hb
  rw [settle]
  cases purpose with
  | single => exact .finished _ (.refl _)
  | scan rest done => exact scanNext_onward _ rest _
  | folder rest done =>
    dsimp only
    split
    · exact .finished _ (.refl _)
    · exact folderNext_onward _ rest hk

variable {e} in
theorem settle_resumed {ix : Indexer} (he : e.TakenFrom job.path job.generation job.stamp) :
    Resumed ix (.file purpose job) (ix.settle u fs purpose job e).1
      (ix.settle u fs purpose job e).2 := by
  cases hb : ix.building with
  | true =>
    obtain ⟨r, hr⟩ := settle_busy u fs purpose job e hb
    rw [hr]
    exact .late r hb
  | false =>
    have ho := settle_onward u fs purpose job e hb
    by_cases hg : ix.store.generation = job.generation
    · have hk : (ix.keep job e).2 = { ix with store := ix.store.put e } := by
        simp [keep, hb, hg]
      rw [hk] at ho
      exact .kept e hb hg he ho
    · have hk : (ix.keep job e).2 = ix := by simp [keep, hg]
      rw [hk] at ho
      exact .outdated hb hg ho

/-! ## Steps -/

theorem resume_resumed {t : Task} {ix : Indexer} (H : t.Sound) (s : σ) :
    Resumed ix t (ix.resume u fs t s).1 (ix.resume u fs t s).2.1 := by
  cases t with
  | file purpose job =>
    have H : job.Sound := H
    rw [resume]
    split
    · exact .working (.file purpose job _) (FileJob.Sound.extract fs)
    · next hs => exact .working (.file purpose job _) (H.embed hs s)
    · exact .failed _
    · next hs => exact settle_resumed u fs purpose job (H.takenFrom hs)
  | build job =>
    have H : job.Sound := H
    rw [resume]
    split
    · next hs => exact .working (.build job _) (H.read hs fs)
    · next hs => exact .working (.build job _) (H.prepare hs s)
    · next r hs =>
      rw [BuildJob.Sound, hs] at H
      cases r with
      | error e => exact .unbuilt (H.2 e rfl)
      | ok p => exact .built p (H.1 p rfl)

end Indexer

/-! ## Builds that run alone -/

namespace Indexer

variable {σ : Type} {u : Setup σ} {fs : FileSystem}

theorem finish_of_finished {ix ix' : Indexer} {t : Task} {s s' : σ} {r : Except Error Result}
    (h : ix.resume u fs t s = (.finished r, ix', s')) : ix.finish u fs t s = (r, ix', s') := by
  rw [finish]
  split
  · next h' =>
    cases h.symm.trans h'
    rfl
  · next h' => cases h.symm.trans h'

theorem finish_of_waiting {ix ix' : Indexer} {t t' : Task} {s s' : σ}
    (h : ix.resume u fs t s = (.waiting t', ix', s')) :
    ix.finish u fs t s = ix'.finish u fs t' s' := by
  rw [finish]
  split
  · next h' => cases h.symm.trans h'
  · next h' =>
    cases h.symm.trans h'
    rfl

/-- A build that ends well has stored the files that it had found. -/
theorem finish_build {ix ix' : Indexer} {job : BuildJob} {s s' : σ} {r : BuildReport}
    (H : job.Sound) (h : ix.finish u fs (.build job) s = (.ok (.report (some r)), ix', s'))
    (q : String) : ix'.store.contains q = true ↔ q ∈ job.found.files.map Path.toText := by
  -- What has been found stays the same while less and less of the build is left to do.
  induction hk : (Task.build job).size using Nat.strongRecOn generalizing job s with
  | ind k ih =>
    have hres : Resumed ix _ _ _ := resume_resumed u fs (show (Task.build job).Sound from H) s
    cases hr : ix.resume u fs (.build job) s with
    | mk standing rest =>
      obtain ⟨ix₁, s₁⟩ := rest
      rw [hr] at hres
      cases hres with
      | working hc hs =>
        cases hc with
        | build job stage =>
          have hlt := resume_size hr
          rw [hk] at hlt
          rw [finish_of_waiting hr] at h
          exact @ih _ hlt { job with stage } s₁ hs h rfl
      | unbuilt he =>
        rw [finish_of_finished hr] at h
        cases h
      | built p hm =>
        rw [finish_of_finished hr] at h
        cases h
        rw [Store.contains, hm.generation.install]
        exact hm.contains q

/-! ## Taking in one file -/

variable {ix ix' : Indexer} {job : FileJob} {s s' : σ} {r : Result} {e : Entry}

variable (u fs) in
/-- The last step of an update that nothing has come between. -/
theorem settle_single (hb : ix.building = false) (hg : ix.store.generation = job.generation)
    (he : e.TakenFrom job.path job.generation job.stamp) :
    ∃ ix', ix.settle u fs .single job e = (.finished (.ok (.entry (some e))), ix') ∧
      ix'.store.get? job.path.toText = some e := by
  have hk : ix.keep job e = (some e, { ix with store := ix.store.put e }) := by
    simp [keep, hb, hg]
  refine ⟨{ ix with store := ix.store.put e }, ?_, ?_⟩
  · rw [settle, hk]
  · have hput : ({ e with generation := ix.store.generation } : Entry) = e := by
      rw [hg, ← he.generation]
    rw [Store.get?, Store.put, hput, ← he.path]
    exact Table.find?_insert_self ..

theorem finish_embedded (h : ix.finish u fs (.file .single job) s = (.ok r, ix', s'))
    (H : job.Sound) (hb : ix.building = false) (hg : ix.store.generation = job.generation)
    {result : Except Error Entry} (hs : job.stage = .embedded result) :
    ∃ e, r = .entry (some e) ∧ ix'.store.get? job.path.toText = some e := by
  cases result with
  | error e =>
    have hr : ix.resume u fs (.file .single job) s = (.finished (.error e), ix, s) := by
      simp only [resume, hs]
    rw [finish_of_finished hr] at h
    cases h
  | ok e =>
    obtain ⟨ix₁, hset, hget⟩ := settle_single u fs hb hg (H.takenFrom hs)
    have hr : ix.resume u fs (.file .single job) s =
        (.finished (.ok (.entry (some e))), ix₁, s) := by
      simp only [resume, hs, hset]
    rw [finish_of_finished hr] at h
    cases h
    exact ⟨e, rfl, hget⟩

theorem finish_extracted (h : ix.finish u fs (.file .single job) s = (.ok r, ix', s'))
    (H : job.Sound) (hb : ix.building = false) (hg : ix.store.generation = job.generation)
    (hs : job.stage = .extracted e) :
    ∃ e, r = .entry (some e) ∧ ix'.store.get? job.path.toText = some e := by
  have hr : ix.resume u fs (.file .single job) s = (.waiting (.file .single { job with
      stage := .embedded ((u.embed e s).1.map Prod.fst) }), ix, (u.embed e s).2) := by
    simp only [resume, hs]
  rw [finish_of_waiting hr] at h
  have stored := finish_embedded h (H.embed hs s) hb hg rfl
  exact stored

/-- An update that ends well has stored the entry of the file that was taken in. -/
theorem finish_single (h : ix.finish u fs (.file .single job) s = (.ok r, ix', s'))
    (hb : ix.building = false) (hg : ix.store.generation = job.generation)
    (hs : job.stage = .begun) :
    ∃ e, r = .entry (some e) ∧ ix'.store.get? job.path.toText = some e := by
  have hr : ix.resume u fs (.file .single job) s = (.waiting (.file .single { job with
      stage := .extracted (u.extractFile fs job.path job.generation job.stamp).1 }), ix, s) := by
    simp only [resume, hs]
  rw [finish_of_waiting hr] at h
  have stored := finish_extracted h (FileJob.Sound.extract fs) hb hg rfl
  exact stored

/-- Without a model nothing keeps an update from ending well. -/
theorem finish_single_ok (hu : u.embedder = none) (hs : job.stage = .begun) :
    ∃ kept, (ix.finish u fs (.file .single job) s).1 = .ok (.entry kept) := by
  have hextract : ix.resume u fs (.file .single job) s = (.waiting (.file .single { job with
      stage := .extracted (u.extractFile fs job.path job.generation job.stamp).1 }), ix, s) := by
    simp only [resume, hs]
  rw [finish_of_waiting hextract, finish_of_waiting (by simp only [resume, Setup.embed, hu]; rfl),
    finish_of_finished (by simp only [resume, settle]; rfl)]
  exact ⟨_, rfl⟩

end Indexer
end CodeAtlas
