import CodeAtlas.Proofs.Indexer.Ending
import CodeAtlas.Proofs.Indexer.Prepared
import CodeAtlas.Proofs.Indexer.Tracking

/-!
# What a build reports

The numbers in a report come from the discovery of files, from linking and from the embedder; those
of `Store.stats` are counted in the stored entries. They agree when a build reports
(`Activity.report_agrees`): however files change and whatever else is called while it goes on, every
build that waits has counted what it has prepared (`BuildJob.counted_kept`). The paths that are stored
then are those of the files that were discovered when it was called, and of the attached files.
-/

namespace CodeAtlas

/-- The counts over a store are those of the report. -/
structure BuildReport.Agrees (r : BuildReport) (s : Store) : Prop where
  generation : s.stats.generation = r.generation
  files : s.stats.files = r.files
  symbols : s.stats.symbols = r.symbols
  parseErrors : s.stats.parseErrors = r.parseErrors
  references : s.stats.references = r.references
  embeddings : s.stats.embeddedFiles + s.stats.embeddedSymbols = r.embeddings

/-- The vectors of entries are those of the files and those of the symbols. -/
theorem sum_vectors (es : List Entry) :
    (es.countP fun e => e.embedding.isSome) + (es.flatMap Entry.embeddedSymbols).length =
      (es.map Entry.vectors).sum := by
  induction es with
  | nil => rfl
  | cons e es ih =>
    rw [List.countP_cons, List.flatMap_cons, List.length_append, List.map_cons, List.sum_cons,
      ← ih, Entry.vectors]
    cases e.embedding <;> simp <;> omega

namespace BuildJob

variable {σ : Type} {u : Setup σ} {job : BuildJob}

/-- The counts of what is prepared are those of the store in which it is installed. -/
theorem Makes.agrees {p : Prepared} (h : job.Makes p) (hc : p.Counted) :
    (job.report p).Agrees (.install p.entries job.generation) := by
  have hentries : (Store.install p.entries job.generation).entries = p.entries :=
    h.generation.install
  constructor
  · rfl
  · rw [Store.stats, hentries]
    rfl
  · rw [Store.stats, hentries]
    rfl
  · rw [Store.stats, hentries]
    rfl
  · rw [Store.stats, hentries]
    exact hc.references.symm
  · rw [Store.stats, hentries]
    exact (sum_vectors p.entries.values).trans hc.embeddings.symm

/-- What a build has read has no vectors, and what it has prepared is counted. -/
def Counted (job : BuildJob) : Prop :=
  match job.stage with
  | .reading _ results =>
    ∀ r ∈ results, (∃ path, r.1.TakenFrom path job.generation job.stamp) ∧ r.1.bare = r.1
  | .prepared r => ∀ p, r = .ok p → p.Counted

/-- A property of builds that holds before anything has been read and is kept by their steps. -/
structure Kept (u : Setup σ) (P : BuildJob → Prop) : Prop where
  begun : ∀ (roots : List Path) (found : Discovery) (n : Int) (stamp : Nat),
    P ⟨roots, found, n, stamp, .reading found.files []⟩
  read : ∀ {job path rest results}, P job → job.stage = .reading (path :: rest) results → ∀ fs,
    P { job with
      stage := .reading rest (results ++ [u.extractFile fs path job.generation job.stamp]) }
  prepare : ∀ {job results}, P job → job.stage = .reading [] results → ∀ s,
    P { job with stage := .prepared (job.prepare u results s).1 }

theorem Kept.resume {P : BuildJob → Prop} (K : Kept u P) (H : P job) {fs : FileSystem}
    {ix : Indexer} {s : σ} {t : Task} (h : (ix.resume u fs (.build job) s).1 = .waiting t) :
    ∃ job', t = .build job' ∧ P job' := by
  simp only [Indexer.resume] at h
  split at h
  · next hs =>
    cases h
    exact ⟨_, rfl, K.read H hs fs⟩
  · next hs =>
    cases h
    exact ⟨_, rfl, K.prepare H hs s⟩
  · rw [Indexer.endBuild_result] at h
    cases h

theorem counted_kept (u : Setup σ) : Kept u Counted where
  begun _ _ _ _ := nofun
  read {job path rest results} H hs fs := by
    rw [Counted, hs] at H
    intro r hr
    rcases List.mem_append.1 hr with hr | hr
    · exact H r hr
    · rw [List.mem_singleton.1 hr]
      exact ⟨⟨path, Setup.extractFile_takenFrom fs path _ _⟩, Setup.extractFile_bare fs path _ _⟩
  prepare H hs s := by
    rw [Counted, hs] at H
    intro p hp
    exact prepare_counted (fun r hr => (H r hr).1) (fun r hr => (H r hr).2) hp

/-- A build that ends has prepared what it ends with. -/
theorem resume_finished {fs : FileSystem} {ix : Indexer} {s : σ} {r : Except Error Result}
    (h : (ix.resume u fs (.build job) s).1 = .finished r) : ∃ result,
      job.stage = .prepared result ∧
        ix.endBuild job result = (.finished r, (ix.resume u fs (.build job) s).2.1) := by
  simp only [Indexer.resume] at h ⊢
  split at h
  · cases h
  · cases h
  · next result hs =>
    rw [hs]
    exact ⟨result, rfl, Prod.ext h rfl⟩

end BuildJob

namespace Indexer

variable {σ : Type} {u : Setup σ} {fs : FileSystem}

/-- A build that finds its files goes on to read them. -/
theorem start_build {ix : Indexer} (hb : ix.building = false) {valid : List Path}
    (hr : ix.validRoots fs = .ok valid) (hne : valid ≠ []) {found : Discovery}
    (hd : (({ ix with filters := .empty } : Indexer).discoverAll u fs valid).1 = .ok found) :
    ∃ filters, ix.start u fs .build =
      (.waiting
        (.build ⟨valid, found, ix.store.nextGeneration, ix.clock, .reading found.files []⟩),
        { ix with filters, building := true, clock := ix.clock + 1 }) := by
  obtain ⟨filters, hf⟩ := discoverAll_filters u fs valid { ix with filters := .empty }
  refine ⟨filters, ?_⟩
  rw [start, beginBuild, if_neg (by simp [hb]), hr]
  cases valid with
  | nil => exact absurd rfl hne
  | cons root roots =>
    dsimp only
    split
    · next h =>
      rw [h] at hd
      cases hd
    · next h =>
      rw [h] at hd hf
      cases hd
      subst hf
      rfl

/-- If nothing is wrong with the model, a build that finds its files, nothing else going on,
reports. -/
theorem run_report (hu : u.Embeds) {ix : Indexer} (hb : ix.building = false)
    {valid : List Path} (hr : ix.validRoots fs = .ok valid) (hne : valid ≠ []) {found : Discovery}
    (hd : (({ ix with filters := .empty } : Indexer).discoverAll u fs valid).1 = .ok found)
    (s : σ) : ∃ r, (ix.run u fs .build s).1 = .ok (.report (some r)) := by
  obtain ⟨filters, hstart⟩ := start_build hb hr hne hd
  rw [run, hstart]
  exact finish_report fs hu { ix with filters, building := true, clock := ix.clock + 1 }
    ⟨valid, found, ix.store.nextGeneration, ix.clock, .reading found.files []⟩ found.files s

end Indexer

namespace Activity

variable {σ : Type} {u : Setup σ} {a b : Activity} {fs : FileSystem}

/-- The property holds of every build that waits. -/
def Builds (a : Activity) (P : BuildJob → Prop) : Prop :=
  ∀ n job, a.waiting n = some (.build job) → P job

/-- What waits after a step of the work on a file is the work on a file. -/
theorem resumed_file {ix ix' : Indexer} {purpose : Purpose} {job : FileJob} {standing : Standing}
    (h : ix.Resumed (.file purpose job) standing ix') {t : Task} (ht : standing.task? = some t) :
    ∃ purpose' job', t = .file purpose' job' := by
  have honward : ∀ {ix : Indexer}, ix.Onward standing ix' →
      ∃ purpose' job', t = .file purpose' job' := by
    intro ix ho
    cases ho with
    | finished r ho => cases ht
    | waiting purpose' path ho hb =>
      cases ht
      exact ⟨_, _, rfl⟩
  cases h with
  | working hc hs =>
    cases hc with
    | file purpose job stage =>
      cases ht
      exact ⟨_, _, rfl⟩
  | failed e => cases ht
  | late r hb => cases ht
  | outdated hb hg ho => exact honward ho
  | kept e hb hg he ho => exact honward ho

section

variable {P : BuildJob → Prop} (K : BuildJob.Kept u P)
include K

theorem Builds.call (h : a.Builds P) (op : Operation) (fs : FileSystem) :
    (a.step u (.call op fs)).2.Builds P := by
  intro n job hn
  rw [step_call] at hn
  rcases note_waiting_eq_some hn with ⟨-, hn⟩ | ⟨-, hn⟩
  · cases hb : a.index.building with
    | true =>
      rw [Indexer.start_busy hb] at hn
      cases hn
    | false =>
      by_cases hop : op = .build
      · subst hop
        have he := Indexer.start_entered u fs hb
        generalize (a.index.start u fs .build).1 = standing at he hn
        generalize (a.index.start u fs .build).2 = ix at he
        cases he with
        | failed filters he => cases hn
        | rootless he => cases hn
        | begun filters roots found hr hd =>
          cases hn
          exact K.begun _ _ _ _
      · have ho := Indexer.start_onward u fs hop hb
        generalize (a.index.start u fs op).1 = standing at ho hn
        generalize (a.index.start u fs op).2 = ix at ho
        cases ho with
        | finished r ho => cases hn
        | waiting purpose path ho => cases hn
  · exact h n job hn

theorem Builds.resume (H : a.Sound) (h : a.Builds P) (n : Nat) (fs : FileSystem) (s : σ) :
    (a.step u (.resume n fs s)).2.Builds P := by
  cases hn : a.waiting n with
  | none =>
    rw [step_resume_none u hn]
    exact h
  | some t =>
    rw [step_resume u hn]
    intro m job hm
    rcases note_waiting_eq_some hm with ⟨-, hm⟩ | ⟨-, hm⟩
    · cases t with
      | file purpose job' =>
        have hr : a.index.Resumed _ _ _ := Indexer.resume_resumed u fs (H.task n _ hn) s
        obtain ⟨_, _, hfile⟩ := resumed_file hr hm
        cases hfile
      | build job' =>
        cases hs : (a.index.resume u fs (.build job') s).1 with
        | finished r =>
          rw [hs] at hm
          cases hm
        | waiting t' =>
          rw [hs] at hm
          cases hm
          obtain ⟨job'', hj, hc⟩ := K.resume (h n job' hn) hs
          cases hj
          exact hc
    · exact h m job hm

theorem Builds.run (H : a.Sound) (h : a.Builds P) (ms : List (Move σ)) : (a.run u ms).Builds P := by
  induction ms generalizing a with
  | nil => exact h
  | cons m ms ih =>
    refine ih (H.step m) ?_
    cases m with
    | call op fs => exact h.call K op fs
    | resume n fs s => exact h.resume K H n fs s

theorem builds_run (roots : List Path) (ms : List (Move σ)) : ((fresh roots).run u ms).Builds P :=
  Builds.run K (fresh_sound roots) nofun ms

end

/-- A build that has reported found its files when it was called, and has installed what it had
prepared of them. -/
structure Reported (u : Setup σ) (a : Activity) (fs : FileSystem) (r : BuildReport)
    (b : Activity) (job : BuildJob) (p : Prepared) : Prop where
  roots : a.index.validRoots fs = .ok job.roots
  found : (({ a.index with filters := .empty } : Indexer).discoverAll u fs job.roots).1 =
    .ok job.found
  makes : job.Makes p
  counted : p.Counted
  report : r = job.report p
  store : b.index.store = .install p.entries job.generation

/-- A build that has waited ends with what it has prepared. -/
theorem BuildWaits.last_step {P : BuildJob → Prop} (K : BuildJob.Kept u P) (H : a.Sound)
    (hP : a.Builds P) {r : Except Error Result} {filters : Table Path IgnoreFilter} {job : BuildJob}
    {ms : List (Move σ)} {fs' : FileSystem} {s : σ} (h : a.BuildWaits u fs r b filters job ms fs' s) :
    ∃ result, ∃ ix : Indexer, BuildJob.Sound { job with stage := .prepared result } ∧
      P { job with stage := .prepared result } ∧
      ix.endBuild { job with stage := .prepared result } result = (.finished r, b.index) := by
  have hsound : (a.step u (.call .build fs)).2.Sound := H.step _
  have hlast := h.last
  -- What has ended takes no further step, so the build still waits before its last one.
  have hstill : ((a.step u (.call .build fs)).2.run u ms).waiting a.calls ≠ none := by
    intro hnone
    rw [step_resume_none u hnone] at hlast
    cases hlast
  obtain ⟨-, stage, hstage⟩ := run_busy hsound h.waiting ms hstill
  rw [step_resume u hstage] at hlast
  obtain ⟨hstanding, rfl⟩ := Prod.mk.inj hlast
  obtain ⟨result, rfl, hend⟩ := BuildJob.resume_finished (Option.some.inj hstanding)
  exact ⟨result, _, (hsound.run ms).task _ _ hstage, (hP.call K _ fs).run K hsound ms _ _ hstage,
    hend⟩

theorem BuildEnds.reported (H : a.Sound) (hc : a.Builds BuildJob.Counted) {r : BuildReport}
    (h : BuildEnds u a fs (.ok (.report (some r))) b) : ∃ job p, a.Reported u fs r b job p := by
  rcases h.course with ⟨-, hr, -⟩ | ⟨-, -, he⟩ | ⟨filters, job, ms, fs', s, hwaits⟩
  · cases hr
  · cases he
  · obtain ⟨result, ix, hsound, hcounted, hend⟩ :=
      hwaits.last_step (BuildJob.counted_kept u) H hc
    cases result with
    | error e => cases hend
    | ok p =>
      obtain ⟨hr, hix⟩ := Prod.mk.inj hend
      cases hr
      exact ⟨{ job with stage := .prepared (.ok p) }, p, hwaits.roots,
        congrArg Prod.fst hwaits.found, hsound.1 p rfl, hcounted p rfl, rfl, hix ▸ rfl⟩

/-- Whatever has been called before, however files change while it goes on and whatever else is
called meanwhile: a build that reports leaves behind what it reports. There is one entry for each
file that was discovered when the build was called, one for each attached file that was a regular
file then, and no other one. -/
theorem report_agrees (u : Setup σ) (roots : List Path) (before : List (Move σ)) (fs : FileSystem)
    {r : BuildReport} {b : Activity}
    (h : BuildEnds u ((fresh roots).run u before) fs (.ok (.report (some r))) b) :
    let ix := ((fresh roots).run u before).index
    r.Agrees b.index.store ∧ b.index.store.paths.Nodup ∧
      ∃ valid filters walked, ix.validRoots fs = .ok valid ∧
        (({ ix with filters := .empty } : Indexer).filtersFor u fs (ix.bases valid)).1 =
          .ok filters ∧
        discover fs (ix.bases valid) filters {} = .ok walked ∧
        ∀ q, q ∈ b.index.store.paths ↔ ∃ f : Path, f.toText = q ∧
          (f ∈ walked.files ∨ (f ∈ ix.attachedFiles ∧ fs.isFile f = true)) := by
  intro ix
  obtain ⟨job, p, hreported⟩ := h.reported (sound_run u roots before)
    (builds_run (BuildJob.counted_kept u) roots before)
  obtain ⟨filters, walked, hfilters, hwalked, hfiles⟩ :=
    Indexer.discoverAll_ok hreported.found
  refine ⟨?_, ?_, job.roots, filters, walked, hreported.roots, hfilters, hwalked, ?_⟩
  · rw [hreported.report, hreported.store]
    exact hreported.makes.agrees hreported.counted
  · exact b.index.store.entries.nodup
  · intro q
    rw [hreported.store, Store.paths, hreported.makes.generation.install, Table.mem_keys,
      hreported.makes.contains, List.mem_map]
    constructor
    · rintro ⟨f, hf, rfl⟩
      exact ⟨f, rfl, (hfiles f).1 hf⟩
    · rintro ⟨f, rfl, hf⟩
      exact ⟨f, (hfiles f).2 hf, rfl⟩

/-- If nothing is wrong with the model, a build that finds its files can be brought to report by
moves of its own. -/
theorem exists_report_alone (hu : u.Embeds) (hb : a.index.building = false)
    {valid : List Path} (hr : a.index.validRoots fs = .ok valid) (hne : valid ≠ [])
    {found : Discovery}
    (hd : (({ a.index with filters := .empty } : Indexer).discoverAll u fs valid).1 = .ok found)
    (s : σ) : ∃ r b, BuildEnds u a fs (.ok (.report (some r))) b ∧
      ∀ n, n ≠ a.calls → b.waiting n = a.waiting n := by
  have hw : (a.step u (.call .build fs)).2.waiting a.calls = some (.build
      ⟨valid, found, a.index.store.nextGeneration, a.index.clock, .reading found.files []⟩) := by
    obtain ⟨filters, hstart⟩ := Indexer.start_build hb hr hne hd
    rw [step_call, hstart]
    exact if_pos rfl
  obtain ⟨ms, s', hlast⟩ := step_finish u fs hw s
  obtain ⟨r, hfinish⟩ := Indexer.finish_report fs hu (a.step u (.call .build fs)).2.index
    ⟨valid, found, a.index.store.nextGeneration, a.index.clock, .reading found.files []⟩
    found.files s
  refine ⟨r, _, .later ms fs s' ?_, fun n hn => ?_⟩
  · rw [hlast, ← hfinish]
  · rw [hlast]
    exact (if_neg hn).trans (if_neg hn)

/-- If nothing is wrong with the model, a build that finds its files can be brought to report. -/
theorem exists_report (hu : u.Embeds) (hb : a.index.building = false)
    {valid : List Path} (hr : a.index.validRoots fs = .ok valid) (hne : valid ≠ [])
    {found : Discovery}
    (hd : (({ a.index with filters := .empty } : Indexer).discoverAll u fs valid).1 = .ok found)
    (s : σ) : ∃ r b, BuildEnds u a fs (.ok (.report (some r))) b := by
  obtain ⟨r, b, h, -⟩ := exists_report_alone hu hb hr hne hd s
  exact ⟨r, b, h⟩

/-- A file that lies in no root is accepted while no build is going on. -/
theorem outward_accepts {ix : Indexer} (hb : ix.building = false) :
    ix.start Indexer.plain Indexer.outward (.attachFile (.ofText "/o/a.py")) =
      (.waiting (.file .single ⟨.ofText "/o/a.py", ix.store.generation, ix.clock, .begun⟩),
        { ix with
          attachedFiles := ix.attachedFiles.insert (.ofText "/o/a.py"), clock := ix.clock + 1 }) := by
  have hresolve : Indexer.outward.resolve (.ofText "/o/a.py") = .ok (.ofText "/o/a.py") := by cbv
  have hfile : Indexer.outward.isFile (.ofText "/o/a.py") = true := by cbv
  have hbinary : (Path.ofText "/o/a.py").isBinary = false := by decide +kernel
  rw [Indexer.start, Indexer.beginAttachFile, if_neg (by simp [hb]), hresolve]
  simp [hfile, hbinary, Indexer.takeIn]

/-- A file that lies in no root is attached. -/
theorem outward_attached (a : Activity) (ha : a.index = Indexer.outwardIndex) :
    (a.step Indexer.plain (.call (.attachFile (.ofText "/o/a.py")) Indexer.outward)).2.index =
      { Indexer.outwardIndex with attachedFiles := [.ofText "/o/a.py"], clock := 1 } := by
  rw [step_call, ha, outward_accepts rfl]
  simp [note, Indexer.outwardIndex]

/-- A build reports a file that is attached and lies in no root. -/
theorem report_agrees_attached :
    let attach : Move Unit := .call (.attachFile (.ofText "/o/a.py")) Indexer.outward
    ∃ r b, BuildEnds Indexer.plain ((fresh [.ofText "/r"]).run Indexer.plain [attach])
        Indexer.outward (.ok (.report (some r))) b ∧
      r.Agrees b.index.store ∧ (Path.ofText "/o/a.py").toText ∈ b.index.store.paths := by
  intro attach
  have hix : ((fresh [.ofText "/r"]).run Indexer.plain [attach]).index =
      { Indexer.outwardIndex with attachedFiles := [.ofText "/o/a.py"], clock := 1 } :=
    outward_attached _ rfl
  obtain ⟨f, hf, hroot⟩ := Indexer.outward_filter
  have hbuilding : ((fresh [.ofText "/r"]).run Indexer.plain [attach]).index.building = false := by
    rw [hix]
    rfl
  have hroots : ((fresh [.ofText "/r"]).run Indexer.plain [attach]).index.validRoots
      Indexer.outward = .ok [.ofText "/r"] := by
    rw [hix]
    exact Indexer.outward_roots
  have hfound := Indexer.outward_discovers
    { ((fresh [.ofText "/r"]).run Indexer.plain [attach]).index with filters := .empty } hf hroot
    rfl (by rw [hix]; rfl)
  obtain ⟨r, b, hends⟩ :=
    exists_report (.of_none rfl) hbuilding hroots (List.cons_ne_nil _ _) hfound ()
  obtain ⟨hagrees, -, valid, filters, walked, -, -, -, hpaths⟩ :=
    report_agrees Indexer.plain [.ofText "/r"] [attach] Indexer.outward hends
  refine ⟨r, b, hends, hagrees, (hpaths _).2 ⟨_, rfl, .inr ⟨?_, by cbv⟩⟩⟩
  rw [hix]
  exact List.mem_singleton_self _

end Activity
end CodeAtlas
