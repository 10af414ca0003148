import CodeAtlas.Proofs.Files.Paths
import CodeAtlas.Proofs.Indexer.Dates
import CodeAtlas.Proofs.Indexer.Report
import CodeAtlas.Proofs.Indexer.Tidy

/-!
# A build forgets

What a build leaves in the store is made of the files and the settings, and of which files and
folders are attached (`Indexer.Rebuilt`): it makes its filters anew, in whatever order things have
been attached they are sorted, and dates have no influence on anything but dates. So two indexes
that differ in their past only hold the same entries after a build of each
(`Activity.build_forgets`).
-/

namespace CodeAtlas

namespace Indexer

variable {σ : Type} {u : Setup σ} {fs : FileSystem} {ix ix' : Indexer}

/-! ## What a build finds -/

variable (u fs) in
theorem filterFor_congr (h : ix'.filters = ix.filters) (root : Path) :
    (ix'.filterFor u fs root).1 = (ix.filterFor u fs root).1 ∧
      (ix'.filterFor u fs root).2.filters = (ix.filterFor u fs root).2.filters := by
  rw [filterFor, filterFor, h]
  split
  · exact ⟨rfl, h⟩
  · split
    · exact ⟨rfl, h⟩
    · exact ⟨rfl, rfl⟩

theorem filtersFor_congr (h : ix'.filters = ix.filters) (roots : List Path) :
    (ix'.filtersFor u fs roots).1 = (ix.filtersFor u fs roots).1 := by
  induction roots generalizing ix ix' with
  | nil => rfl
  | cons root roots ih =>
    obtain ⟨hresult, hfilters⟩ := filterFor_congr u fs h root
    rw [filtersFor, filtersFor]
    generalize ix'.filterFor u fs root = made' at hresult hfilters ⊢
    generalize ix.filterFor u fs root = made at hresult hfilters ⊢
    obtain ⟨f', ix₁'⟩ := made'
    obtain ⟨f, ix₁⟩ := made
    obtain rfl : f' = f := hresult
    cases f' with
    | error e => rfl
    | ok f =>
      dsimp only
      rw [ih hfilters]

/-- Sorting forgets in which order paths were attached. -/
theorem sortPaths_congr {ps qs : List Path} (hp : ps.Nodup) (hq : qs.Nodup)
    (h : ∀ p, p ∈ ps ↔ p ∈ qs) : sortPaths ps = sortPaths qs := by
  refine Path.eq_of_strict (Path.strict_mergeSort hp) (Path.strict_mergeSort hq) fun p => ?_
  rw [mem_sortPaths, mem_sortPaths, h]

/-- The same files and folders are attached. -/
structure SameAttached (ix ix' : Indexer) : Prop where
  files : ∀ f, f ∈ ix'.attachedFiles ↔ f ∈ ix.attachedFiles
  folders : ∀ d, d ∈ ix'.attachedFolders ↔ d ∈ ix.attachedFolders

variable (u fs) in
theorem SameAttached.discoverAll (h : ix.SameAttached ix') (H : ix.Tidy) (H' : ix'.Tidy)
    (roots : List Path) :
    (({ ix' with filters := .empty } : Indexer).discoverAll u fs roots).1 =
      (({ ix with filters := .empty } : Indexer).discoverAll u fs roots).1 := by
  have hfiles : sortPaths ix'.attachedFiles = sortPaths ix.attachedFiles :=
    sortPaths_congr H'.files H.files h.files
  have hbases : ({ ix' with filters := .empty } : Indexer).bases roots =
      ({ ix with filters := .empty } : Indexer).bases roots := by
    rw [bases, bases]
    refine congrArg (roots ++ ·) (sortPaths_congr (H'.folders.filter _) (H.folders.filter _) ?_)
    intro d
    rw [List.mem_filter, List.mem_filter]
    exact and_congr_left fun _ => h.folders d
  have hempty : ({ ix' with filters := .empty } : Indexer).filters =
      ({ ix with filters := .empty } : Indexer).filters := rfl
  rw [discoverAll_eq, discoverAll_eq, hbases, filtersFor_congr hempty]
  dsimp only
  rw [hfiles]

/-! ## What a build leaves behind -/

/-- A build that nothing comes between has reported, and left an index behind. -/
structure Rebuilt (u : Setup σ) (fs : FileSystem) (ix : Indexer) (s : σ) (ix' : Indexer)
    (job : BuildJob) (p : Prepared) : Prop where
  roots : ix.validRoots fs = .ok job.roots
  found : (({ ix with filters := .empty } : Indexer).discoverAll u fs job.roots).1 = .ok job.found
  generation : job.generation = ix.store.nextGeneration
  prepared : (job.prepare u (job.reads u fs job.found.files) s).1 = .ok p
  index : ∃ filters, ix' = { ix with
    filters, building := false, clock := ix.clock + 1
    store := .install p.entries job.generation, lastReport := some (job.report p) }

theorem run_build_rebuilt {s : σ} {r : BuildReport}
    (h : (ix.run u fs .build s).1 = .ok (.report (some r))) :
    ∃ job p, ix.Rebuilt u fs s (ix.run u fs .build s).2.1 job p := by
  rw [run] at h ⊢
  cases hb : ix.building with
  | true =>
    rw [start_busy hb] at h
    cases h
  | false =>
    have hentered := start_entered u fs hb
    cases hstart : ix.start u fs .build with
    | mk standing ix₁ =>
      rw [hstart] at h hentered
      cases hentered with
      | failed filters hr => cases h
      | rootless hr => cases h
      | begun filters roots found hr hd =>
        dsimp only at h ⊢
        have hfinish := finish_reading u fs { ix with filters, building := true, clock := ix.clock + 1 }
          ⟨roots, found, ix.store.nextGeneration, ix.clock, .reading found.files []⟩ found.files [] s
        rw [List.nil_append] at hfinish
        rw [hfinish] at h ⊢
        dsimp only at h ⊢
        obtain ⟨p, hp, -⟩ := Except.map_eq_ok_iff.1 h
        refine ⟨_, p, hr, congrArg Prod.fst hd, rfl, hp, filters, ?_⟩
        rw [hp]
        rfl

/-- What two builds leave in the store differs in dates only. -/
structure SameUndated (s s' : Store) : Prop where
  paths : s'.paths = s.paths
  entries : ∀ q, (s'.get? q).map Entry.undated = (s.get? q).map Entry.undated

/-- Whatever has been prepared with other dates is installed with other dates. -/
theorem sameUndated_install (p : Prepared) (m n : Int) (k : Nat) :
    SameUndated (.install p.entries m) (.install (p.redate n k).entries n) := by
  have hundated : ∀ (n : Int) (e : Entry), ({ e with generation := n } : Entry).undated =
      e.undated := fun n e => rfl
  constructor
  · simp only [Store.paths, Store.install, Prepared.redate, Table.keys, Table.map, List.map_map]
    rfl
  · intro q
    simp only [Store.get?, Store.install, Prepared.redate, Table.find?_map, Option.map_map]
    congr 1
    funext e
    simp only [Function.comp_apply, hundated, Entry.undated_redate]

theorem Rebuilt.sameUndated (hu : u.Steady) (H : ix.Tidy) (H' : ix'.Tidy)
    (hroots : ix'.roots = ix.roots) (hattached : ix.SameAttached ix') {s s' : σ}
    {last last' : Indexer} {job job' : BuildJob} {p p' : Prepared}
    (h : ix.Rebuilt u fs s last job p) (h' : ix'.Rebuilt u fs s' last' job' p') :
    SameUndated last.store last'.store := by
  have hvalid : ix'.validRoots fs = ix.validRoots fs := by rw [validRoots, validRoots, hroots]
  have hjob : job'.roots = job.roots :=
    Except.ok.inj (h'.roots.symm.trans (hvalid.trans h.roots))
  have hfound : job'.found = job.found := by
    have hsame := hattached.discoverAll u fs H H' job.roots
    rw [← hjob, h'.found, hjob, h.found] at hsame
    exact Except.ok.inj hsame
  have hread := job.reads_takenFrom u fs job.found.files
  have hprepared := BuildJob.prepare_redate hread hjob hu s' s
  rw [← BuildJob.reads_redate, ← hfound, h'.prepared, hfound, h.prepared] at hprepared
  obtain rfl : p' = p.redate job'.generation job'.stamp := Except.ok.inj hprepared
  obtain ⟨filters, rfl⟩ := h.index
  obtain ⟨filters', rfl⟩ := h'.index
  exact sameUndated_install p _ _ _

end Indexer

namespace Activity

variable {σ : Type}

/-- Whatever has been called on either of two indexes that have the same roots, and have the same
files and folders attached: builds of both over the same files, with a model that answers with
nothing in view but the texts, store the same paths in the same order, with entries that differ in
generations and moments only. -/
theorem build_forgets (u : Setup σ) (hu : u.Steady) (roots roots' : List Path)
    (before before' : List (Move σ)) (fs : FileSystem) (s s' : σ) {r r' : BuildReport} :
    let ix := ((fresh roots).run u before).index
    let ix' := ((fresh roots').run u before').index
    ix'.roots = ix.roots → ix.SameAttached ix' →
      (ix.run u fs .build s).1 = .ok (.report (some r)) →
      (ix'.run u fs .build s').1 = .ok (.report (some r')) →
      Indexer.SameUndated (ix.run u fs .build s).2.1.store (ix'.run u fs .build s').2.1.store := by
  intro ix ix' hroots hattached h h'
  obtain ⟨job, p, hbuilt⟩ := Indexer.run_build_rebuilt h
  obtain ⟨job', p', hbuilt'⟩ := Indexer.run_build_rebuilt h'
  exact hbuilt.sameUndated hu (tidy_run u roots before).index (tidy_run u roots' before').index
    hroots hattached hbuilt'

theorem outward_reports {ix : Indexer} (hb : ix.building = false)
    (hroots : ix.roots = [.ofText "/r"]) (hfolders : ix.attachedFolders = []) :
    ∃ r, (ix.run Indexer.plain Indexer.outward .build ()).1 = .ok (.report (some r)) := by
  obtain ⟨f, hf, hroot⟩ := Indexer.outward_filter
  have hvalid : ix.validRoots Indexer.outward = .ok [.ofText "/r"] := by
    rw [Indexer.validRoots, hroots]
    exact Indexer.outward_roots
  have hfound := Indexer.outward_discovers { ix with filters := .empty } hf hroot rfl hfolders
  exact Indexer.run_report (.of_none rfl) hb hvalid (List.cons_ne_nil _ _) hfound ()

/-- An index that a file has been attached to, and the same one after a build: a build of each leaves
the same behind, in the next generation after each. -/
theorem build_forgets_build :
    let attach : Move Unit := .call (.attachFile (.ofText "/o/a.py")) Indexer.outward
    let build (ix : Indexer) : Indexer := (ix.run Indexer.plain Indexer.outward .build ()).2.1
    let ix := ((fresh [.ofText "/r"]).run Indexer.plain [attach]).index
    Indexer.SameUndated (build ix).store (build (build ix)).store ∧
      (build (build ix)).store.generation = (build ix).store.generation + 1 := by
  intro attach build ix
  have hix : ix = { Indexer.outwardIndex with attachedFiles := [.ofText "/o/a.py"], clock := 1 } :=
    outward_attached _ rfl
  obtain ⟨r, hr⟩ : ∃ r, (ix.run Indexer.plain Indexer.outward .build ()).1 =
      .ok (.report (some r)) := outward_reports (hix ▸ rfl) (hix ▸ rfl) (hix ▸ rfl)
  obtain ⟨job, p, hbuilt⟩ := Indexer.run_build_rebuilt hr
  obtain ⟨filters, hbuild⟩ := hbuilt.index
  have hidle : (build ix).building = false := congrArg Indexer.building hbuild
  have hroots : (build ix).roots = ix.roots := (congrArg Indexer.roots hbuild :)
  have hfiles : (build ix).attachedFiles = ix.attachedFiles :=
    (congrArg Indexer.attachedFiles hbuild :)
  have hfolders : (build ix).attachedFolders = ix.attachedFolders :=
    (congrArg Indexer.attachedFolders hbuild :)
  obtain ⟨r', hr'⟩ : ∃ r, ((build ix).run Indexer.plain Indexer.outward .build ()).1 =
      .ok (.report (some r)) :=
    outward_reports hidle (hroots.trans (hix ▸ rfl)) (hfolders.trans (hix ▸ rfl))
  -- The whole build is some moves in the past of the second index.
  obtain ⟨ms, hms, -⟩ := run_operation Indexer.plain Indexer.outward .build
    ((fresh [.ofText "/r"]).run Indexer.plain [attach]) ()
  have hlater : ((fresh [.ofText "/r"]).run Indexer.plain ([attach] ++ ms)).index = build ix := by
    rw [run_append]
    exact hms
  have hsame : ix.SameAttached (build ix) :=
    ⟨fun f => by rw [hfiles], fun d => by rw [hfolders]⟩
  have hforgets := build_forgets Indexer.plain nofun [.ofText "/r"] [.ofText "/r"] [attach]
    ([attach] ++ ms) Indexer.outward () () (hlater ▸ hroots) (hlater ▸ hsame) hr (hlater ▸ hr')
  obtain ⟨job', p', hbuilt'⟩ := Indexer.run_build_rebuilt hr'
  obtain ⟨filters', hbuild'⟩ := hbuilt'.index
  refine ⟨?_, ?_⟩
  · rw [hlater] at hforgets
    exact hforgets
  · have hnext : (build (build ix)).store.generation = job'.generation :=
      congrArg (·.store.generation) hbuild'
    rw [hnext, hbuilt'.generation]
    rfl

end Activity
end CodeAtlas
