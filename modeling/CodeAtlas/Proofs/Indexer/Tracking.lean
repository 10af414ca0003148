import Mathlib
import CodeAtlas.Proofs.Ignore.Walk
import CodeAtlas.Proofs.Indexer.Tasks

/-!
# Which files belong to an index

A build takes in what walks of the roots and of the attached folders reach, and the attached files
(`Indexer.mem_buildFiles`); an update asks the filter of the first root or folder that the file lies
in (`Indexer.tracks_iff`). The two agree on a file exactly if what that filter keeps is reached by
some walk, and what it ignores by none (`Indexer.Agrees`, `Indexer.update_agrees_iff`): a walk does
not enter ignored, linked or unlistable directories, nor take links that lead out of the root, and
where roots lie within each other the filter of any of them may let a file in.
-/

namespace CodeAtlas

namespace Indexer

variable {σ : Type} {u : Setup σ} {fs : FileSystem}

/-! ## Filters -/

/-- What the filters of roots are made from. -/
def options (u : Setup σ) : IgnoreOptions :=
  ⟨u.config.extraIgnorePatterns, u.config.ignoreFileName, true⟩

/-- The filters that are kept are as they would be made now. -/
def Fresh (u : Setup σ) (fs : FileSystem) (ix : Indexer) : Prop :=
  ∀ root f, ix.filters.find? root = some f → IgnoreFilter.make fs root (options u) = .ok f

theorem filterFor_fresh {ix ix' : Indexer} (H : ix.Fresh u fs) {root : Path} {f : IgnoreFilter}
    (h : ix.filterFor u fs root = (.ok f, ix')) :
    IgnoreFilter.make fs root (options u) = .ok f ∧ ix'.Fresh u fs := by
  rw [filterFor] at h
  split at h
  · next g hg =>
    cases h
    exact ⟨H root f hg, H⟩
  · split at h
    · cases h
    · next g hg =>
      cases h
      refine ⟨hg, fun r g hr => ?_⟩
      rw [Table.find?_insert] at hr
      split at hr
      · next heq =>
        cases hr
        exact heq ▸ hg
      · exact H r g hr

/-- A filter that is not kept is made. -/
theorem filterFor_made {ix : Indexer} {root : Path} (hn : ix.filters.find? root = none)
    {f : IgnoreFilter} (h : IgnoreFilter.make fs root (options u) = .ok f) :
    ix.filterFor u fs root = (.ok f, { ix with filters := ix.filters.insert root f }) := by
  rw [options] at h
  simp only [filterFor, hn, h]

/-- Of roots that have filters, each one is looked up with its own. -/
theorem filtersFor_fresh {ix : Indexer} (H : ix.Fresh u fs) {roots : List Path}
    {filters : List (Path × IgnoreFilter)} (h : (ix.filtersFor u fs roots).1 = .ok filters) :
    (∀ d f, filters.lookup d = some f → d ∈ roots ∧ IgnoreFilter.make fs d (options u) = .ok f) ∧
      ∀ d, filters.lookup d = none → d ∉ roots := by
  induction roots generalizing ix filters with
  | nil =>
    cases h
    simp
  | cons root roots ih =>
    rw [filtersFor] at h
    split at h
    · cases h
    · next f ix₁ hf =>
      obtain ⟨hmake, hfresh⟩ := filterFor_fresh H hf
      obtain ⟨rest, hrest, rfl⟩ := Except.map_eq_ok_iff.1 h
      obtain ⟨hsome, hnone⟩ := ih hfresh hrest
      constructor
      · intro d g hd
        rw [List.lookup_cons] at hd
        split at hd
        · next heq =>
          cases hd
          rw [eq_of_beq heq]
          exact ⟨List.mem_cons_self, hmake⟩
        · obtain ⟨hmem, hg⟩ := hsome d g hd
          exact ⟨List.mem_cons_of_mem _ hmem, hg⟩
      · intro d hd hmem
        rw [List.lookup_cons] at hd
        split at hd
        · cases hd
        · next hne =>
          rcases List.mem_cons.1 hmem with rfl | hmem
          · simp at hne
          · exact hnone d hd hmem

/-! ## Builds -/

/-- The files that a build takes in. -/
def buildFiles (u : Setup σ) (fs : FileSystem) (ix : Indexer) : Except Error (List Path) := do
  let roots ← ix.validRoots fs
  (({ ix with filters := .empty } : Indexer).discoverAll u fs roots).1.map Discovery.files

/-- Whether a build starts a walk from the path. -/
def IsBase (fs : FileSystem) (ix : Indexer) (d : Path) : Prop :=
  (∃ roots, ix.validRoots fs = .ok roots ∧ d ∈ roots) ∨ d ∈ ix.attachedFolders

/-- A build walks the directory with the filter. The filter is made from the settings, unless the
directory is only what a link leads to that has taken the place of an attached folder. -/
structure Walks (u : Setup σ) (fs : FileSystem) (ix : Indexer) (d : Path) (f : IgnoreFilter) :
    Prop where
  base : ∃ root, ix.IsBase fs root ∧ fs.resolve root = .ok d
  directory : fs.isDirectory d = true
  filter : ix.IsBase fs d ∧ IgnoreFilter.make fs d (options u) = .ok f ∨
    ¬ ix.IsBase fs d ∧ IgnoreFilter.make fs d {} = .ok f

theorem mem_sortPaths {p : Path} {paths : List Path} : p ∈ sortPaths paths ↔ p ∈ paths := by
  rw [sortPaths, List.mem_mergeSort]

/-- What a build starts its walks from, in their order. -/
def bases (ix : Indexer) (roots : List Path) : List Path :=
  roots ++ sortPaths (ix.attachedFolders.filter fun f => !roots.contains f)

theorem isBase_iff {ix : Indexer} {roots : List Path} (h : ix.validRoots fs = .ok roots)
    (d : Path) : ix.IsBase fs d ↔ d ∈ ix.bases roots := by
  rw [bases, List.mem_append, mem_sortPaths, IsBase, h]
  by_cases hd : d ∈ roots <;> simp [hd]

/-- With the filters that a build makes it walks as `Walks` says. -/
theorem walks_iff {ix : Indexer} {roots : List Path} (hroots : ix.validRoots fs = .ok roots)
    {filters : List (Path × IgnoreFilter)}
    (h : (({ ix with filters := .empty } : Indexer).filtersFor u fs (ix.bases roots)).1 =
      .ok filters) (d : Path) (f : IgnoreFilter) :
    (∃ root ∈ ix.bases roots, Discovery.Walks fs filters {} root d f) ↔ ix.Walks u fs d f := by
  have hempty : ({ ix with filters := .empty } : Indexer).Fresh u fs := by
    intro root f hf
    cases hf
  obtain ⟨hsome, hnone⟩ := filtersFor_fresh hempty h
  constructor
  · rintro ⟨root, hroot, hw⟩
    refine ⟨⟨root, (isBase_iff hroots root).2 hroot, hw.resolved⟩, hw.directory, ?_⟩
    rcases hw.filter with hf | ⟨hf, hmake⟩
    · obtain ⟨hmem, hmake⟩ := hsome d f hf
      exact .inl ⟨(isBase_iff hroots d).2 hmem, hmake⟩
    · exact .inr ⟨fun hb => hnone d hf ((isBase_iff hroots d).1 hb), hmake⟩
  · rintro ⟨⟨root, hroot, hres⟩, hdir, hf⟩
    refine ⟨root, (isBase_iff hroots root).1 hroot, hres, hdir, ?_⟩
    cases hl : filters.lookup d with
    | some g =>
      obtain ⟨hmem, hmake⟩ := hsome d g hl
      rcases hf with ⟨-, hm⟩ | ⟨hb, -⟩
      · exact .inl (congrArg some (Except.ok.inj (hmake.symm.trans hm)))
      · exact absurd ((isBase_iff hroots d).2 hmem) hb
    | none =>
      rcases hf with ⟨hb, -⟩ | ⟨-, hm⟩
      · exact absurd ((isBase_iff hroots d).1 hb) (hnone d hl)
      · exact .inr ⟨rfl, hm⟩

/-- What a build discovers: the files that its walks find, and behind them the attached ones. -/
theorem discoverAll_eq (u : Setup σ) (fs : FileSystem) (roots : List Path) (ix : Indexer) :
    (ix.discoverAll u fs roots).1 =
      (ix.filtersFor u fs (ix.bases roots)).1 >>= fun filters =>
        (discover fs (ix.bases roots) filters {}).map fun d => { d with
          files := d.files ++
            (sortPaths ix.attachedFiles).filter fun f => !d.files.contains f && fs.isFile f } := by
  obtain ⟨table, hix⟩ := filtersFor_filters u fs (ix.bases roots) ix
  rw [bases] at hix ⊢
  rw [discoverAll]
  dsimp only
  split
  · next h =>
    rw [h]
    rfl
  · next h =>
    rw [h] at hix ⊢
    obtain rfl := hix
    rfl

theorem discoverAll_ok {ix : Indexer} {roots : List Path} {found : Discovery}
    (h : (ix.discoverAll u fs roots).1 = .ok found) :
    ∃ filters walked, (ix.filtersFor u fs (ix.bases roots)).1 = .ok filters ∧
      discover fs (ix.bases roots) filters {} = .ok walked ∧
      ∀ p, p ∈ found.files ↔ p ∈ walked.files ∨ (p ∈ ix.attachedFiles ∧ fs.isFile p = true) := by
  rw [discoverAll_eq] at h
  obtain ⟨filters, hfilters, h⟩ := Except.bind_eq_ok_iff.1 h
  obtain ⟨walked, hwalked, rfl⟩ := Except.map_eq_ok_iff.1 h
  refine ⟨filters, walked, hfilters, hwalked, ?_⟩
  intro p
  rw [List.mem_append, List.mem_filter, mem_sortPaths]
  by_cases hp : p ∈ walked.files <;> simp [hp]

/-- The files that a build takes in are those that its walks reach, and the attached ones. -/
theorem mem_buildFiles {ix : Indexer} {files : List Path} (h : ix.buildFiles u fs = .ok files)
    (p : Path) : p ∈ files ↔ (p ∈ ix.attachedFiles ∧ fs.isFile p = true) ∨
      ∃ d f, ix.Walks u fs d f ∧ Discovery.Reaches fs f d p := by
  obtain ⟨roots, hroots, h⟩ := Except.bind_eq_ok_iff.1 h
  obtain ⟨found, hfound, rfl⟩ := Except.map_eq_ok_iff.1 h
  obtain ⟨filters, walked, hfilters, hwalked, hfiles⟩ := discoverAll_ok hfound
  have hwalks := walks_iff hroots hfilters
  have hreached : p ∈ walked.files ↔ ∃ d f, ix.Walks u fs d f ∧ Discovery.Reaches fs f d p := by
    rw [mem_discover hwalked]
    constructor
    · rintro ⟨root, hroot, d, f, hw, hr⟩
      exact ⟨d, f, (hwalks d f).1 ⟨root, hroot, hw⟩, hr⟩
    · rintro ⟨d, f, hw, hr⟩
      obtain ⟨root, hroot, hw⟩ := (hwalks d f).2 hw
      exact ⟨root, hroot, d, f, hw, hr⟩
  rw [hfiles, hreached, or_comm]

/-- A build that ends well, nothing else going on, leaves the files that it takes in in the
store. -/
theorem run_build_contains {ix : Indexer} (hb : ix.building = false) {s : σ} {r : BuildReport}
    (h : (ix.run u fs .build s).1 = .ok (.report (some r))) :
    ∃ files, ix.buildFiles u fs = .ok files ∧
      ∀ q, (ix.run u fs .build s).2.1.store.contains q.toText = true ↔ q ∈ files := by
  have hentered := start_entered u fs hb
  rw [run] at h ⊢
  cases hstart : ix.start u fs .build with
  | mk standing ix₁ =>
    rw [hstart] at h hentered
    cases hentered with
    | failed filters hr => cases h
    | rootless hr => cases h
    | begun filters roots found hr hd =>
      refine ⟨found.files, ?_, fun q => ?_⟩
      · rw [buildFiles, hr]
        exact congrArg (fun d => d.1.map Discovery.files) hd
      · have hjob := BuildJob.Sound.of_found roots found ix.store.nextGeneration ix.clock
        refine (finish_build hjob (Prod.ext h rfl) q.toText).trans ⟨fun hq => ?_, fun hq => ?_⟩
        · obtain ⟨p, hp, heq⟩ := List.mem_map.1 hq
          exact Path.toText_inj heq ▸ hp
        · exact List.mem_map_of_mem hq

/-! ## Updates -/

/-- The filter of the first root, or else of the first attached folder, that a file lies in keeps
the file. -/
def Keeps (u : Setup σ) (fs : FileSystem) (ix : Indexer) (p : Path) : Prop :=
  ∃ root f, ix.containingRoot? fs p = .ok (some root) ∧ (ix.filterFor u fs root).1 = .ok f ∧
    f.ignores fs p = .ok false

theorem tracks_iff {ix : Indexer} {p : Path} : (ix.tracks u fs p).1 = .ok true ↔
    (p ∈ ix.attachedFiles ∧ p.isBinary = false) ∨ (p ∉ ix.attachedFiles ∧ ix.Keeps u fs p) := by
  rw [tracks]
  by_cases hp : p ∈ ix.attachedFiles
  · simp [hp]
  · rw [if_neg (by simpa using hp)]
    simp only [hp, false_and, not_false_eq_true, true_and, false_or, Keeps]
    split
    · next h => simp [h]
    · next h => simp [h]
    · next root h =>
      split
      · next h' => simp [h, h']
      · next f _ h' =>
        simp only [h, h', Except.ok.injEq, Option.some.injEq, exists_and_left, exists_eq_left']
        cases f.ignores fs p with
        | error e => simp [Except.map]
        | ok ignored => cases ignored <;> simp [Except.map]

/-- An update takes in a file exactly if the file takes part in the index. -/
theorem beginUpdate_file_iff {ix : Indexer} (hb : ix.building = false) {p q : Path}
    (hq : ix.normalize fs p = .ok q) (hf : fs.isFile q = true) :
    (∃ job, (ix.beginUpdate u fs p).1 = .ok (some job) ∧ job.path = q) ↔
      (ix.isTracked u fs p).1 = .ok true := by
  rw [beginUpdate, if_neg (by simp [hb]), isTracked, hq]
  dsimp only
  split
  · next h => simp [h]
  · next h => simp [h]
  · next h => simp [h, hf, takeIn]

theorem beginUpdate_path {ix ix' : Indexer} {p q : Path} (hq : ix.normalize fs p = .ok q)
    {job : FileJob} (h : ix.beginUpdate u fs p = (.ok (some job), ix')) : job.path = q := by
  rw [beginUpdate, hq] at h
  dsimp only at h
  split at h
  · cases h
  · split at h
    · cases h
    · cases h
    · split at h
      · cases h
        rfl
      · cases h

/-- An update that ends well, nothing else going on, ends with the entry of the file stored, exactly
if the file takes part in the index. -/
theorem run_update_iff {ix : Indexer} (hb : ix.building = false) {p q : Path}
    (hq : ix.normalize fs p = .ok q) (hf : fs.isFile q = true) {s : σ} {kept : Option Entry}
    (h : (ix.run u fs (.update p) s).1 = .ok (.entry kept)) :
    (∃ e, kept = some e ∧
        (ix.run u fs (.update p) s).2.1.store.get? q.toText = some e) ↔
      (ix.isTracked u fs p).1 = .ok true := by
  rw [← beginUpdate_file_iff hb hq hf]
  rw [run, start] at h ⊢
  cases hu : ix.beginUpdate u fs p with
  | mk taken ix₁ =>
    rw [hu] at h
    rcases taken with e | _ | job
    · cases h
    · cases h
      simp
    · have hpath := beginUpdate_path hq hu
      have hstored : ∃ e, kept = some e ∧ (ix₁.finish u fs (.file .single job) s).2.1.store.get?
          job.path.toText = some e := by
        obtain ⟨-, hn⟩ | ⟨-, ix₂, p', hp, hr, rfl⟩ := beginUpdate_cases hu
        · exact absurd rfl (hn job)
        · cases hr
          obtain ⟨e, he, hget⟩ := finish_single (Prod.ext h rfl) (hp.building.trans hb) rfl rfl
          cases he
          exact ⟨e, rfl, hget⟩
      refine iff_of_true ?_ ⟨job, rfl, hpath⟩
      rw [hpath] at hstored
      exact hstored

/-! ## Agreement -/

/-- What it takes for an update and a build to agree on a file: it is attached and not binary, or it
is not attached, and a walk reaches it exactly if the filter of the first root keeps it. -/
def Agrees (u : Setup σ) (fs : FileSystem) (ix : Indexer) (q : Path) : Prop :=
  (q ∈ ix.attachedFiles → q.isBinary = false) ∧
  (q ∉ ix.attachedFiles →
    (ix.Keeps u fs q ↔ ∃ d f, ix.Walks u fs d f ∧ Discovery.Reaches fs f d q))

theorem isTracked_agrees_iff {ix : Indexer} {files : List Path}
    (hfiles : ix.buildFiles u fs = .ok files) {p q : Path} (hq : ix.normalize fs p = .ok q)
    (hf : fs.isFile q = true) :
    ((ix.isTracked u fs p).1 = .ok true ↔ q ∈ files) ↔ ix.Agrees u fs q := by
  rw [isTracked, hq, mem_buildFiles hfiles, Agrees]
  dsimp only
  rw [tracks_iff]
  by_cases hp : q ∈ ix.attachedFiles
  · simp [hp, hf]
  · simp [hp]

/-- Which files take part in an index and which files a build finds agree on a file exactly if
`Agrees` says so, and so do the entries that an update and a build leave in the store, each running
alone and ending well. -/
theorem update_agrees_iff {ix : Indexer} (hb : ix.building = false) {p q : Path}
    (hq : ix.normalize fs p = .ok q) (hf : fs.isFile q = true) :
    (∀ files, ix.buildFiles u fs = .ok files →
      (((ix.isTracked u fs p).1 = .ok true ↔ q ∈ files) ↔ ix.Agrees u fs q)) ∧
    ∀ (s s' : σ) r kept, (ix.run u fs .build s).1 = .ok (.report (some r)) →
      (ix.run u fs (.update p) s').1 = .ok (.entry kept) →
      (((∃ e, kept = some e ∧
            (ix.run u fs (.update p) s').2.1.store.get? q.toText = some e) ↔
          (ix.run u fs .build s).2.1.store.contains q.toText = true) ↔
        ix.Agrees u fs q) := by
  constructor
  · intro files hfiles
    exact isTracked_agrees_iff hfiles hq hf
  · intro s s' r kept hbuild hupdate
    obtain ⟨files, hfiles, hcontains⟩ := run_build_contains hb hbuild
    rw [run_update_iff hb hq hf hupdate, hcontains]
    exact isTracked_agrees_iff hfiles hq hf

/-! ## A link that leads out of its root -/

/-- A root that holds nothing but a link to a directory outside of it. -/
def outward : FileSystem :=
  ⟨.ofList [(["r"], .directory), (["r", "lib"], .link (.ofText "/o")), (["o"], .directory),
      (["o", "a.py"], .file [])], .root, [], []⟩

/-- An index of the root. -/
def outwardIndex : Indexer := { roots := [.ofText "/r"] }

/-- The settings as they are by default, no analyzers and no model. -/
def plain : Setup Unit := ⟨{}, fun _ => none, none⟩

/-- By default the filter of a root keeps a file if its patterns do not match the file, unless the
suffix of the file is that of a binary format. -/
theorem ignores_unmatched {f : IgnoreFilter} {root p inside : Path}
    (hf : IgnoreFilter.make fs root {} = .ok f) (hjoin : root.join p = p)
    (hbinary : p.isBinary = false) (htarget : fs.resolve p = .ok p)
    (hinside : p.relativeTo? root = some inside) (hnames : inside.names ≠ [])
    (hmake : (IgnoreFilter.make fs root {}).map
      (fun f => (f.root, f.matches? (inside.toText.toList ++ []))) = .ok (root, false)) :
    f.ignores fs p = .ok false := by
  rw [hf] at hmake
  obtain ⟨hroot, hmatch⟩ := Prod.mk.inj (Except.ok.inj hmake)
  have hmatched : f.ignoresRelative inside false = false := by
    rw [IgnoreFilter.ignoresRelative, if_neg hnames]
    exact hmatch
  rw [IgnoreFilter.ignores, hroot, hjoin, if_neg (by simp [hbinary]), htarget]
  simp only [bind, Except.bind, hinside, hmatched]
  rfl

/-- By default a file takes part in the index if the patterns of its root do not match it, unless its
suffix is that of a binary format. -/
theorem plain_tracks {ix : Indexer} {root p inside : Path} (hfiles : ix.attachedFiles = [])
    (hfilters : ix.filters.find? root = none) (hroot : ix.containingRoot? fs p = .ok (some root))
    (hjoin : root.join p = p) (hbinary : p.isBinary = false) (htarget : fs.resolve p = .ok p)
    (hinside : p.relativeTo? root = some inside) (hnames : inside.names ≠ [])
    (hmake : (IgnoreFilter.make fs root {}).map
      (fun f => (f.root, f.matches? (inside.toText.toList ++ []))) = .ok (root, false)) :
    (ix.tracks plain fs p).1 = .ok true := by
  obtain ⟨f, hf, -⟩ := Except.map_eq_ok_iff.1 hmake
  have hkept := ignores_unmatched hf hjoin hbinary htarget hinside hnames hmake
  have hoptions : options plain = {} := rfl
  have hfilter := filterFor_made (u := plain) hfilters (hoptions ▸ hf)
  exact tracks_iff.2 (.inr ⟨by simp [hfiles], root, f, hroot, congrArg Prod.fst hfilter, hkept⟩)

theorem outward_filter : ∃ f, IgnoreFilter.make outward (.ofText "/r") (options plain) = .ok f ∧
    f.root = .ofText "/r" := by
  have h : (IgnoreFilter.make outward (.ofText "/r") {}).map IgnoreFilter.root =
      .ok (.ofText "/r") := by cbv
  exact Except.map_eq_ok_iff.1 h

theorem outward_ignores {f : IgnoreFilter} (h : f.root = .ofText "/r") :
    f.ignores outward (.ofText "/r/lib/a.py") = .ok false := by
  have hbinary : (Path.ofText "/r/lib/a.py").isBinary = false := by decide +kernel
  have hjoin : (Path.ofText "/r").join (.ofText "/r/lib/a.py") = .ofText "/r/lib/a.py" := by cbv
  have htarget : outward.resolve (.ofText "/r/lib/a.py") = .ok (.ofText "/o/a.py") := by cbv
  have houtside : (Path.ofText "/o/a.py").relativeTo? (.ofText "/r") = none := by cbv
  rw [IgnoreFilter.ignores, h, hjoin, if_neg (by simp [hbinary]), htarget]
  simp only [bind, Except.bind, houtside]
  rfl

theorem outward_sort {f : IgnoreFilter} (h : f.root = .ofText "/r") :
    Discovery.sort outward f (.ofText "/r") (.ofText "/r/lib") = .ok ⟨[], []⟩ := by
  have hdir : outward.isDirectory (.ofText "/r/lib") = true := by cbv
  have hlink : outward.isLink (.ofText "/r/lib") = true := by cbv
  have hjoin : (Path.ofText "/r").join (.ofText "/r/lib") = .ofText "/r/lib" := by cbv
  have htarget : outward.resolve (.ofText "/r/lib") = .ok (.ofText "/o") := by cbv
  have houtside : (Path.ofText "/o").relativeTo? (.ofText "/r") = none := by cbv
  have hkept : f.ignores outward (.ofText "/r/lib") true = .ok false := by
    rw [IgnoreFilter.ignores, h, hjoin, if_neg (by simp), htarget]
    simp only [bind, Except.bind, houtside]
    rfl
  rw [Discovery.sort, if_pos hdir, hkept, hlink]
  rfl

theorem outward_walkRoot {f : IgnoreFilter} (h : f.root = .ofText "/r")
    {filters : List (Path × IgnoreFilter)} (hf : filters.lookup (.ofText "/r") = some f) :
    Discovery.walkRoot outward filters {} (.ofText "/r") = .ok ⟨[], .empty⟩ := by
  have hdepth : Discovery.depth outward = 3 := by cbv
  have hlist : outward.list (.ofText "/r") = .ok ["lib"] := by cbv
  have hchild : (Path.ofText "/r").child "lib" = .ofText "/r/lib" := by cbv
  have hroot : outward.resolve (.ofText "/r") = .ok (.ofText "/r") := by cbv
  have hdir : outward.isDirectory (.ofText "/r") = true := by cbv
  have hwalk : Discovery.walk outward f (.ofText "/r") 3 (.ofText "/r") = .ok ⟨[], .empty⟩ := by
    simp [Discovery.walk, hlist, Discovery.sortAll, hchild, outward_sort h, bind, Except.bind,
      pure, Except.pure]
  simp [Discovery.walkRoot, hroot, Discovery.isDirectory_exists hdir, hdir, hf, hdepth, hwalk, bind,
    Except.bind, pure, Except.pure]

theorem outward_discover {f : IgnoreFilter} (h : f.root = .ofText "/r") :
    discover outward [.ofText "/r"] [(.ofText "/r", f)] {} = .ok ⟨[], .empty⟩ := by
  have hwalk : Discovery.walkRoot outward [(.ofText "/r", f)] {} (.ofText "/r") = _ :=
    outward_walkRoot h List.lookup_cons_self
  simp [discover, hwalk, bind, Except.bind, pure, Except.pure, Discovery.append,
    Discovery.empty, Table.empty]

/-- Walks find nothing below the root, so a build takes in the attached files and no others. -/
theorem outward_discovers (ix : Indexer) {f : IgnoreFilter}
    (hf : IgnoreFilter.make outward (.ofText "/r") (options plain) = .ok f)
    (h : f.root = .ofText "/r") (hempty : ix.filters = .empty)
    (hfolders : ix.attachedFolders = []) :
    (ix.discoverAll plain outward [.ofText "/r"]).1 =
      .ok ⟨(sortPaths ix.attachedFiles).filter fun p => outward.isFile p, .empty⟩ := by
  have hnone : ix.filters.find? (.ofText "/r") = none := by
    rw [hempty]
    rfl
  have hfilter : ix.filterFor plain outward (.ofText "/r") = _ := filterFor_made hnone hf
  have hbases : [Path.ofText "/r"] ++ sortPaths (ix.attachedFolders.filter fun f =>
      !([Path.ofText "/r"] : List Path).contains f) = [.ofText "/r"] := by
    simp [hfolders, sortPaths]
  rw [discoverAll]
  dsimp only
  rw [hbases, filtersFor, hfilter]
  simp [filtersFor, Except.map, outward_discover h]

theorem outward_discoverAll {f : IgnoreFilter}
    (hf : IgnoreFilter.make outward (.ofText "/r") (options plain) = .ok f)
    (h : f.root = .ofText "/r") :
    (({ outwardIndex with filters := .empty } : Indexer).discoverAll plain outward
      [.ofText "/r"]).1 = .ok ⟨[], .empty⟩ := by
  rw [outward_discovers _ hf h rfl rfl]
  simp [outwardIndex, sortPaths]

theorem outward_roots : outwardIndex.validRoots outward = .ok [.ofText "/r"] := by cbv

theorem outward_build : outwardIndex.buildFiles plain outward = .ok [] := by
  obtain ⟨f, hf, hroot⟩ := outward_filter
  rw [buildFiles, outward_roots]
  exact congrArg (Except.map Discovery.files) (outward_discoverAll hf hroot)

theorem outward_file : outward.isFile (.ofText "/r/lib/a.py") = true := by cbv

theorem outward_normalize :
    outwardIndex.normalize outward (.ofText "/r/lib/a.py") = .ok (.ofText "/r/lib/a.py") := by cbv

theorem outward_tracked :
    (outwardIndex.isTracked plain outward (.ofText "/r/lib/a.py")).1 = .ok true := by
  obtain ⟨f, hf, hroot⟩ := outward_filter
  have hfilter : outwardIndex.filterFor plain outward (.ofText "/r") = _ := filterFor_made rfl hf
  rw [isTracked, outward_normalize]
  refine tracks_iff.2 (.inr ⟨by simp [outwardIndex], .ofText "/r", f, by cbv, ?_, ?_⟩)
  · exact congrArg Prod.fst hfilter
  · exact outward_ignores hroot

/-- An update takes in a file behind a link that leads out of the root, and a build does not. -/
theorem outward_disagrees :
    (∃ job, (outwardIndex.beginUpdate plain outward (.ofText "/r/lib/a.py")).1 = .ok (some job) ∧
        job.path = .ofText "/r/lib/a.py") ∧
      outward.isFile (.ofText "/r/lib/a.py") = true ∧
      outwardIndex.buildFiles plain outward = .ok [] :=
  ⟨(beginUpdate_file_iff rfl outward_normalize outward_file).2 outward_tracked, outward_file,
    outward_build⟩

theorem outward_run_build :
    ∃ r, (outwardIndex.run plain outward .build ()).1 = .ok (.report (some r)) := by
  obtain ⟨f, hf, hroot⟩ := outward_filter
  have hfound := outward_discoverAll hf hroot
  rw [run, start, beginBuild, if_neg (by simp [outwardIndex]), outward_roots]
  dsimp only
  cases hd : ({ outwardIndex with filters := .empty } : Indexer).discoverAll plain outward
      [.ofText "/r"] with
  | mk found ix =>
    rw [hd] at hfound
    obtain rfl : found = .ok ⟨[], .empty⟩ := hfound
    dsimp only
    rw [finish_of_waiting rfl, finish_of_finished rfl]
    exact ⟨_, rfl⟩

theorem outward_run_update : ∃ kept,
    (outwardIndex.run plain outward (.update (.ofText "/r/lib/a.py")) ()).1 = .ok (.entry kept) := by
  obtain ⟨job, hjob, -⟩ := (beginUpdate_file_iff rfl outward_normalize outward_file).2
    outward_tracked
  rw [run, start]
  cases hu : outwardIndex.beginUpdate plain outward (.ofText "/r/lib/a.py") with
  | mk taken ix =>
    rw [hu] at hjob
    obtain rfl : taken = .ok (some job) := hjob
    exact finish_single_ok rfl (beginUpdate_stage hu)

/-- The filter of the root keeps the file, but no walk reaches it: run alone, an update leaves its
entry in the store and a build does not. -/
theorem outward_unreached :
    ¬ outwardIndex.Agrees plain outward (.ofText "/r/lib/a.py") ∧
      (∃ e, (outwardIndex.run plain outward (.update (.ofText "/r/lib/a.py")) ()).1 =
        .ok (.entry (some e))) ∧
      (outwardIndex.run plain outward .build ()).2.1.store.contains
        (Path.ofText "/r/lib/a.py").toText ≠ true := by
  obtain ⟨r, hbuild⟩ := outward_run_build
  obtain ⟨kept, hupdate⟩ := outward_run_update
  obtain ⟨hfound, hstored⟩ := update_agrees_iff (u := plain) rfl outward_normalize outward_file
  have hnot : ¬ outwardIndex.Agrees plain outward (.ofText "/r/lib/a.py") := by
    intro h
    exact List.not_mem_nil ((((hfound [] outward_build).2 h).1 outward_tracked))
  obtain ⟨e, rfl, hget⟩ :=
    (run_update_iff rfl outward_normalize outward_file hupdate).2 outward_tracked
  refine ⟨hnot, ⟨e, hupdate⟩, fun hcontains => hnot ?_⟩
  refine (hstored () () r (some e) hbuild hupdate).1 ?_
  exact iff_of_true ⟨e, rfl, hget⟩ hcontains

end Indexer
end CodeAtlas
