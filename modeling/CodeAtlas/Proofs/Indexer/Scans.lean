import CodeAtlas.Proofs.Ignore.Floating
import CodeAtlas.Proofs.Indexer.Report
import CodeAtlas.Proofs.Indexer.Touches

/-!
# Scans and builds

A directory that has appeared is scanned: it is searched with a filter of its own, which knows the
built-in patterns and the directory's own ignore file, and what is found there is put to the filter
that is kept for the root. A build walks the root with the root's filter alone. Of a directory that a
build comes to (`Indexer.Visits`), a scan thus stores what `Visits.run_scan` says and a build what
`Visits.run_build` says, and `Indexer.scan_agrees_iff` says when that is the same. A root whose
settings take a built-in pattern back has logs that a build stores and a scan does not
(`Indexer.logged_scan_misses`). Where all patterns of the root float and the directory has no ignore
file, the two agree on what is no link (`Indexer.scan_agrees_of_floats`).
-/

namespace CodeAtlas
namespace Indexer

variable {σ : Type} {u : Setup σ} {fs : FileSystem} {ix ix' : Indexer} {s s' : σ}

/-! ## Files that are scanned -/

/-- The files go by their own paths. -/
def Plain (fs : FileSystem) (ix : Indexer) (files : List Path) : Prop :=
  ∀ f ∈ files, ix.normalize fs f = .ok f ∧ fs.isFile f = true

theorem Alike.plain (h : Alike u fs ix ix') {files : List Path} (hf : ix.Plain fs files) :
    ix'.Plain fs files := by
  intro f hmem
  rw [h.normalize]
  exact hf f hmem

/-- The entries are stored, and none is that of one of the files. -/
def Done (ix : Indexer) (files : List Path) (done : List Entry) : Prop :=
  ∀ e ∈ done, ix.store.get? e.path = some e ∧ ∀ f ∈ files, f.toText ≠ e.path

theorem Done.put {p : Path} {rest : List Path} {done : List Entry} (h : ix.Done (p :: rest) done)
    (hp : p ∉ rest) {e : Entry} {k : Nat} (he : e.TakenFrom p ix.store.generation k) :
    ({ ix with store := ix.store.put e } : Indexer).Done rest (done ++ [e]) := by
  have hput : ({ e with generation := ix.store.generation } : Entry) = e := by rw [← he.generation]
  intro d hd
  rcases List.mem_append.1 hd with hd | hd
  · obtain ⟨hget, hne⟩ := h d hd
    refine ⟨?_, fun f hf => hne f (List.mem_cons_of_mem _ hf)⟩
    have hpath : d.path ≠ e.path := by
      rw [he.path]
      exact (hne p List.mem_cons_self).symm
    rw [Store.get?, Store.put, Table.find?_insert, if_neg hpath]
    exact hget
  · obtain rfl := List.mem_singleton.1 hd
    refine ⟨?_, fun f hf heq => hp ?_⟩
    · rw [Store.get?, Store.put, hput]
      exact Table.find?_insert_self ..
    · rw [he.path] at heq
      exact Path.toText_inj heq ▸ hf

theorem Done.tail {p : Path} {rest : List Path} {done : List Entry} (h : ix.Done (p :: rest) done) :
    ix.Done rest done :=
  fun e he => ⟨(h e he).1, fun f hf => (h e he).2 f (List.mem_cons_of_mem _ hf)⟩

/-- A scan of files that ends well has stored the entries of those that take part in the index. -/
theorem scanNext_entries {rest : List Path} (hb : ix.building = false)
    (hfiles : ix.attachedFiles = []) (hplain : ix.Plain fs rest) (hnodup : rest.Nodup)
    {done es : List Entry} (hdone : ix.Done rest done)
    (h : conclude u fs s (ix.scanNext u fs done rest) = (.ok (.entries es), ix', s')) :
    (∀ e ∈ es, ix'.store.get? e.path = some e) ∧
      ∀ k, (∃ e ∈ es, e.path = k) ↔ (∃ e ∈ done, e.path = k) ∨
        ∃ f ∈ rest, (ix.tracks u fs f).1 = .ok true ∧ f.toText = k := by
  induction rest generalizing ix s done with
  | nil =>
    rw [scanNext, conclude] at h
    cases h
    exact ⟨fun e he => (hdone e he).1, fun k => by simp⟩
  | cons p rest ih =>
    obtain ⟨hname, hfile⟩ := hplain p List.mem_cons_self
    obtain ⟨hp, hnodup⟩ := List.nodup_cons.1 hnodup
    -- The files that follow are looked at by an index that is alike and says the same of them.
    have further : ∀ {ix₁ : Indexer} {s₁ : σ} {done₁ : List Entry}, Alike u fs ix ix₁ →
        ix₁.attachedFiles = [] → ix₁.Done rest done₁ →
        conclude u fs s₁ (ix₁.scanNext u fs done₁ rest) = (.ok (.entries es), ix', s') →
        (∀ e ∈ es, ix'.store.get? e.path = some e) ∧
          ∀ k, (∃ e ∈ es, e.path = k) ↔ (∃ e ∈ done₁, e.path = k) ∨
            ∃ f ∈ rest, (ix.tracks u fs f).1 = .ok true ∧ f.toText = k := by
      intro ix₁ s₁ done₁ halike hfiles₁ hdone₁ h₁
      have hagain := ih (halike.building.trans hb) hfiles₁
        (halike.plain fun f hf => hplain f (List.mem_cons_of_mem _ hf)) hnodup hdone₁ h₁
      simpa only [halike.tracks_eq (p := _) (by simp [hfiles, hfiles₁])] using hagain
    rw [scanNext] at h
    cases hbegin : ix.beginUpdate u fs p with
    | mk r ix₁ =>
      rw [hbegin] at h
      cases beginUpdate_begun hb hbegin with
      | unnamed hn => cases hn.symm.trans hname
      | untold hn ht => cases h
      | untracked hn ht =>
        cases hn.symm.trans hname
        have halike : Alike u fs ix (ix.tracks u fs p).2 := .tracks p ix
        rw [ht] at halike
        obtain ⟨hstored, hpaths⟩ := further halike hfiles hdone.tail h
        refine ⟨hstored, fun k => ?_⟩
        rw [hpaths]
        simp [ht]
      | gone hn ht hf =>
        cases hn.symm.trans hname
        cases hf.symm.trans hfile
      | @taken _ filters hn ht hf =>
        cases hn.symm.trans hname
        have halike : Alike u fs ix (ix.tracks u fs p).2 := .tracks p ix
        rw [ht] at halike
        obtain ⟨e, s₁, htaken, hrest⟩ :=
          finish_file_ok (takeIn p { ix with filters }).2 (.scan rest done) rfl h
        have hidle : (takeIn p { ix with filters }).2.building = false := hb
        have hkeep : (takeIn p { ix with filters }).2.keep (takeIn p { ix with filters }).1 e = _ :=
          keep_idle hidle rfl e
        rw [settle, hkeep] at hrest
        obtain ⟨hstored, hpaths⟩ :=
          further (halike.trans .of_filters) hfiles (hdone.put hp htaken) hrest
        refine ⟨hstored, fun k => ?_⟩
        have hpath : e.path = p.toText := htaken.path
        rw [hpaths]
        simp [ht, hpath, or_and_right, exists_or, or_assoc]

/-- If nothing is wrong with the model, a scan goes on as long as it can be told of the files whether
they take part. -/
theorem scanNext_ok (hu : u.Embeds) {rest : List Path} (hb : ix.building = false)
    (hrest : ∀ f ∈ rest, ∃ tracked,
      (({ ix with attachedFiles := [] } : Indexer).isTracked u fs f).1 = .ok tracked)
    (done : List Entry) (s : σ) :
    ∃ es, (conclude u fs s (ix.scanNext u fs done rest)).1 = .ok (.entries es) := by
  induction rest generalizing ix done s with
  | nil => exact ⟨done, rfl⟩
  | cons p rest ih =>
    obtain ⟨tracked, hp⟩ := hrest p List.mem_cons_self
    obtain ⟨ix₁, done₁, s₁, h, -, hnext⟩ := scanNext_cons hu hb hp rest done s
    rw [hnext]
    refine ih (h.building.trans hb) (fun f hf => ?_) done₁ s₁
    rw [h.bare.isTracked_eq rfl]
    exact hrest f (List.mem_cons_of_mem _ hf)

/-! ## Directories that a build comes to -/

/-- The index has one root and nothing attached to it, and when a build walks the root with the
filter, it comes to the directory. -/
structure Visits (u : Setup σ) (fs : FileSystem) (ix : Indexer) (root d : Path) (f : IgnoreFilter) :
    Prop where
  sole : ∃ r, ix.roots = [r] ∧ fs.resolve r = .ok root
  files : ix.attachedFiles = []
  folders : ix.attachedFolders = []
  walks : ix.Walks u fs root f
  visits : Discovery.Visits fs f root d

namespace Visits

variable {root d p : Path} {f g : IgnoreFilter} (h : ix.Visits u fs root d f)
include h

theorem roots : ix.roots.mapM fs.resolve = .ok [root] := by
  obtain ⟨r, hr, hroot⟩ := h.sole
  rw [hr]
  simp [hroot, bind, Except.bind, pure, Except.pure]

theorem validRoots : ix.validRoots fs = .ok [root] := by
  rw [Indexer.validRoots, h.roots]
  simp [bind, Except.bind, pure, Except.pure, h.walks.directory]

theorem isBase_iff {e : Path} : ix.IsBase fs e ↔ e = root := by
  simp [IsBase, h.validRoots, h.folders]

theorem resolve_root : fs.resolve root = .ok root := by
  obtain ⟨e, he, hres⟩ := h.walks.base
  rwa [h.isBase_iff.1 he] at hres

theorem make : IgnoreFilter.make fs root (options u) = .ok f := by
  rcases h.walks.filter with ⟨-, hmake⟩ | ⟨hb, -⟩
  · exact hmake
  · exact absurd (h.isBase_iff.2 rfl) hb

theorem walks_iff {e : Path} : ix.Walks u fs e g ↔ e = root ∧ g = f := by
  constructor
  · intro hw
    obtain ⟨r, hr, hres⟩ := hw.base
    rw [h.isBase_iff.1 hr] at hres
    obtain rfl : e = root := Except.ok.inj (hres.symm.trans h.resolve_root)
    rcases hw.filter with ⟨-, hmake⟩ | ⟨hb, -⟩
    · exact ⟨rfl, Except.ok.inj (hmake.symm.trans h.make)⟩
    · exact absurd (h.isBase_iff.2 rfl) hb
  · rintro ⟨rfl, rfl⟩
    exact h.walks

theorem located : Discovery.Located fs d :=
  h.visits.located (.of_resolve h.walks.directory h.resolve_root)

theorem containingRoot?_eq (q : Path) :
    ix.containingRoot? fs q = .ok (if (q.relativeTo? root).isSome then some root else none) := by
  rw [Indexer.containingRoot?, h.roots, h.folders]
  by_cases hrel : (q.relativeTo? root).isSome <;>
    simp [bind, Except.bind, pure, Except.pure, hrel, sortPaths]

/-- What lies in the directory lies in the root. -/
theorem containingRoot? (hp : p = d ∨ d.Above p) : ix.containingRoot? fs p = .ok (some root) := by
  have hin : root = p ∨ root.Above p := by
    have hd : d = root ∨ root.Above d := h.visits.imp_right fun hv => hv.1.above
    rcases hd with rfl | hd <;> rcases hp with rfl | hp
    · exact .inl rfl
    · exact .inr hp
    · exact .inr hd
    · exact .inr (hd.trans hp)
  have hrel : (p.relativeTo? root).isSome = true := by
    rw [Path.relativeTo?]
    rcases hin with rfl | ⟨hanchor, hpre, -⟩
    · simp
    · rw [if_pos ⟨hanchor.symm, hpre⟩]
      rfl
  rw [h.containingRoot?_eq, if_pos hrel]

/-- A file below the directory goes by its path. -/
theorem normalize (hp : p = d ∨ d.Above p) (habs : p.isAbsolute = true) (hdots : ".." ∉ p.names) :
    ix.normalize fs p = .ok p := by
  have hnormal : p.absolute fs.workingDirectory = p := by
    rw [Path.absolute, Path.join, if_pos habs]
    exact FileSystem.normalized_eq_self hdots
  rw [Indexer.normalize, hnormal, h.containingRoot? hp]
  rfl

/-- The files that a build takes in are those that the walk of the root finds. -/
theorem mem_buildFiles {files : List Path} (hfiles : ix.buildFiles u fs = .ok files) :
    p ∈ files ↔ Discovery.Reaches fs f root p := by
  rw [Indexer.mem_buildFiles hfiles, h.files]
  simp [h.walks_iff]

/-- There is a filter of the root: the one that is kept, or that of a build. -/
theorem filtered : ix.Filtered u fs := by
  intro q r hr
  rw [h.containingRoot?_eq] at hr
  obtain ⟨-, rfl⟩ : (q.relativeTo? root).isSome ∧ root = r := by simpa using hr
  cases hkept : ix.filters.find? root with
  | some g => exact ⟨g, by rw [filterFor, hkept]⟩
  | none => exact ⟨f, by rw [filterFor_made hkept h.make]⟩

/-- When the directory appears, it is searched on its own. -/
theorem scanned (hp : ix.normalize fs p = .ok d) :
    ix.scanned fs p = (discover fs [d] [] {}).map Discovery.files := by
  rw [Indexer.scanned, hp]
  simp only [bind, Except.bind, h.located.isDirectory, Bool.not_true, Bool.false_eq_true, if_false,
    h.containingRoot? (.inl rfl), Option.isNone_some]
  rfl

theorem run_scan_eq (hb : ix.building = false) (hp : ix.normalize fs p = .ok d) (s : σ) :
    ix.run u fs (.scan p) s = match discover fs [d] [] {} with
      | .error e => (.error e, ix, s)
      | .ok found => conclude u fs s (ix.scanNext u fs [] found.files) := by
  have hfiles := h.scanned hp
  rw [Indexer.scanned] at hfiles
  rw [run_eq_conclude, start, beginScan, if_neg (by simp [hb]), hfiles]
  cases discover fs [d] [] {} <;> rfl

/-- The files that such a search finds go by their own paths. -/
theorem plain {found : Discovery} (hfound : discover fs [d] [] {} = .ok found) :
    ix.Plain fs found.files := by
  obtain ⟨g, -, hmem⟩ := h.located.discover_ok hfound
  intro q hq
  have hreaches := (hmem q).1 hq
  refine ⟨h.normalize (.inr hreaches.above) ?_ (hreaches.not_mem h.located.not_mem),
    hreaches.taken.file⟩
  rw [Path.isAbsolute, ← hreaches.above.1]
  exact h.located.isAbsolute

/-- A scan that ends well has stored the entries of those files that its walk finds and that the
filter of the root keeps. -/
theorem run_scan (hb : ix.building = false) (hp : ix.normalize fs p = .ok d) {es : List Entry}
    (hscan : (ix.run u fs (.scan p) s).1 = .ok (.entries es)) :
    ∃ g, IgnoreFilter.make fs d {} = .ok g ∧
      (∀ e ∈ es, (ix.run u fs (.scan p) s).2.1.store.get? e.path = some e) ∧
      ∀ k, (∃ e ∈ es, e.path = k) ↔
        ∃ q, Discovery.Reaches fs g d q ∧ ix.Keeps u fs q ∧ q.toText = k := by
  rw [h.run_scan_eq hb hp] at hscan ⊢
  cases hfound : discover fs [d] [] {} with
  | error e =>
    rw [hfound] at hscan
    cases hscan
  | ok found =>
    rw [hfound] at hscan
    obtain ⟨g, hmake, hmem⟩ := h.located.discover_ok hfound
    have hnodup : found.files.Nodup := by
      refine (files_strict hfound).imp fun hlt heq => ?_
      subst heq
      exact lt_irrefl _ (Path.lt_iff.1 hlt)
    have hnone : ix.Done found.files [] := nofun
    obtain ⟨hstored, hpaths⟩ := scanNext_entries hb h.files (h.plain hfound) hnodup hnone
      (Prod.ext hscan rfl)
    refine ⟨g, hmake, hstored, fun k => ?_⟩
    rw [hpaths]
    simp [hmem, tracks_iff, h.files]

/-- Without loops, and if nothing is wrong with the model, a scan ends well if the directory's own
filter can be made. -/
theorem exists_run_scan_iff (hb : ix.building = false) (hp : ix.normalize fs p = .ok d)
    (hu : u.Embeds) (hloop : fs.LoopFree) (s : σ) :
    (∃ es, (ix.run u fs (.scan p) s).1 = .ok (.entries es)) ↔
      ∃ g, IgnoreFilter.make fs d {} = .ok g := by
  rw [← h.located.exists_discover_iff hloop, h.run_scan_eq hb hp]
  cases hfound : discover fs [d] [] {} with
  | error e => simp
  | ok found =>
    have hfiles : ix.scanned fs p = .ok found.files := by
      rw [h.scanned hp, hfound]
      rfl
    exact iff_of_true (scanNext_ok hu hb (h.filtered.scannable p _ hfiles) [] s) ⟨found, rfl⟩

/-- A build that reports has stored the files that the walk of the root finds. -/
theorem run_build (hb : ix.building = false) {r : BuildReport}
    (hbuild : (ix.run u fs .build s).1 = .ok (.report (some r))) (q : Path) :
    (ix.run u fs .build s).2.1.store.contains q.toText = true ↔ Discovery.Reaches fs f root q := by
  obtain ⟨files, hfiles, hcontains⟩ := run_build_contains hb hbuild
  rw [hcontains, h.mem_buildFiles hfiles]

/-- Of a file below the directory a scan that ends well has stored an entry exactly if the way to the
file is open and the filters of the directory and of the root allow the file. -/
theorem run_scan_below (hb : ix.building = false) (hp : ix.normalize fs p = .ok d) {es : List Entry}
    (hscan : (ix.run u fs (.scan p) s).1 = .ok (.entries es))
    (hmake : IgnoreFilter.make fs d {} = .ok g) (q : Path) :
    (∃ e ∈ es, e.path = q.toText) ↔
      Discovery.Open fs d q ∧ Discovery.Clears fs g d d q ∧ ix.Keeps u fs q := by
  obtain ⟨g', hmake', -, hpaths⟩ := h.run_scan hb hp hscan
  obtain rfl : g = g' := Except.ok.inj (hmake.symm.trans hmake')
  rw [hpaths]
  constructor
  · rintro ⟨q', hreaches, hkept, hpath⟩
    obtain rfl := Path.toText_inj hpath
    obtain ⟨hopen, hclears⟩ := Discovery.reaches_iff.1 hreaches
    exact ⟨hopen, hclears, hkept⟩
  · rintro ⟨hopen, hclears, hkept⟩
    exact ⟨q, Discovery.reaches_iff.2 ⟨hopen, hclears⟩, hkept, rfl⟩

/-- Of a file below the directory a build that reports has stored an entry exactly if the way to the
file is open and the filter of the root allows the file and the directories on the way. -/
theorem run_build_below (hb : ix.building = false) {r : BuildReport}
    (hbuild : (ix.run u fs .build s).1 = .ok (.report (some r))) {q : Path} (hq : d.Above q) :
    (ix.run u fs .build s).2.1.store.contains q.toText = true ↔
      Discovery.Open fs d q ∧ Discovery.Clears fs f root d q := by
  rw [h.run_build hb hbuild, h.visits.reaches_iff hq]

/-- What the filter of the root says is what is kept, if that is the filter that is kept. -/
theorem keeps_iff (hkept : (ix.filterFor u fs root).1 = .ok f) {q : Path} (hq : d.Above q) :
    ix.Keeps u fs q ↔ f.ignores fs q = .ok false := by
  constructor
  · rintro ⟨root', f', hroot, hf, hsays⟩
    rw [h.containingRoot? (.inr hq)] at hroot
    cases hroot
    cases hkept.symm.trans hf
    exact hsays
  · intro hsays
    exact ⟨root, f, h.containingRoot? (.inr hq), hkept, hsays⟩

/-- Without loops, and if nothing is wrong with the model, a build reports. -/
theorem exists_run_build (hb : ix.building = false) (hu : u.Embeds) (hloop : fs.LoopFree) (s : σ) :
    ∃ r, (ix.run u fs .build s).1 = .ok (.report (some r)) := by
  have hbases : ({ ix with filters := .empty } : Indexer).bases [root] = [root] := by
    simp [bases, h.folders, sortPaths]
  have hfilters : (({ ix with filters := .empty } : Indexer).filtersFor u fs [root]).1 =
      .ok [(root, f)] := by
    rw [filtersFor, filterFor_made rfl h.make]
    rfl
  have hread : Discovery.Readable fs [(root, f)] {} [root] := by
    intro r hr e hres _ hl
    obtain rfl := List.mem_singleton.1 hr
    obtain rfl : e = r := Except.ok.inj (hres.symm.trans h.resolve_root)
    simp at hl
  obtain ⟨found, hfound⟩ :=
    (discover_ok_iff hread).2 fun r _ => Discovery.clear_of_loopFree hloop r
  obtain ⟨all, hall⟩ : ∃ all, (({ ix with filters := .empty } : Indexer).discoverAll u fs
      [root]).1 = .ok all := by
    rw [discoverAll_eq, hbases, hfilters]
    exact ⟨_, Except.bind_eq_ok_iff.2 ⟨_, rfl, Except.map_eq_ok_iff.2 ⟨found, hfound, rfl⟩⟩⟩
  exact run_report hu hb h.validRoots (List.cons_ne_nil _ _) hall s

end Visits

/-! ## Scans and builds -/

section

variable {root d p : Path} {f : IgnoreFilter}

open Discovery (Open Clears)

/-- A scan of a directory that a build comes to and a build agree on a file below the directory
exactly if, the way to the file being open, the directory's own filter and the kept filter of the root
allow the file when the filter of the build does. Without loops, and if nothing is wrong with the
model, a build reports, and a scan ends well as long as the directory's own filter can be made. -/
theorem scan_agrees_iff (hb : ix.building = false) (h : ix.Visits u fs root d f)
    (hp : ix.normalize fs p = .ok d) :
    (∀ (s s' : σ) es r, (ix.run u fs (.scan p) s).1 = .ok (.entries es) →
      (ix.run u fs .build s').1 = .ok (.report (some r)) →
      ∃ g, IgnoreFilter.make fs d {} = .ok g ∧
        (∀ e ∈ es, (ix.run u fs (.scan p) s).2.1.store.get? e.path = some e ∧
          ∃ q : Path, d.Above q ∧ e.path = q.toText) ∧
        ∀ q : Path, d.Above q →
          ((∃ e ∈ es, e.path = q.toText) ↔ Open fs d q ∧ Clears fs g d d q ∧ ix.Keeps u fs q) ∧
          ((ix.run u fs .build s').2.1.store.contains q.toText = true ↔
            Open fs d q ∧ Clears fs f root d q) ∧
          (((∃ e ∈ es, e.path = q.toText) ↔
              (ix.run u fs .build s').2.1.store.contains q.toText = true) ↔
            (Open fs d q → (Clears fs g d d q ∧ ix.Keeps u fs q ↔ Clears fs f root d q)))) ∧
      (u.Embeds → fs.LoopFree → ∀ s : σ,
        (∃ r, (ix.run u fs .build s).1 = .ok (.report (some r))) ∧
          ((∃ es, (ix.run u fs (.scan p) s).1 = .ok (.entries es)) ↔
            ∃ g, IgnoreFilter.make fs d {} = .ok g)) := by
  constructor
  · intro s s' es r hscan hbuild
    obtain ⟨g, hmake, hstored, hpaths⟩ := h.run_scan hb hp hscan
    refine ⟨g, hmake, fun e he => ⟨hstored e he, ?_⟩, fun q hq => ?_⟩
    · obtain ⟨q, hreaches, -, hpath⟩ := (hpaths e.path).1 ⟨e, he, rfl⟩
      exact ⟨q, hreaches.above, hpath.symm⟩
    · have hs := h.run_scan_below hb hp hscan hmake q
      have hbuilt := h.run_build_below hb hbuild hq
      refine ⟨hs, hbuilt, ?_⟩
      rw [hs, hbuilt]
      exact and_congr_right_iff
  · intro hu hloop s
    exact ⟨h.exists_run_build hb hu hloop s, h.exists_run_scan_iff hb hp hu hloop s⟩

/-- If all patterns of the root float, as the built-in ones do, and the directory has no patterns of
its own, then a scan of the directory and a build agree on each file below it that is no link. -/
theorem scan_agrees_of_floats (hb : ix.building = false) (h : ix.Visits u fs root d f)
    (hp : ix.normalize fs p = .ok d) (hkept : (ix.filterFor u fs root).1 = .ok f) (hf : f.Floats)
    (hown : filePatterns fs (d.join (.ofText ignoreFileName)) = [])
    (hline : '\n' ∉ root.textBelow d) {es : List Entry} {r : BuildReport}
    (hscan : (ix.run u fs (.scan p) s).1 = .ok (.entries es))
    (hbuild : (ix.run u fs .build s').1 = .ok (.report (some r))) {q : Path} (hq : d.Above q)
    (hlink : fs.isLink q = false) :
    (∃ e ∈ es, e.path = q.toText) ↔
      (ix.run u fs .build s').2.1.store.contains q.toText = true := by
  obtain ⟨g, hmake, -⟩ := h.run_scan hb hp hscan
  obtain rfl : d = g.root :=
    Except.ok.inj (h.located.resolve.symm.trans (IgnoreFilter.made hmake).1)
  have hroot : root = f.root :=
    Except.ok.inj (h.resolve_root.symm.trans (IgnoreFilter.made h.make).1)
  have hsub : g.patterns ⊆ f.patterns :=
    IgnoreFilter.patterns_subset hmake h.make (IgnoreFilter.patternTexts_builtIn rfl rfl hown) rfl
  have hbelow : g.root = f.root ∨ f.root.Above g.root := by
    rw [← hroot]
    exact h.visits.imp_right fun hv => hv.1.above
  rw [h.run_scan_below hb hp hscan hmake, h.run_build_below hb hbuild hq, h.keeps_iff hkept hq]
  refine and_congr_right fun hopen => ?_
  exact hopen.clears_iff h.located hlink hf hsub hbelow (hroot ▸ hline)

end

/-! ## A pattern that takes a built-in one back -/

/-- A root with a directory of two files. -/
def logged : FileSystem :=
  ⟨.ofList [(["r"], .directory), (["r", "d"], .directory), (["r", "d", "a.py"], .file []),
    (["r", "d", "keep.log"], .file [])], .root, [], []⟩

/-- Settings by which logs are not ignored, no analyzers and no model. -/
def keeping : Setup Unit := ⟨{ extraIgnorePatterns := ["!*.log"] }, fun _ => none, none⟩

/-- An index of the root. -/
def loggedIndex : Indexer := { roots := [.ofText "/r"] }

theorem logged_loopFree : logged.LoopFree := by
  intro at' name target h
  rw [FileSystem.node?, if_neg (by simp), Table.find?_eq_some_iff] at h
  have hpairs : logged.nodes.pairs = [(["r"], .directory), (["r", "d"], .directory),
    (["r", "d", "a.py"], .file []), (["r", "d", "keep.log"], .file [])] := rfl
  simp [hpairs] at h

theorem logged_holds {name : String} (h : name = "a.py" ∨ name = "keep.log") :
    Discovery.Holds logged (.ofText "/r/d") ((Path.ofText "/r/d").child name) := by
  have hlist : logged.list (.ofText "/r/d") = .ok ["a.py", "keep.log"] := by cbv
  exact ⟨_, hlist, List.mem_map_of_mem (by simpa using h)⟩

/-- The filter of the root ignores neither the directory nor the files. -/
theorem logged_filter : ∃ f, IgnoreFilter.make logged (.ofText "/r") (options keeping) = .ok f ∧
    f.ignores logged (.ofText "/r/d") true = .ok false ∧
    f.ignores logged ((Path.ofText "/r/d").child "a.py") = .ok false ∧
    f.ignores logged ((Path.ofText "/r/d").child "keep.log") = .ok false := by
  have hoptions : options keeping = { extraPatterns := ["!*.log"] } := rfl
  have hmake : (IgnoreFilter.make logged (.ofText "/r") { extraPatterns := ["!*.log"] }).map
      (fun f => (((Path.ofText "/r/d").relativeTo? f.root).map (f.ignoresRelative · true),
        (((Path.ofText "/r/d").child "a.py").relativeTo? f.root).map (f.ignoresRelative · false),
        (((Path.ofText "/r/d").child "keep.log").relativeTo? f.root).map
          (f.ignoresRelative · false))) = .ok (some false, some false, some false) := by cbv
  obtain ⟨f, hf, hsays⟩ := Except.map_eq_ok_iff.1 hmake
  simp only [Prod.mk.injEq] at hsays
  obtain ⟨hd, ha, hk⟩ := hsays
  refine ⟨f, hoptions ▸ hf, ?_, ?_, ?_⟩
  · exact IgnoreFilter.ignores_of_relative (by cbv) (.inl rfl) (by cbv) hd
  · exact IgnoreFilter.ignores_of_relative (by cbv) (.inr (by decide +kernel)) (by cbv) ha
  · exact IgnoreFilter.ignores_of_relative (by cbv) (.inr (by decide +kernel)) (by cbv) hk

/-- The directory's own filter ignores one of the files. -/
theorem logged_own : ∃ g, IgnoreFilter.make logged (.ofText "/r/d") {} = .ok g ∧
    g.ignores logged ((Path.ofText "/r/d").child "a.py") = .ok false ∧
    g.ignores logged ((Path.ofText "/r/d").child "keep.log") = .ok true := by
  have hmake : (IgnoreFilter.make logged (.ofText "/r/d") {}).map
      (fun g => ((((Path.ofText "/r/d").child "a.py").relativeTo? g.root).map
          (g.ignoresRelative · false),
        (((Path.ofText "/r/d").child "keep.log").relativeTo? g.root).map
          (g.ignoresRelative · false))) = .ok (some false, some true) := by cbv
  obtain ⟨g, hg, hsays⟩ := Except.map_eq_ok_iff.1 hmake
  simp only [Prod.mk.injEq] at hsays
  refine ⟨g, hg, ?_, ?_⟩
  · exact IgnoreFilter.ignores_of_relative (by cbv) (.inr (by decide +kernel)) (by cbv) hsays.1
  · exact IgnoreFilter.ignores_of_relative (by cbv) (.inr (by decide +kernel)) (by cbv) hsays.2

theorem logged_visits {f : IgnoreFilter}
    (hf : IgnoreFilter.make logged (.ofText "/r") (options keeping) = .ok f)
    (hkept : f.ignores logged (.ofText "/r/d") true = .ok false) :
    loggedIndex.Visits keeping logged (.ofText "/r") (.ofText "/r/d") f := by
  have hroot : logged.resolve (.ofText "/r") = .ok (.ofText "/r") := by cbv
  have hbase : loggedIndex.IsBase logged (.ofText "/r") := by
    have hvalid : loggedIndex.validRoots logged = .ok [.ofText "/r"] := by cbv
    exact .inl ⟨_, hvalid, List.mem_cons_self⟩
  have hholds : Discovery.Holds logged (.ofText "/r") (.ofText "/r/d") := by
    have hlist : logged.list (.ofText "/r") = .ok ["d"] := by cbv
    have hchild : (Path.ofText "/r").child "d" = .ofText "/r/d" := by cbv
    exact ⟨_, hlist, List.mem_map.2 ⟨"d", List.mem_cons_self, hchild⟩⟩
  obtain ⟨-, _, -, -, hlisted⟩ := Discovery.holds_iff.1 hholds
  exact {
    sole := ⟨_, rfl, hroot⟩
    files := rfl
    folders := rfl
    walks := ⟨⟨_, hbase, hroot⟩, by cbv, .inl ⟨hbase, hf⟩⟩
    visits := Discovery.visits_iff.2
      (.inr ⟨_, hholds, ⟨hlisted, by cbv, by cbv, hkept⟩, .inl rfl⟩) }

theorem logged_normalize :
    loggedIndex.normalize logged (.ofText "/r/d") = .ok (.ofText "/r/d") := by cbv

/-- The build takes in the log that is not to be ignored, and the scan does not. -/
theorem logged_scan_misses :
    (∃ f, loggedIndex.Visits keeping logged (.ofText "/r") (.ofText "/r/d") f) ∧
      (∃ es, (loggedIndex.run keeping logged (.scan (.ofText "/r/d")) ()).1 = .ok (.entries es) ∧
        ∀ e ∈ es, e.path ≠ "/r/d/keep.log") ∧
      ∃ r, (loggedIndex.run keeping logged .build ()).1 = .ok (.report (some r)) ∧
        (loggedIndex.run keeping logged .build ()).2.1.store.contains "/r/d/keep.log" = true := by
  obtain ⟨f, hf, hd, -, hkeep⟩ := logged_filter
  obtain ⟨g, hg, -, hignored⟩ := logged_own
  have h := logged_visits hf hd
  have hu : keeping.Embeds := .of_none rfl
  have hholds := logged_holds (.inr rfl)
  have htext : ((Path.ofText "/r/d").child "keep.log").toText = "/r/d/keep.log" := by cbv
  refine ⟨⟨f, h⟩, ?_, ?_⟩
  · obtain ⟨es, hes⟩ :=
      (h.exists_run_scan_iff rfl logged_normalize hu logged_loopFree ()).2 ⟨g, hg⟩
    refine ⟨es, hes, fun e he hpath => ?_⟩
    obtain ⟨g', hg', -, hpaths⟩ := h.run_scan rfl logged_normalize hes
    obtain rfl : g = g' := Except.ok.inj (hg.symm.trans hg')
    obtain ⟨q, hreaches, -, hq⟩ := (hpaths _).1 ⟨e, he, hpath⟩
    obtain rfl := Path.toText_inj (hq.trans htext.symm)
    cases hreaches.taken.kept.symm.trans hignored
  · obtain ⟨r, hr⟩ := h.exists_run_build rfl hu logged_loopFree ()
    refine ⟨r, hr, ?_⟩
    rw [← htext, h.run_build rfl hr, h.visits.reaches_iff (hholds.isOpen (by cbv)).above,
      hholds.clears_iff (by cbv)]
    exact ⟨hholds.isOpen (by cbv), hkeep⟩

/-- Of the other file both store an entry. -/
theorem logged_scan_agrees : ∃ es r,
    (loggedIndex.run keeping logged (.scan (.ofText "/r/d")) ()).1 = .ok (.entries es) ∧
      (loggedIndex.run keeping logged .build ()).1 = .ok (.report (some r)) ∧
      (∃ e ∈ es, e.path = "/r/d/a.py") ∧
      (loggedIndex.run keeping logged .build ()).2.1.store.contains "/r/d/a.py" = true := by
  obtain ⟨f, hf, hd, hkeep, -⟩ := logged_filter
  obtain ⟨g, hg, hown, -⟩ := logged_own
  have h := logged_visits hf hd
  have hholds := logged_holds (.inl rfl)
  have hopen := hholds.isOpen (by cbv)
  have hclears : ∀ {f root}, Discovery.Clears logged f root (.ofText "/r/d") _ ↔ _ :=
    hholds.clears_iff (by cbv)
  have hkeeps : loggedIndex.Keeps keeping logged ((Path.ofText "/r/d").child "a.py") :=
    (h.keeps_iff (congrArg Prod.fst (filterFor_made rfl hf)) hopen.above).2 hkeep
  have htext : ((Path.ofText "/r/d").child "a.py").toText = "/r/d/a.py" := by cbv
  obtain ⟨hagree, hends⟩ := scan_agrees_iff (u := keeping) rfl h logged_normalize
  obtain ⟨⟨r, hr⟩, hscan⟩ := hends (.of_none rfl) logged_loopFree ()
  obtain ⟨es, hes⟩ := hscan.2 ⟨g, hg⟩
  obtain ⟨g', hg', -, hfiles⟩ := hagree () () es r hes hr
  obtain rfl : g = g' := Except.ok.inj (hg.symm.trans hg')
  obtain ⟨hstored, hbuilt, -⟩ := hfiles _ hopen.above
  rw [htext] at hstored hbuilt
  exact ⟨es, r, hes, hr, hstored.2 ⟨hopen, hclears.2 hown, hkeeps⟩,
    hbuilt.2 ⟨hopen, hclears.2 hkeep⟩⟩

end Indexer
end CodeAtlas
