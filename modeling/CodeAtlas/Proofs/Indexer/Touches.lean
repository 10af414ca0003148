import CodeAtlas.Proofs.Files.Paths
import CodeAtlas.Proofs.Ignore.Visits
import CodeAtlas.Proofs.Indexer.Prepared
import CodeAtlas.Watch.Dispatch

/-!
# What changes do to one file

On files that stay as they are, a change asks an index to look at a file again, to drop it, or
nothing about it (`Indexer.touch?`), and what it then knows of the file depends on nothing else that
it knows (`Indexer.handle_hold`). So what comes of changes that are handled one after the other can
be told for each file alone (`Indexer.report_hold`).
-/

namespace CodeAtlas

/-- What a change asks about a file. -/
inductive Touch
  | look
  | drop
deriving DecidableEq, Repr

/-- What an index knows of a file: whether there is an entry of it, and whether it is attached. -/
structure Hold where
  stored : Bool
  attached : Bool
deriving DecidableEq, Repr

namespace Hold

/-- What a touch leaves. To look at a file has an effect if the file takes part in the index, which
may depend on its being attached; it is forgotten if it is gone. -/
def touch (admits : Bool → Bool) (file : Bool) (h : Hold) : Touch → Hold
  | .drop => ⟨false, false⟩
  | .look => if admits h.attached then ⟨file, file && h.attached⟩ else h

/-- It is enough to look once. -/
theorem touch_look_look (admits : Bool → Bool) (file : Bool) (h : Hold) :
    (h.touch admits file .look).touch admits file .look = h.touch admits file .look := by
  obtain ⟨stored, attached⟩ := h
  cases h₁ : admits attached <;> cases file <;> simp [touch, h₁]

end Hold

namespace Indexer

variable {σ : Type} {u : Setup σ} {fs : FileSystem} {ix ix' ix'' : Indexer} {k : String}

/-! ## What changes touch -/

/-- The path goes by the text in the index. -/
def goesBy (fs : FileSystem) (k : String) (ix : Indexer) (p : Path) : Bool :=
  (ix.normalize fs p).toOption.any (·.toText = k)

/-- The files that are looked at when a directory appears. -/
def scanned (fs : FileSystem) (path : Path) (ix : Indexer) : Except Error (List Path) := do
  let folder ← ix.normalize fs path
  if !fs.isDirectory folder then return []
  if (← ix.containingRoot? fs folder).isNone then return []
  return (← discover fs [folder] [] {}).files

/-- What a change asks about the file with the text as its path. -/
def touch? (fs : FileSystem) (k : String) (ix : Indexer) (c : Change) : Option Touch :=
  let path := Path.ofText c.path
  if ix.building then none
  else match c.kind with
    | .created | .changed => if ix.goesBy fs k path then some .look else none
    | .deleted => if ix.goesBy fs k path then some .drop else none
    | .directoryCreated =>
      if (ix.scanned fs path).toOption.any (·.any (ix.goesBy fs k)) then some .look else none
    | .directoryDeleted =>
      if (ix.normalize fs path).toOption.any (isBelow · k) then some .drop else none

/-- Whether the file takes part in the index if it is attached, or if it is not. -/
def admits (u : Setup σ) (fs : FileSystem) (q : Path) (ix : Indexer) (attached : Bool) : Bool :=
  if attached then !q.isBinary
  else (({ ix with attachedFiles := [] } : Indexer).tracks u fs q).1.toOption = some true

/-- What the index knows of the file with the text as its path. -/
def hold (k : String) (ix : Indexer) : Hold :=
  ⟨ix.store.contains k, ix.attachedFiles.any (·.toText = k)⟩

/-- What the index knows of the file once it has been touched. -/
def touched (u : Setup σ) (fs : FileSystem) (k : String) (ix : Indexer) (t : Touch) (h : Hold) :
    Hold :=
  h.touch (ix.admits u fs (.ofText k)) (fs.isFile (.ofText k)) t

/-- What comes of changes for the file, as far as they touch it. -/
def fate (u : Setup σ) (fs : FileSystem) (k : String) (ix : Indexer) (cs : List Change) (h : Hold) :
    Hold :=
  (cs.filterMap (ix.touch? fs k)).foldl (fun h t => ix.touched u fs k t h) h

/-- Of each file that is looked at when the directory appears it can be told whether it takes part in
the index. -/
def Scannable (u : Setup σ) (fs : FileSystem) (ix : Indexer) (path : Path) : Prop :=
  ∀ files, ix.scanned fs path = .ok files → ∀ f ∈ files,
    ∃ tracked, (({ ix with attachedFiles := [] } : Indexer).isTracked u fs f).1 = .ok tracked

/-! ## What changes leave alone -/

/-- The indexes differ at most in what they know of files. -/
structure Alike (u : Setup σ) (fs : FileSystem) (ix ix' : Indexer) : Prop where
  roots : ix'.roots = ix.roots
  folders : ix'.attachedFolders = ix.attachedFolders
  building : ix'.building = ix.building
  filter : ∀ root, (ix'.filterFor u fs root).1 = (ix.filterFor u fs root).1

namespace Alike

theorem refl (ix : Indexer) : Alike u fs ix ix := ⟨rfl, rfl, rfl, fun _ => rfl⟩

theorem symm (h : Alike u fs ix ix') : Alike u fs ix' ix :=
  ⟨h.roots.symm, h.folders.symm, h.building.symm, fun root => (h.filter root).symm⟩

theorem trans (h : Alike u fs ix ix') (h' : Alike u fs ix' ix'') : Alike u fs ix ix'' where
  roots := h'.roots.trans h.roots
  folders := h'.folders.trans h.folders
  building := h'.building.trans h.building
  filter root := (h'.filter root).trans (h.filter root)

/-- What is known of files has no influence on the filters. -/
theorem of_filters {ix : Indexer} {store : Store} {files : List Path} {clock : Nat} :
    Alike u fs ix { ix with store, attachedFiles := files, clock } := by
  refine ⟨rfl, rfl, rfl, fun root => ?_⟩
  simp only [filterFor]
  split
  · rfl
  · split <;> rfl

/-- A filter that is made once is kept as it is. -/
theorem filterFor (root : Path) (ix : Indexer) : Alike u fs ix (ix.filterFor u fs root).2 := by
  rw [Indexer.filterFor]
  split
  · exact refl ix
  · next hnone =>
    split
    · exact refl ix
    · next f hmade =>
      refine ⟨rfl, rfl, rfl, fun root' => ?_⟩
      simp only [Indexer.filterFor, Table.find?_insert]
      by_cases heq : root' = root
      · subst heq
        rw [if_pos rfl, hnone]
        dsimp only
        rw [hmade]
      · rw [if_neg heq]
        cases ix.filters.find? root' with
        | some g => rfl
        | none =>
          dsimp only
          split <;> rfl

theorem tracks (p : Path) (ix : Indexer) : Alike u fs ix (ix.tracks u fs p).2 := by
  rw [Indexer.tracks]
  split
  · exact refl ix
  · split
    · exact refl ix
    · exact refl ix
    · next root _ =>
      have h : Alike u fs ix (ix.filterFor u fs root).2 := filterFor root ix
      split <;> next hf => rwa [hf] at h

variable (h : Alike u fs ix ix')
include h

theorem containingRoot? (p : Path) : ix'.containingRoot? fs p = ix.containingRoot? fs p := by
  rw [Indexer.containingRoot?, Indexer.containingRoot?, h.roots, h.folders]

theorem normalize (p : Path) : ix'.normalize fs p = ix.normalize fs p := by
  simp only [Indexer.normalize, h.containingRoot?]

/-- Whether a file takes part depends only on what is known of that file. -/
theorem tracks_eq {p : Path} (hp : p ∈ ix'.attachedFiles ↔ p ∈ ix.attachedFiles) :
    (ix'.tracks u fs p).1 = (ix.tracks u fs p).1 := by
  have hc : ix'.attachedFiles.contains p = ix.attachedFiles.contains p := by
    rw [Bool.eq_iff_iff, List.contains_iff_mem, List.contains_iff_mem, hp]
  rw [Indexer.tracks, Indexer.tracks, hc, h.containingRoot?]
  split
  · rfl
  · split
    · rfl
    · rfl
    · next root _ =>
      have hf := h.filter root
      cases h₁ : ix'.filterFor u fs root with
      | mk r₁ _ =>
        cases h₂ : ix.filterFor u fs root with
        | mk r₂ _ =>
          rw [h₁, h₂] at hf
          obtain rfl : r₁ = r₂ := hf
          cases r₁ <;> rfl

theorem isTracked_eq {p : Path} (hp : ix'.attachedFiles = ix.attachedFiles) :
    (ix'.isTracked u fs p).1 = (ix.isTracked u fs p).1 := by
  rw [Indexer.isTracked, Indexer.isTracked, h.normalize]
  split
  · rfl
  · exact h.tracks_eq (by rw [hp])

/-- The indexes without attached files are alike as well. -/
theorem bare : Alike u fs { ix with attachedFiles := [] } { ix' with attachedFiles := [] } := by
  have hbare : Alike u fs ix { ix with attachedFiles := [] } := of_filters
  exact hbare.symm.trans (h.trans of_filters)

theorem goesBy : ix'.goesBy fs k = ix.goesBy fs k := by
  funext p
  rw [Indexer.goesBy, Indexer.goesBy, h.normalize]

theorem scanned (p : Path) : ix'.scanned fs p = ix.scanned fs p := by
  simp only [Indexer.scanned, h.normalize, h.containingRoot?]

theorem touch? (c : Change) : ix'.touch? fs k c = ix.touch? fs k c := by
  simp only [Indexer.touch?, h.building, h.goesBy, h.scanned, h.normalize]

theorem touched (t : Touch) (held : Hold) :
    ix'.touched u fs k t held = ix.touched u fs k t held := by
  have hadmits : ix'.admits u fs (.ofText k) = ix.admits u fs (.ofText k) := by
    funext attached
    rw [admits, admits, h.bare.tracks_eq Iff.rfl]
  rw [Indexer.touched, Indexer.touched, hadmits]

theorem scannable {p : Path} (hp : ix.Scannable u fs p) : ix'.Scannable u fs p := by
  intro files hfiles f hf
  rw [h.bare.isTracked_eq rfl]
  exact hp files (h.scanned p ▸ hfiles) f hf

end Alike

/-! ## What is known of one file -/

theorem hold_attached {q : Path} :
    (ix.hold q.toText).attached = true ↔ q ∈ ix.attachedFiles := by
  rw [hold, List.any_eq_true]
  constructor
  · rintro ⟨f, hf, heq⟩
    rwa [← Path.toText_inj (of_decide_eq_true heq)]
  · exact fun hq => ⟨q, hq, decide_eq_true rfl⟩

/-- Whether a file takes part in the index depends on whether it is attached. -/
theorem tracks_eq_ok_true {q : Path} :
    (ix.tracks u fs q).1 = .ok true ↔ ix.admits u fs q (ix.hold q.toText).attached = true := by
  by_cases hq : q ∈ ix.attachedFiles
  · rw [hold_attached.2 hq, tracks, if_pos (List.contains_iff_mem.2 hq)]
    simp [admits]
  · have hne : (ix.hold q.toText).attached = false := by
      rw [← Bool.not_eq_true, hold_attached]
      exact hq
    have hbare : Alike u fs ix { ix with attachedFiles := [] } := .of_filters
    rw [hne, ← hbare.tracks_eq (by simp [hq])]
    cases h : (({ ix with attachedFiles := [] } : Indexer).tracks u fs q).1 <;>
      simp [admits, h, Except.toOption]

theorem contains_remove (s : Store) (p k : String) :
    (s.remove p).contains k = (!decide (k = p) && s.contains k) := by
  simp only [Store.contains, Table.contains, Store.remove, Table.find?_erase]
  by_cases hk : k = p <;> simp [hk]

theorem contains_foldl_remove (ps : List String) (s : Store) (k : String) :
    (ps.foldl Store.remove s).contains k = (!decide (k ∈ ps) && s.contains k) := by
  induction ps generalizing s with
  | nil => simp
  | cons p ps ih =>
    rw [List.foldl_cons, ih, contains_remove]
    by_cases hk : k = p <;> simp [hk]

/-- Whether paths are kept depends on their texts only. -/
theorem any_filter_text {files : List Path} {keep : Path → Bool} {kept : Bool}
    (h : ∀ f : Path, f.toText = k → keep f = kept) :
    (files.filter keep).any (·.toText = k) = (kept && files.any (·.toText = k)) := by
  rw [Bool.eq_iff_iff, Bool.and_eq_true, List.any_eq_true, List.any_eq_true]
  constructor
  · rintro ⟨f, hf, heq⟩
    obtain ⟨hmem, hkeep⟩ := List.mem_filter.1 hf
    exact ⟨h f (of_decide_eq_true heq) ▸ hkeep, f, hmem, heq⟩
  · rintro ⟨hkept, f, hf, heq⟩
    exact ⟨f, List.mem_filter.2 ⟨hf, (h f (of_decide_eq_true heq)).trans hkept⟩, heq⟩

theorem hold_forget (q : Path) (k : String) :
    (ix.forget q).2.hold k = if q.toText = k then ⟨false, false⟩ else ix.hold k := by
  have hkeep : ∀ f : Path, f.toText = k → (decide (f ≠ q)) = !decide (q.toText = k) := by
    rintro f rfl
    have htext : f = q ↔ q.toText = f.toText :=
      ⟨fun heq => heq ▸ rfl, fun heq => Path.toText_inj heq.symm⟩
    simp [htext]
  simp only [hold, forget, contains_remove, any_filter_text hkeep]
  by_cases hk : q.toText = k
  · simp [hk]
  · simp [hk, Ne.symm hk]

theorem hold_forgetBelow (d : Path) (k : String) :
    (ix.forgetBelow d).2.hold k = if isBelow d k then ⟨false, false⟩ else ix.hold k := by
  have hkeep : ∀ f : Path, f.toText = k → (!isBelow d f.toText) = !isBelow d k := by
    rintro f rfl
    rfl
  have hstored : (!decide (k ∈ ix.store.paths.filter (isBelow d)) && ix.store.contains k) =
      (!isBelow d k && ix.store.contains k) := by
    by_cases hk : ix.store.contains k = true
    · have hmem : k ∈ ix.store.paths := Table.mem_keys.2 hk
      simp [hk, hmem]
    · simp [hk]
  simp only [hold, forgetBelow, contains_foldl_remove, any_filter_text hkeep, hstored]
  cases isBelow d k <;> simp

theorem hold_put (ix : Indexer) (e : Entry) (k : String) :
    ({ ix with store := ix.store.put e } : Indexer).hold k =
      if e.path = k then ⟨true, (ix.hold k).attached⟩ else ix.hold k := by
  simp only [hold, Store.contains, Table.contains, Store.put, Table.find?_insert]
  by_cases hk : e.path = k
  · simp [hk]
  · simp [hk, Ne.symm hk]

/-! ## What can be told of files that are found -/

/-- Of each root that a path lies in the filter can be made. -/
def Filtered (u : Setup σ) (fs : FileSystem) (ix : Indexer) : Prop :=
  ∀ p root, ix.containingRoot? fs p = .ok (some root) → ∃ f, (ix.filterFor u fs root).1 = .ok f

/-- If it can be told of one path which root it lies in, it can be told of every path. -/
theorem containingRoot?_ok {p : Path} {root : Option Path} (h : ix.containingRoot? fs p = .ok root)
    (q : Path) : ∃ root', ix.containingRoot? fs q = .ok root' := by
  obtain ⟨roots, hroots, -⟩ := Except.bind_eq_ok_iff.1 h
  exact ⟨_, Except.bind_eq_ok_iff.2 ⟨roots, hroots, rfl⟩⟩

theorem Filtered.tracks_ok (h : ix.Filtered u fs) {q r : Path} {root : Option Path}
    (hroot : ix.containingRoot? fs q = .ok root) (habs : q.isAbsolute = true)
    (hr : fs.resolve q = .ok r) : ∃ tracked, (ix.tracks u fs q).1 = .ok tracked := by
  rw [tracks]
  split
  · exact ⟨_, rfl⟩
  · rw [hroot]
    cases root with
    | none => exact ⟨false, rfl⟩
    | some root =>
      obtain ⟨f, hf⟩ := h q root hroot
      obtain ⟨ignored, hi⟩ := (Discovery.ignores_ok_iff habs false).2 (.inr ⟨r, hr⟩)
      dsimp only
      split
      · next hmade =>
        rw [hmade] at hf
        cases hf
      · next hmade =>
        rw [hmade] at hf
        cases hf
        rw [hi]
        exact ⟨!ignored, rfl⟩

/-- If filters can be made, nothing that is found below a directory keeps a scan from going on. -/
theorem Filtered.scannable (h : ix.Filtered u fs) (p : Path) : ix.Scannable u fs p := by
  intro files hfiles f hf
  rw [scanned] at hfiles
  obtain ⟨folder, -, hfiles⟩ := Except.bind_eq_ok_iff.1 hfiles
  split at hfiles
  · cases hfiles
    cases hf
  obtain ⟨root, hroot, hfiles⟩ := Except.bind_eq_ok_iff.1 hfiles
  split at hfiles
  · cases hfiles
    cases hf
  obtain ⟨found, hfound, hfiles⟩ := Except.bind_eq_ok_iff.1 hfiles
  cases hfiles
  obtain ⟨_, -, d, g, hwalks, hreaches⟩ := (mem_discover hfound f).1 hf
  -- What a walk finds is a file by a path that starts at a root and has no two dots.
  have habs : f.isAbsolute = true := by
    rw [Path.isAbsolute, ← hreaches.above.1]
    exact FileSystem.resolve_absolute hwalks.resolved
  have hnormal : f.absolute fs.workingDirectory = f := by
    rw [Path.absolute, Path.join, if_pos habs]
    exact FileSystem.normalized_eq_self
      (hreaches.not_mem (FileSystem.not_mem_resolve hwalks.resolved))
  obtain ⟨n, place, hfollows⟩ := FileSystem.follows_of_isFile hreaches.taken.file
  obtain ⟨q, r, hq, hr⟩ := hfollows.resolve_again
  have hbare : Alike u fs ix { ix with attachedFiles := [] } := .of_filters
  have hfiltered : ({ ix with attachedFiles := [] } : Indexer).Filtered u fs := by
    intro p root hp
    rw [hbare.filter]
    exact h p root (hbare.containingRoot? p ▸ hp)
  obtain ⟨root', hroot'⟩ := containingRoot?_ok hroot f
  rw [← hbare.containingRoot? f] at hroot'
  have hnamed : ({ ix with attachedFiles := [] } : Indexer).normalize fs f = .ok q ∨
      ({ ix with attachedFiles := [] } : Indexer).normalize fs f = .ok f := by
    rw [normalize, hnormal]
    dsimp only [bind, Except.bind]
    rw [hroot']
    dsimp only
    split
    · exact .inl hq
    · exact .inr rfl
  rw [isTracked]
  rcases hnamed with hn | hn
  · obtain ⟨root'', hroot''⟩ := containingRoot?_ok hroot' q
    rw [hn]
    exact hfiltered.tracks_ok hroot'' (FileSystem.resolve_absolute hq) hr
  · rw [hn]
    exact hfiltered.tracks_ok hroot' habs hq

/-! ## Looking at a file -/

/-- What is known of the file with the text as its path once the file of a path has been looked at. -/
def looked (u : Setup σ) (fs : FileSystem) (k : String) (ix : Indexer) (p : Path) : Hold :=
  if ix.goesBy fs k p then ix.touched u fs k .look (ix.hold k) else ix.hold k

theorem goesBy_ok {p q : Path} (hn : ix.normalize fs p = .ok q) :
    ix.goesBy fs k p = decide (q.toText = k) := by
  rw [goesBy, hn]
  rfl

theorem looked_tracked {p q : Path} (hn : ix.normalize fs p = .ok q)
    (ht : (ix.tracks u fs q).1 = .ok true) :
    ix.looked u fs k p = if q.toText = k then ⟨fs.isFile q, fs.isFile q && (ix.hold k).attached⟩
      else ix.hold k := by
  rw [looked, goesBy_ok hn]
  by_cases hk : q.toText = k
  · subst hk
    simp only [touched, Hold.touch, Path.ofText_toText, tracks_eq_ok_true.1 ht, decide_true, if_true]
  · simp [hk]

theorem looked_untracked {p q : Path} (hn : ix.normalize fs p = .ok q)
    (ht : (ix.tracks u fs q).1 ≠ .ok true) : ix.looked u fs k p = ix.hold k := by
  rw [looked, goesBy_ok hn]
  by_cases hk : q.toText = k
  · subst hk
    simp only [touched, Hold.touch, Path.ofText_toText, decide_true, if_true]
    exact if_neg (mt tracks_eq_ok_true.2 ht)
  · simp [hk]

/-- What an update does at first: it is over, or it takes the file in and is over once the entry is
stored. -/
inductive Looked (u : Setup σ) (fs : FileSystem) (ix : Indexer) (p : Path) :
    Except Error (Option FileJob) → Indexer → Prop
  | ended {r : Except Error (Option FileJob)} {ix' : Indexer} (hr : ∀ job, r ≠ .ok (some job))
    (h : Alike u fs ix ix') (hhold : ∀ k, ix'.hold k = ix.looked u fs k p) : Looked u fs ix p r ix'
  | begun {job : FileJob} {ix' : Indexer} (hs : job.stage = .begun)
    (hg : ix'.store.generation = job.generation) (h : Alike u fs ix ix')
    (hhold : ∀ (e : Entry), e.path = job.path.toText → ∀ k,
      ({ ix' with store := ix'.store.put e } : Indexer).hold k = ix.looked u fs k p) :
    Looked u fs ix p (.ok (some job)) ix'

theorem beginUpdate_looked (hb : ix.building = false) {p : Path}
    {r : Except Error (Option FileJob)} (h : ix.beginUpdate u fs p = (r, ix')) :
    Looked u fs ix p r ix' := by
  -- The filters that are made are those that would be made at any time.
  have alike : ∀ {q : Path} {tracked : Except Error Bool} {filters : Table Path IgnoreFilter},
      ix.tracks u fs q = (tracked, { ix with filters }) → Alike u fs ix { ix with filters } := by
    intro q tracked filters ht
    have halike : Alike u fs ix (ix.tracks u fs q).2 := .tracks q ix
    rwa [ht] at halike
  cases beginUpdate_begun hb h with
  | unnamed hn =>
    refine .ended (by simp) (.refl ix) fun k => ?_
    rw [looked, goesBy, hn]
    rfl
  | untold hn ht | untracked hn ht =>
    exact .ended (by simp) (alike ht) fun k => (looked_untracked hn (by simp [ht])).symm
  | gone hn ht hf =>
    refine .ended (by simp) ((alike ht).trans .of_filters) fun k => ?_
    rw [hold_forget, looked_tracked hn (by simp [ht]), hf]
    rfl
  | @taken q filters hn ht hf =>
    refine .begun rfl rfl ((alike ht).trans .of_filters) fun e he k => ?_
    have hput := hold_put (takeIn q { ix with filters }).2 e k
    rw [hput, looked_tracked hn (by simp [ht]), hf, he, Bool.true_and]
    rfl

/-! ## Whole operations -/

/-- Goes on from where an operation stands, nothing else going on. -/
def conclude (u : Setup σ) (fs : FileSystem) (s : σ) :
    Standing × Indexer → Except Error Result × Indexer × σ
  | (.finished r, ix) => (r, ix, s)
  | (.waiting t, ix) => ix.finish u fs t s

theorem run_eq_conclude (op : Operation) (s : σ) :
    ix.run u fs op s = conclude u fs s (ix.start u fs op) := by
  rw [run]
  cases ix.start u fs op with
  | mk standing ix₁ => cases standing <;> rfl

variable (ix) in
/-- A file that is taken in is read and given its vectors; what is left is to store its entry. -/
theorem finish_file_embedded (purpose : Purpose) {job : FileJob} (hs : job.stage = .begun)
    {s s' : σ} {e : Entry} {n : Nat}
    (hembed : u.embed (u.extractFile fs job.path job.generation job.stamp).1 s = (.ok (e, n), s')) :
    e.TakenFrom job.path job.generation job.stamp ∧
      ix.finish u fs (.file purpose job) s = conclude u fs s' (ix.settle u fs purpose job e) := by
  let read : FileJob := { job with
    stage := .extracted (u.extractFile fs job.path job.generation job.stamp).1 }
  have hread : read.Sound := FileJob.Sound.extract fs
  have htaken := (hread.embed rfl s).takenFrom (e := e) (congrArg (fun r =>
    FileStage.embedded (r.1.map Prod.fst)) hembed)
  refine ⟨htaken, ?_⟩
  have hextract : ix.resume u fs (.file purpose job) s = (.waiting (.file purpose read), ix, s) := by
    simp only [resume, hs, read]
  have hvectors : ix.resume u fs (.file purpose read) s =
      (.waiting (.file purpose { read with stage := .embedded (.ok e) }), ix, s') := by
    simp only [resume, read, hembed]
    rfl
  rw [finish_of_waiting hextract, finish_of_waiting hvectors]
  cases hset : ix.settle u fs purpose job e with
  | mk standing ix₁ =>
    have hlast : ∀ s', ix.resume u fs (.file purpose { read with stage := .embedded (.ok e) }) s' =
        (standing, ix₁, s') := by
      intro s'
      have hsettle : ix.settle u fs purpose { read with stage := .embedded (.ok e) } e =
        (standing, ix₁) := hset
      simp only [resume, hsettle]
    cases standing with
    | finished r => exact finish_of_finished (hlast _)
    | waiting t => exact finish_of_waiting (hlast _)

variable (fs ix) in
/-- If nothing is wrong with the model, what is left of a file that is taken in is to store its
entry. -/
theorem finish_file (hu : u.Embeds) (purpose : Purpose) {job : FileJob} (hs : job.stage = .begun)
    (s : σ) : ∃ (e : Entry) (s' : σ), e.path = job.path.toText ∧
      ix.finish u fs (.file purpose job) s = conclude u fs s' (ix.settle u fs purpose job e) := by
  obtain ⟨⟨e, n⟩, hembed⟩ := hu (u.extractFile fs job.path job.generation job.stamp).1 s
  obtain ⟨htaken, hfinish⟩ := finish_file_embedded ix purpose hs (Prod.ext hembed rfl)
  exact ⟨e, _, htaken.path, hfinish⟩

variable (ix) in
/-- If the work on a file ends well, its entry was stored before anything else. -/
theorem finish_file_ok (purpose : Purpose) {job : FileJob} (hs : job.stage = .begun) {s s' : σ}
    {r : Result} (h : ix.finish u fs (.file purpose job) s = (.ok r, ix', s')) :
    ∃ (e : Entry) (s₁ : σ), e.TakenFrom job.path job.generation job.stamp ∧
      conclude u fs s₁ (ix.settle u fs purpose job e) = (.ok r, ix', s') := by
  cases hembed : u.embed (u.extractFile fs job.path job.generation job.stamp).1 s with
  | mk made s₁ =>
    cases made with
    | ok made =>
      obtain ⟨htaken, hfinish⟩ := finish_file_embedded ix purpose hs hembed
      exact ⟨made.1, s₁, htaken, hfinish.symm.trans h⟩
    | error err =>
      -- Without vectors the entry is not stored, and the operation fails.
      have hextract : ix.resume u fs (.file purpose job) s = (.waiting (.file purpose { job with
          stage := .extracted (u.extractFile fs job.path job.generation job.stamp).1 }), ix, s) := by
        simp only [resume, hs]
      rw [finish_of_waiting hextract, finish_of_waiting (by simp only [resume, hembed]; rfl),
        finish_of_finished (by simp only [resume, Except.map]; rfl)] at h
      cases h

theorem keep_idle {job : FileJob} (hb : ix.building = false)
    (hg : ix.store.generation = job.generation) (e : Entry) :
    ix.keep job e = (some e, { ix with store := ix.store.put e }) := by
  simp [keep, hb, hg]

/-- What an operation on its own leaves: another index that is alike. -/
structure Leaves (u : Setup σ) (fs : FileSystem) (ix ix' : Indexer) (held : String → Hold) : Prop where
  alike : Alike u fs ix ix'
  hold : ∀ k, ix'.hold k = held k

theorem run_update_hold (hu : u.Embeds) (hb : ix.building = false) (p : Path) (s : σ) :
    Leaves u fs ix (ix.run u fs (.update p) s).2.1 fun k => ix.looked u fs k p := by
  rw [run_eq_conclude, start]
  cases hbegin : ix.beginUpdate u fs p with
  | mk r ix₁ =>
    cases beginUpdate_looked hb hbegin with
    | ended hr h hhold =>
      rcases r with e | _ | job
      · exact ⟨h, hhold⟩
      · exact ⟨h, hhold⟩
      · exact absurd rfl (hr job)
    | @begun job _ hs hg h hhold =>
      obtain ⟨e, s', he, hfinish⟩ := finish_file fs ix₁ hu .single hs s
      have hkeep := keep_idle (h.building.trans hb) hg e
      change Leaves u fs ix (ix₁.finish u fs (.file .single job) s).2.1 _
      rw [hfinish, settle, hkeep]
      exact ⟨h.trans .of_filters, hhold e he⟩

theorem run_remove_hold (hb : ix.building = false) (p : Path) (s : σ) :
    Leaves u fs ix (ix.run u fs (.remove p) s).2.1 fun k =>
      if ix.goesBy fs k p then ⟨false, false⟩ else ix.hold k := by
  rw [run_eq_conclude, start, if_neg (by simp [hb])]
  cases hn : ix.normalize fs p with
  | error e =>
    refine ⟨.refl ix, fun k => ?_⟩
    rw [goesBy, hn]
    rfl
  | ok q =>
    refine ⟨.of_filters, fun k => ?_⟩
    rw [goesBy_ok hn]
    simp only [decide_eq_true_eq]
    exact hold_forget q k

theorem run_removeDirectory_hold (hb : ix.building = false) (p : Path) (s : σ) :
    Leaves u fs ix (ix.run u fs (.removeDirectory p) s).2.1 fun k =>
      if (ix.normalize fs p).toOption.any (isBelow · k) then ⟨false, false⟩ else ix.hold k := by
  rw [run_eq_conclude, start, if_neg (by simp [hb])]
  cases hn : ix.normalize fs p with
  | error e => exact ⟨.refl ix, fun k => rfl⟩
  | ok d => exact ⟨.of_filters, hold_forgetBelow d⟩

/-! ## Directories that appear -/

/-- Of a file of which it can be told whether it takes part if it is not attached, it can be told
anyway. -/
theorem isTracked_ok {p : Path} {tracked : Bool}
    (h : (({ ix with attachedFiles := [] } : Indexer).isTracked u fs p).1 = .ok tracked) :
    ∃ tracked', (ix.isTracked u fs p).1 = .ok tracked' := by
  have hbare : Alike u fs ix { ix with attachedFiles := [] } := .of_filters
  rw [isTracked, hbare.normalize] at h
  rw [isTracked]
  cases hn : ix.normalize fs p with
  | error e =>
    rw [hn] at h
    cases h
  | ok q =>
    rw [hn] at h
    by_cases hq : q ∈ ix.attachedFiles
    · exact ⟨!q.isBinary, congrArg Prod.fst (if_pos (List.contains_iff_mem.2 hq))⟩
    · exact ⟨tracked, (hbare.tracks_eq (by simp [hq])).symm.trans h⟩

theorem beginUpdate_error (hb : ix.building = false) {p : Path} {e : Error}
    (h : ix.beginUpdate u fs p = (.error e, ix')) : (ix.isTracked u fs p).1 = .error e := by
  rw [isTracked]
  cases beginUpdate_begun hb h with
  | unnamed hn => rw [hn]
  | untold hn ht =>
    rw [hn]
    exact congrArg Prod.fst ht

/-- Files that are looked at one after the other. -/
theorem Leaves.cons {p : Path} {rest : List Path} (h : Alike u fs ix ix')
    (hhold : ∀ k, ix'.hold k = ix.looked u fs k p)
    (hrest : Leaves u fs ix' ix'' fun k =>
      if rest.any (ix'.goesBy fs k) then ix'.touched u fs k .look (ix'.hold k) else ix'.hold k) :
    Leaves u fs ix ix'' fun k =>
      if (p :: rest).any (ix.goesBy fs k) then ix.touched u fs k .look (ix.hold k)
      else ix.hold k := by
  refine ⟨h.trans hrest.alike, fun k => ?_⟩
  rw [hrest.hold, hhold, h.goesBy, h.touched, looked, List.any_cons]
  cases hp : ix.goesBy fs k p with
  | false => simp
  | true =>
    have hagain : ix.touched u fs k .look (ix.touched u fs k .look (ix.hold k)) =
        ix.touched u fs k .look (ix.hold k) := Hold.touch_look_look ..
    simp [hagain]

/-- A scan that can be told of its next file goes on over the files behind it, whatever the look at
the file comes to, with an index that is alike and has looked at the file. -/
theorem scanNext_cons (hu : u.Embeds) (hb : ix.building = false) {p : Path} {tracked : Bool}
    (hp : (({ ix with attachedFiles := [] } : Indexer).isTracked u fs p).1 = .ok tracked)
    (rest : List Path) (done : List Entry) (s : σ) :
    ∃ ix₁ done₁ s₁, Alike u fs ix ix₁ ∧ (∀ k, ix₁.hold k = ix.looked u fs k p) ∧
      conclude u fs s (ix.scanNext u fs done (p :: rest)) =
        conclude u fs s₁ (ix₁.scanNext u fs done₁ rest) := by
  rw [scanNext]
  cases hbegin : ix.beginUpdate u fs p with
  | mk r ix₁ =>
    cases beginUpdate_looked hb hbegin with
    | ended hr h hhold =>
      rcases r with e | _ | job
      · obtain ⟨tracked', ht⟩ := isTracked_ok hp
        rw [beginUpdate_error hb hbegin] at ht
        cases ht
      · exact ⟨ix₁, _, s, h, hhold, rfl⟩
      · exact absurd rfl (hr job)
    | @begun job _ hs hg h hhold =>
      obtain ⟨e, s', he, hfinish⟩ := finish_file fs ix₁ hu (.scan rest done) hs s
      have hkeep := keep_idle (h.building.trans hb) hg e
      refine ⟨_, done ++ [e], s', h.trans .of_filters, hhold e he, ?_⟩
      dsimp only
      rw [conclude, hfinish, settle, hkeep]
      rfl

theorem scanNext_hold (hu : u.Embeds) {rest : List Path} (hb : ix.building = false)
    (hrest : ∀ f ∈ rest, ∃ tracked,
      (({ ix with attachedFiles := [] } : Indexer).isTracked u fs f).1 = .ok tracked)
    (done : List Entry) (s : σ) :
    Leaves u fs ix (conclude u fs s (ix.scanNext u fs done rest)).2.1 fun k =>
      if rest.any (ix.goesBy fs k) then ix.touched u fs k .look (ix.hold k) else ix.hold k := by
  induction rest generalizing ix done s with
  | nil => exact ⟨.refl ix, fun k => rfl⟩
  | cons p rest ih =>
    obtain ⟨tracked, hp⟩ := hrest p List.mem_cons_self
    obtain ⟨ix₁, done₁, s₁, h, hhold, hnext⟩ := scanNext_cons hu hb hp rest done s
    rw [hnext]
    refine .cons h hhold (ih (h.building.trans hb) (fun f hf => ?_) done₁ s₁)
    rw [h.bare.isTracked_eq rfl]
    exact hrest f (List.mem_cons_of_mem _ hf)

theorem run_scan_hold (hu : u.Embeds) (hb : ix.building = false) {p : Path}
    (hp : ix.Scannable u fs p) (s : σ) :
    Leaves u fs ix (ix.run u fs (.scan p) s).2.1 fun k =>
      if (ix.scanned fs p).toOption.any (·.any (ix.goesBy fs k)) then
        ix.touched u fs k .look (ix.hold k)
      else ix.hold k := by
  rw [run_eq_conclude, start, beginScan, if_neg (by simp [hb])]
  cases hfiles : ix.scanned fs p with
  | error e =>
    rw [scanned] at hfiles
    rw [hfiles]
    exact ⟨.refl ix, fun k => rfl⟩
  | ok files =>
    have hp := hp files hfiles
    rw [scanned] at hfiles
    rw [hfiles]
    exact scanNext_hold hu hb hp [] s

/-! ## Changes -/

theorem fate_nil (held : Hold) : ix.fate u fs k [] held = held := rfl

theorem fate_cons (c : Change) (cs : List Change) (held : Hold) :
    ix.fate u fs k (c :: cs) held =
      ix.fate u fs k cs (((ix.touch? fs k c).map (ix.touched u fs k · held)).getD held) := by
  rw [fate, fate, List.filterMap_cons]
  cases ix.touch? fs k c <;> rfl

theorem Alike.fate (h : Alike u fs ix ix') (cs : List Change) (held : Hold) :
    ix'.fate u fs k cs held = ix.fate u fs k cs held := by
  induction cs generalizing held with
  | nil => rfl
  | cons c cs ih => rw [fate_cons, fate_cons, ih, h.touch?, funext fun t => h.touched t held]

theorem touch?_building (hb : ix.building = true) (c : Change) : ix.touch? fs k c = none := by
  simp [touch?, hb]

theorem Leaves.of_if {asked : String → Bool} {t : Touch} {c : Change}
    (ht : ∀ k, ix.touch? fs k c = if asked k then some t else none)
    (h : Leaves u fs ix ix' fun k => if asked k then ix.touched u fs k t (ix.hold k) else ix.hold k) :
    Leaves u fs ix ix' fun k => ix.fate u fs k [c] (ix.hold k) := by
  refine ⟨h.alike, fun k => ?_⟩
  rw [h.hold, fate_cons, fate_nil, ht]
  cases asked k <;> rfl

/-- What an index knows of a file after a change depends on what it knew of it, and on how the change
touches it. -/
theorem handle_hold (hu : u.Embeds) (c : Change)
    (hc : c.kind = .directoryCreated → ix.Scannable u fs (.ofText c.path)) (s : σ) :
    Leaves u fs ix (c.handle u fs (ix, s)).2.1 fun k => ix.fate u fs k [c] (ix.hold k) := by
  change Leaves u fs ix (ix.run u fs c.operation s).2.1 _
  cases hb : ix.building with
  | true =>
    rw [run_eq_conclude, start_busy hb]
    refine ⟨.refl ix, fun k => ?_⟩
    rw [fate_cons, touch?_building hb]
    rfl
  | false =>
    have htouch : ¬ ix.building = true := by simp [hb]
    obtain ⟨kind, path⟩ := c
    cases kind with
    | created | changed =>
      exact .of_if (fun k => if_neg htouch) (run_update_hold hu hb (.ofText path) s)
    | deleted => exact .of_if (fun k => if_neg htouch) (run_remove_hold hb (.ofText path) s)
    | directoryCreated => exact .of_if (fun k => if_neg htouch) (run_scan_hold hu hb (hc rfl) s)
    | directoryDeleted =>
      exact .of_if (fun k => if_neg htouch) (run_removeDirectory_hold hb (.ofText path) s)

/-- What an index knows of a file after changes that are handled one after the other. -/
theorem report_hold (hu : u.Embeds) (cs : List Change)
    (hcs : ∀ c ∈ cs, c.kind = .directoryCreated → ix.Scannable u fs (.ofText c.path)) (s : σ) :
    Leaves u fs ix (Debounce.report (Change.handle u fs) cs (ix, s)).1 fun k =>
      ix.fate u fs k cs (ix.hold k) := by
  induction cs generalizing ix s with
  | nil => exact ⟨.refl ix, fun k => rfl⟩
  | cons c cs ih =>
    have hfirst := handle_hold hu c (hcs c List.mem_cons_self) s
    rw [Debounce.report, List.foldl_cons]
    generalize (c.handle u fs (ix, s)).2 = next at hfirst ⊢
    obtain ⟨ix₁, s₁⟩ := next
    have hrest := ih (fun c' hc' hkind =>
      hfirst.alike.scannable (hcs c' (List.mem_cons_of_mem _ hc') hkind)) s₁
    refine ⟨hfirst.alike.trans hrest.alike, fun k => ?_⟩
    refine (hrest.hold k).trans ?_
    rw [hfirst.alike.fate, hfirst.hold, fate_cons, fate_cons]
    rfl

end Indexer
end CodeAtlas
