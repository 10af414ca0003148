import CodeAtlas.Proofs.Ignore.Search

/-!
# Walks below a root

A directory that a walk of a root comes to lies where its path says (`Discovery.Visits.located`), so
a walk can also be begun there. Which files either walk finds below the directory is said by whether
the way to them is open (`Discovery.Open`), which they agree on, and by what their filters and their
roots say (`Discovery.Clears`), which they need not agree on.
-/

namespace CodeAtlas

/-- Of two directories that a path lies below, one lies below the other one. -/
theorem Path.Above.total {d e p : Path} (h : d.Above p) (h' : e.Above p) :
    e.Above d ∨ e = d ∨ d.Above e := by
  have hanchor : e.anchor = d.anchor := h'.1.trans h.1.symm
  rcases Nat.lt_trichotomy e.names.length d.names.length with hlt | heq | hlt
  · have hpre := List.prefix_of_prefix_length_le h'.2.1 h.2.1 hlt.le
    exact .inl ⟨hanchor, hpre, fun h => absurd (congrArg List.length h) hlt.ne⟩
  · have hpre := List.prefix_of_prefix_length_le h'.2.1 h.2.1 heq.le
    exact .inr (.inl (ext hanchor (hpre.eq_of_length heq)))
  · have hpre := List.prefix_of_prefix_length_le h.2.1 h'.2.1 hlt.le
    exact .inr (.inr ⟨hanchor.symm, hpre, fun h => absurd (congrArg List.length h) hlt.ne⟩)

/-- A filter has the patterns of what its directory leads to. -/
theorem IgnoreFilter.made {fs : FileSystem} {d : Path} {options : IgnoreOptions} {f : IgnoreFilter}
    (h : make fs d options = .ok f) : fs.resolve d = .ok f.root ∧
      (patternTexts fs f.root options).mapM Pattern.ofText = .ok f.patterns := by
  obtain ⟨root, hroot, h⟩ := Except.bind_eq_ok_iff.1 h
  obtain ⟨patterns, hpatterns, h⟩ := Except.bind_eq_ok_iff.1 h
  cases h
  exact ⟨hroot, hpatterns⟩

/-- Where a filter is made the patterns can be read. -/
theorem IgnoreFilter.readable_of_make {fs : FileSystem} {d : Path} {options : IgnoreOptions}
    {f : IgnoreFilter} (h : make fs d options = .ok f) : Readable fs d options := by
  obtain ⟨hroot, hpatterns⟩ := made h
  intro root hroot'
  obtain rfl := Except.ok.inj (hroot'.symm.trans hroot)
  exact (Except.mapM_eq_ok hpatterns).2

/-- Of a path below its root on which there is no link a filter says what it says of the path as seen
from there, unless the suffix is that of a binary format. -/
theorem IgnoreFilter.ignores_of_relative {fs : FileSystem} {f : IgnoreFilter} {p : Path}
    {isDirectory ignored : Bool} (habs : p.isAbsolute = true)
    (hbinary : isDirectory = true ∨ p.isBinary = false) (hres : fs.resolve p = .ok p)
    (hrel : (p.relativeTo? f.root).map (f.ignoresRelative · isDirectory) = some ignored) :
    f.ignores fs p isDirectory = .ok ignored := by
  obtain ⟨inside, hinside, rfl⟩ := Option.map_eq_some_iff.1 hrel
  have hjoin : f.root.join p = p := by rw [Path.join, if_pos habs]
  rw [ignores, hjoin, if_neg (by simpa [or_iff_not_imp_left] using hbinary), hres]
  simp only [bind, Except.bind, hinside]
  rfl

namespace Discovery

variable {fs : FileSystem} {f : IgnoreFilter} {root d e p : Path}

/-! ## Directories without links on the way -/

/-- The directory lies where its path says. -/
structure Located (fs : FileSystem) (d : Path) : Prop where
  anchor : d.anchor = .root
  place : fs.locate d = .ok d.names
  node : fs.node? d.names = some .directory

namespace Located

theorem of_resolve (hd : fs.isDirectory d = true) (h : fs.resolve d = .ok d) : Located fs d := by
  obtain ⟨place, hplace, hnode⟩ := FileSystem.isDirectory_iff.1 hd
  obtain ⟨n, hfollows⟩ := FileSystem.follows_of_locateFrom hplace
  obtain ⟨d', hd', hanchor, hnames⟩ := hfollows.resolve
  obtain rfl : d' = d := Except.ok.inj (hd'.symm.trans h)
  exact ⟨hanchor, hnames ▸ hplace, hnames ▸ hnode⟩

theorem isDirectory (h : Located fs d) : fs.isDirectory d = true :=
  FileSystem.isDirectory_iff.2 ⟨_, h.place, h.node⟩

theorem isAbsolute (h : Located fs d) : d.isAbsolute = true := by
  rw [Path.isAbsolute, h.anchor]
  rfl

theorem resolve (h : Located fs d) : fs.resolve d = .ok d := by
  obtain ⟨n, hfollows⟩ := FileSystem.follows_of_locateFrom h.place
  obtain ⟨q, hq, hanchor, hnames⟩ := hfollows.resolve
  rw [hq, Path.ext (hanchor.trans h.anchor.symm) hnames]

theorem not_mem (h : Located fs d) : ".." ∉ d.names := FileSystem.not_mem_resolve h.resolve

/-- A directory that is listed in one that lies where its path says does so too if it is no link. -/
theorem child (h : Located fs d) {name : String} (hc : IsComponent name)
    (hl : Listed fs (d.child name)) (hd : fs.isDirectory (d.child name) = true)
    (hlink : fs.isLink (d.child name) = false) : Located fs (d.child name) := by
  obtain ⟨hplace, hnode⟩ := hl.locate hc hd hlink h.place h.node
  rw [← Path.child_names hc] at hplace hnode
  exact ⟨h.anchor, hplace, hnode⟩

/-- What a walk goes on into from a directory that lies where its path says does so too. -/
theorem enter (h : Located fs d) (hh : Holds fs d e) (he : Enters fs f e) : Located fs e := by
  obtain ⟨-, name, hc, rfl, -⟩ := holds_iff.1 hh
  exact h.child hc he.listed he.directory he.link

/-- The path of what is listed in such a directory and is no link is not changed by links. -/
theorem resolve_child (h : Located fs d) {name : String} (hc : IsComponent name)
    (hl : Listed fs (d.child name)) (hlink : fs.isLink (d.child name) = false) :
    fs.resolve (d.child name) = .ok (d.child name) := by
  obtain ⟨n, hfollows⟩ := hl.follows hc hlink h.place
  obtain ⟨q, hq, hanchor, hnames⟩ := hfollows.resolve
  obtain rfl : q = d.child name :=
    Path.ext (hanchor.trans h.anchor.symm) (hnames.trans (Path.child_names hc d).symm)
  exact hq

end Located

theorem Visits.located (h : Visits fs f root d) (hroot : Located fs root) : Located fs d := by
  induction hk : d.names.length - root.names.length using Nat.strongRecOn generalizing root with
  | ind k ih =>
    obtain rfl | ⟨c, hh, he, hv⟩ := visits_iff.1 h
    · exact hroot
    · have hlength := hh.names_length
      have hle : c.names.length ≤ d.names.length := by
        obtain rfl | ⟨hp, -⟩ := hv
        · exact Nat.le_refl _
        · exact hp.above.length_lt.le
      exact ih _ (by omega) hv (hroot.enter hh he) rfl

/-! ## Open ways -/

/-- The way from the directory to the file is open: each directory on it is there, can be listed and
is no link. -/
structure Open (fs : FileSystem) (d p : Path) : Prop where
  above : d.Above p
  listable : ∀ e, e = d ∨ d.Above e → e.Above p → fs.unlistable.contains e = false
  between : ∀ e, d.Above e → e.Above p →
    Listed fs e ∧ fs.isDirectory e = true ∧ fs.isLink e = false
  listed : Listed fs p
  file : fs.isFile p = true

/-- The filter ignores neither the file nor a directory between the other one and the file, and the
file leads into the root if it is a link. -/
structure Clears (fs : FileSystem) (f : IgnoreFilter) (root d p : Path) : Prop where
  between : ∀ e, d.Above e → e.Above p → f.ignores fs e true = .ok false
  kept : f.ignores fs p = .ok false
  inside : fs.isLink p = true →
    ∃ target, fs.resolve p = .ok target ∧ (target.relativeTo? root).isSome = true

/-- On an open way each directory lies where its path says, and so does a file at its end that is no
link. -/
theorem Open.unlinked (h : Open fs d p) (hd : Located fs d) :
    (∀ e, d.Above e → e.Above p → Located fs e) ∧
      (fs.isLink p = false → fs.resolve p = .ok p) := by
  induction hk : p.names.length - d.names.length using Nat.strongRecOn generalizing d with
  | ind k ih =>
    obtain ⟨name, hc, hp⟩ := h.above.cases
    have hchild := Path.above_child hc d
    rcases hp with rfl | hp
    · refine ⟨fun e hde hep => ?_, hd.resolve_child hc h.listed⟩
      rcases Path.Above.of_child hc hep with rfl | hed
      · exact absurd hde Path.Above.not_self
      · exact absurd (hde.trans hed) Path.Above.not_self
    · obtain ⟨hlisted, hdir, hlink⟩ := h.between _ hchild hp
      have hlocated := hd.child hc hlisted hdir hlink
      have hopen : Open fs (d.child name) p := by
        refine ⟨hp, fun e he hep => h.listable e (.inr ?_) hep,
          fun e he hep => h.between e (hchild.trans he) hep, h.listed, h.file⟩
        rcases he with rfl | he
        · exact hchild
        · exact hchild.trans he
      have hlt := hp.length_lt
      have hlt' := hchild.length_lt
      obtain ⟨hbetween, hfile⟩ := ih _ (by omega) hopen hlocated rfl
      refine ⟨fun e hde hep => ?_, hfile⟩
      rcases Path.Above.child_of hc hp hde hep with rfl | he
      · exact hlocated
      · exact hbetween e he hep

/-- Between a directory and a name in it there is nothing. -/
theorem Holds.nothing_between (h : Holds fs d p) (hde : d.Above e) : ¬ e.Above p := by
  obtain ⟨-, name, hc, rfl, -⟩ := holds_iff.1 h
  intro hep
  rcases Path.Above.of_child hc hep with rfl | hed
  · exact Path.Above.not_self hde
  · exact Path.Above.not_self (hde.trans hed)

/-- The way to a file in the directory is open. -/
theorem Holds.isOpen (h : Holds fs d p) (hf : fs.isFile p = true) : Open fs d p := by
  obtain ⟨hl, name, hc, rfl, hlisted⟩ := holds_iff.1 h
  refine ⟨Path.above_child hc d, fun e hde hep => ?_, fun e hde hep => ?_, hlisted, hf⟩
  · rcases hde with rfl | hde
    · exact hl
    · exact absurd hep (h.nothing_between hde)
  · exact absurd hep (h.nothing_between hde)

/-- For a file in the directory that is no link, nothing but the filter matters. -/
theorem Holds.clears_iff (h : Holds fs d p) (hlink : fs.isLink p = false) :
    Clears fs f root d p ↔ f.ignores fs p = .ok false := by
  refine ⟨Clears.kept, fun hkept => ⟨fun e hde hep => ?_, hkept, by simp [hlink]⟩⟩
  exact absurd hep (h.nothing_between hde)

theorem passes_takes_iff : Passes fs f d p ∧ Takes fs f root p ↔
    Open fs d p ∧ Clears fs f root d p := by
  constructor
  · rintro ⟨hp, ht⟩
    refine ⟨⟨hp.above, hp.listable, fun e hde hep => ?_, ht.listed, ht.file⟩,
      fun e hde hep => (hp.entered e hde hep).kept, ht.kept, ht.inside⟩
    have he := hp.entered e hde hep
    exact ⟨he.listed, he.directory, he.link⟩
  · rintro ⟨ho, hc⟩
    refine ⟨⟨ho.above, ho.listable, fun e hde hep => ?_⟩, ho.listed, ho.file, hc.kept, hc.inside⟩
    obtain ⟨hlisted, hdir, hlink⟩ := ho.between e hde hep
    exact ⟨hlisted, hdir, hlink, hc.between e hde hep⟩

theorem reaches_iff : Reaches fs f d p ↔ Open fs d p ∧ Clears fs f d d p :=
  ⟨fun h => passes_takes_iff.1 ⟨h.toPasses, h.taken⟩, fun h =>
    let ⟨hp, ht⟩ := passes_takes_iff.2 h
    ⟨hp, ht⟩⟩

/-- A walk that comes to a directory finds those files below it to which the way from there is open
and that its filter and its root allow. -/
theorem Visits.reaches_iff (h : Visits fs f root d) (hp : d.Above p) :
    Reaches fs f root p ↔ Open fs d p ∧ Clears fs f root d p := by
  rcases h with rfl | ⟨hpasses, henters⟩
  · exact Discovery.reaches_iff
  · rw [← passes_takes_iff]
    constructor
    · rintro ⟨hr, ht⟩
      refine ⟨⟨hp, fun e hde hep => hr.listable e ?_ hep, fun e hde hep => ?_⟩, ht⟩
      · rcases hde with rfl | hde
        · exact .inr hpasses.above
        · exact .inr (hpasses.above.trans hde)
      · exact hr.entered e (hpasses.above.trans hde) hep
    · rintro ⟨hd, ht⟩
      refine ⟨⟨hpasses.above.trans hp, fun e hre hep => ?_, fun e hre hep => ?_⟩, ht⟩
      · rcases hp.total hep with hed | hde
        · exact hpasses.listable e hre hed
        · exact hd.listable e hde hep
      · rcases hp.total hep with hed | rfl | hde
        · exact hpasses.entered e hre hed
        · exact henters
        · exact hd.entered e hde hep

/-! ## Searches of one directory -/

namespace Located

variable {options : IgnoreOptions} {g : IgnoreFilter}

theorem walks_iff (h : Located fs d) :
    Walks fs [] options d e g ↔ e = d ∧ IgnoreFilter.make fs d options = .ok g := by
  constructor
  · intro hw
    obtain rfl : e = d := Except.ok.inj (hw.resolved.symm.trans h.resolve)
    obtain ⟨-, hmake⟩ := hw.filter.resolve_left nofun
    exact ⟨rfl, hmake⟩
  · rintro ⟨rfl, hmake⟩
    exact ⟨h.resolve, h.isDirectory, .inr ⟨rfl, hmake⟩⟩

/-- A search of one directory makes a filter of its own and finds what a walk with it is to find. -/
theorem discover_ok (h : Located fs d) {found : Discovery}
    (hfound : discover fs [d] [] options = .ok found) :
    ∃ g, IgnoreFilter.make fs d options = .ok g ∧ ∀ q, q ∈ found.files ↔ Reaches fs g d q := by
  have hsearch := hfound
  rw [discover] at hsearch
  obtain ⟨parts, hparts, -⟩ := Except.bind_eq_ok_iff.1 hsearch
  obtain ⟨part, hpart⟩ := (Except.mapM_eq_ok hparts).2 d List.mem_cons_self
  obtain ⟨e, he, ⟨hdir, -⟩ | ⟨g, hw, -⟩⟩ := walkRoot_ok hpart
  · obtain rfl := Except.ok.inj (he.symm.trans h.resolve)
    rw [h.isDirectory] at hdir
    cases hdir
  · obtain ⟨rfl, hmake⟩ := h.walks_iff.1 hw
    refine ⟨g, hmake, fun q => ?_⟩
    rw [mem_discover hfound]
    simp [h.walks_iff, hmake]

/-- Without loops such a search ends well if the filter can be made. -/
theorem exists_discover_iff (h : Located fs d) (hloop : fs.LoopFree) :
    (∃ found, discover fs [d] [] options = .ok found) ↔
      ∃ g, IgnoreFilter.make fs d options = .ok g := by
  constructor
  · rintro ⟨found, hfound⟩
    obtain ⟨g, hmake, -⟩ := h.discover_ok hfound
    exact ⟨g, hmake⟩
  · rintro ⟨g, hmake⟩
    refine (discover_ok_iff fun r hr e he _ _ => ?_).2 fun r _ => clear_of_loopFree hloop r
    obtain rfl := List.mem_singleton.1 hr
    obtain rfl : e = r := Except.ok.inj (he.symm.trans h.resolve)
    exact IgnoreFilter.readable_of_make hmake

end Located

end Discovery
end CodeAtlas
