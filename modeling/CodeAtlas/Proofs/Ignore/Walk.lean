import CodeAtlas.Ignore.Discover
import CodeAtlas.Proofs.Data.Except
import CodeAtlas.Proofs.Files.Links

/-!
# What a walk finds

`Discovery.Reaches` says which files a walk of a directory is to find: those that a filter takes, if
each directory on the way is there, can be listed, is no link and is not ignored. A walk that is as
deep as the file system finds these and no others (`Discovery.mem_walk`), and so does a search of
several roots (`mem_discover`).
-/

namespace CodeAtlas

namespace Path

/-- The path lies below the directory. -/
def Above (d p : Path) : Prop := d.anchor = p.anchor ∧ d.names <+: p.names ∧ d.names ≠ p.names

theorem name_child {name : String} (h : IsComponent name) (d : Path) : (d.child name).name = name := by
  rw [Path.name, child_names h, List.getLast?_concat]
  rfl

theorem parent_child {name : String} (h : IsComponent name) (d : Path) :
    (d.child name).parent = d := by
  have hnames : (d.child name).parent.names = (d.child name).names.dropLast := rfl
  refine ext rfl ?_
  rw [hnames, child_names h, List.dropLast_concat]

theorem above_child {name : String} (h : IsComponent name) (d : Path) : d.Above (d.child name) := by
  refine ⟨rfl, ?_, ?_⟩ <;> simp [child_names h]

namespace Above

variable {d e p : Path}

theorem trans (h : d.Above e) (h' : e.Above p) : d.Above p := by
  refine ⟨h.1.trans h'.1, h.2.1.trans h'.2.1, fun heq => h.2.2 ?_⟩
  have hl := h'.2.1.length_le
  rw [← heq] at hl
  exact h.2.1.eq_of_length_le hl

theorem length_lt (h : d.Above p) : d.names.length < p.names.length := by
  have hle := h.2.1.length_le
  rcases Nat.lt_or_eq_of_le hle with hlt | heq
  · exact hlt
  · exact absurd (h.2.1.eq_of_length heq) h.2.2

/-- What lies below a directory is a name in it, or lies below one. -/
theorem cases (h : d.Above p) :
    ∃ name, IsComponent name ∧ (p = d.child name ∨ (d.child name).Above p) := by
  obtain ⟨ha, ⟨rest, hrest⟩, hne⟩ := h
  cases rest with
  | nil => exact absurd (by simpa using hrest) hne
  | cons name rest =>
    have hc : IsComponent name := p.isComponent name (by simp [← hrest])
    refine ⟨name, hc, ?_⟩
    cases rest with
    | nil => exact .inl (ext ha.symm (by rw [child_names hc, hrest]))
    | cons next rest =>
      refine .inr ⟨ha, ⟨next :: rest, ?_⟩, ?_⟩
      · rw [child_names hc, List.append_assoc]
        exact hrest
      · intro heq
        rw [child_names hc, ← hrest] at heq
        simp at heq

/-- Between a directory and a name in it there is nothing. -/
theorem of_child {name : String} (hc : IsComponent name) (h : e.Above (d.child name)) :
    e = d ∨ e.Above d := by
  have hlt := h.length_lt
  obtain ⟨ha, hp, -⟩ := h
  rw [child_names hc] at hp hlt
  have hpre : e.names <+: d.names := by
    refine List.prefix_of_prefix_length_le hp (List.prefix_append _ _) ?_
    simp at hlt
    omega
  by_cases heq : e.names = d.names
  · exact .inl (ext ha heq)
  · exact .inr ⟨ha, hpre, heq⟩

/-- What lies between a directory and a path lies in the same name of it as the path. -/
theorem child_of {name : String} (hc : IsComponent name) (hp : (d.child name).Above p)
    (h : d.Above e) (h' : e.Above p) : e = d.child name ∨ (d.child name).Above e := by
  have hlt := h.length_lt
  have hpre : (d.child name).names <+: e.names := by
    refine List.prefix_of_prefix_length_le hp.2.1 h'.2.1 ?_
    rw [child_names hc]
    simp
    omega
  by_cases heq : (d.child name).names = e.names
  · exact .inl (ext h.1.symm heq.symm)
  · exact .inr ⟨h.1, hpre, heq⟩

theorem not_self : ¬ d.Above d := fun h => h.2.2 rfl

end Above
end Path

namespace Discovery

/-- The path is one of the names in the directory before it. -/
def Listed (fs : FileSystem) (p : Path) : Prop :=
  ∃ place, fs.locate p.parent = .ok place ∧ p.name ∈ fs.namesIn place

/-- A walk goes on into the directory. -/
structure Enters (fs : FileSystem) (f : IgnoreFilter) (d : Path) : Prop where
  listed : Listed fs d
  directory : fs.isDirectory d = true
  link : fs.isLink d = false
  kept : f.ignores fs d true = .ok false

/-- A walk of the root takes the file. -/
structure Takes (fs : FileSystem) (f : IgnoreFilter) (root p : Path) : Prop where
  listed : Listed fs p
  file : fs.isFile p = true
  kept : f.ignores fs p = .ok false
  inside : fs.isLink p = true →
    ∃ target, fs.resolve p = .ok target ∧ (target.relativeTo? root).isSome = true

/-- A walk of the directory goes through all directories on the way to the path. -/
structure Passes (fs : FileSystem) (f : IgnoreFilter) (d p : Path) : Prop where
  above : d.Above p
  listable : ∀ e, e = d ∨ d.Above e → e.Above p → fs.unlistable.contains e = false
  entered : ∀ e, d.Above e → e.Above p → Enters fs f e

/-- A walk of the directory is to find the file. -/
structure Reaches (fs : FileSystem) (f : IgnoreFilter) (d p : Path) : Prop
    extends Passes fs f d p where
  taken : Takes fs f d p

variable {fs : FileSystem} {f : IgnoreFilter} {root : Path}

/-- The way to a path is open if the path is one of the names in a directory, or if the way from one
of them is open. -/
theorem passes_iff {d p : Path} :
    Passes fs f d p ↔ fs.unlistable.contains d = false ∧ ∃ name, IsComponent name ∧
      (p = d.child name ∨ Enters fs f (d.child name) ∧ Passes fs f (d.child name) p) := by
  constructor
  · intro h
    obtain ⟨name, hc, hp⟩ := h.above.cases
    refine ⟨h.listable d (.inl rfl) h.above, name, hc, ?_⟩
    rcases hp with rfl | hp
    · exact .inl rfl
    · have hchild := Path.above_child hc d
      refine .inr ⟨h.entered _ hchild hp, hp, fun e he => h.listable e ?_,
        fun e he => h.entered e (hchild.trans he)⟩
      rcases he with rfl | he
      · exact .inr hchild
      · exact .inr (hchild.trans he)
  · rintro ⟨hl, name, hc, rfl | ⟨he, h⟩⟩
    · have hchild := Path.above_child hc d
      refine ⟨hchild, ?_, ?_⟩
      · intro e hde hep
        rcases Path.Above.of_child hc hep with rfl | hed
        · exact hl
        · rcases hde with rfl | hde
          · exact hl
          · exact absurd (hde.trans hed) Path.Above.not_self
      · intro e hde hep
        rcases Path.Above.of_child hc hep with rfl | hed
        · exact absurd hde Path.Above.not_self
        · exact absurd (hde.trans hed) Path.Above.not_self
    · refine ⟨(Path.above_child hc d).trans h.above, ?_, ?_⟩
      · rintro e (rfl | hde) hep
        · exact hl
        · exact h.listable e (Path.Above.child_of hc h.above hde hep) hep
      · intro e hde hep
        rcases Path.Above.child_of hc h.above hde hep with rfl | hce
        · exact he
        · exact h.entered e hce hep

/-! ## One name -/

theorem isDirectory_eq_false {p : Path} (h : fs.isFile p = true) : fs.isDirectory p = false := by
  unfold FileSystem.isFile at h
  unfold FileSystem.isDirectory
  split at h
  · next hp => rw [hp]
  · cases h

/-- How a directory is told in a directory. -/
theorem sort_directory {c : Path} {l : Listing} (h : sort fs f root c = .ok l)
    (hd : fs.isDirectory c = true) : l.files = [] ∧ ∀ d, d ∈ l.directories ↔
      d = c ∧ f.ignores fs c true = .ok false ∧ fs.isLink c = false := by
  rw [sort, if_pos hd] at h
  obtain ⟨ignored, hi, hl⟩ := Except.bind_eq_ok_iff.1 h
  cases hl
  refine ⟨rfl, fun d => ?_⟩
  rw [hi]
  cases ignored <;> cases fs.isLink c <;> simp

/-- How anything else is told in a directory. -/
theorem sort_file {c : Path} {l : Listing} (h : sort fs f root c = .ok l)
    (hd : fs.isDirectory c = false) : l.directories = [] ∧ ∀ p, p ∈ l.files ↔
      p = c ∧ fs.isFile c = true ∧ f.ignores fs c = .ok false ∧ (fs.isLink c = true →
        ∃ target, fs.resolve c = .ok target ∧ (target.relativeTo? root).isSome = true) := by
  rw [sort, if_neg (by simp [hd])] at h
  obtain ⟨ignored, hi, hl⟩ := Except.bind_eq_ok_iff.1 h
  rw [hi]
  cases ignored with
  | true =>
    cases hl
    simp
  | false =>
    cases hlink : fs.isLink c with
    | false =>
      simp only [hlink, Bool.false_eq_true, if_false] at hl
      cases hl
      cases fs.isFile c <;> simp
    | true =>
      simp only [hlink, Bool.false_eq_true, if_false, if_true] at hl
      obtain ⟨target, ht, hl⟩ := Except.bind_eq_ok_iff.1 hl
      rw [ht]
      cases hin : target.relativeTo? root with
      | none =>
        simp only [hin, Option.isNone_none, if_true] at hl
        cases hl
        simp [hin]
      | some inside =>
        simp only [hin, Option.isNone_some, Bool.false_eq_true, if_false] at hl
        cases hl
        cases fs.isFile c <;> simp [hin]

/-- What the names in a directory come to. -/
theorem sortAll_ok {cs : List Path} {l : Listing} (h : sortAll fs f root cs = .ok l) :
    (∀ p, p ∈ l.files ↔ p ∈ cs ∧ fs.isDirectory p = false ∧ fs.isFile p = true ∧
      f.ignores fs p = .ok false ∧ (fs.isLink p = true →
        ∃ target, fs.resolve p = .ok target ∧ (target.relativeTo? root).isSome = true)) ∧
    ∀ d, d ∈ l.directories ↔ d ∈ cs ∧ fs.isDirectory d = true ∧ f.ignores fs d true = .ok false ∧
      fs.isLink d = false := by
  rw [sortAll] at h
  obtain ⟨parts, hparts, hl⟩ := Except.bind_eq_ok_iff.1 h
  cases hl
  obtain ⟨hmem, hall⟩ := Except.mapM_eq_ok hparts
  constructor
  · intro p
    simp only [List.mem_flatMap, hmem]
    constructor
    · rintro ⟨l, ⟨c, hc, hl⟩, hp⟩
      cases hd : fs.isDirectory c with
      | true => simp [(sort_directory hl hd).1] at hp
      | false =>
        obtain ⟨rfl, h⟩ := ((sort_file hl hd).2 p).1 hp
        exact ⟨hc, hd, h⟩
    · rintro ⟨hc, hd, h⟩
      obtain ⟨l, hl⟩ := hall p hc
      exact ⟨l, ⟨p, hc, hl⟩, ((sort_file hl hd).2 p).2 ⟨rfl, h⟩⟩
  · intro d
    simp only [List.mem_flatMap, hmem]
    constructor
    · rintro ⟨l, ⟨c, hc, hl⟩, hm⟩
      cases hd : fs.isDirectory c with
      | false => simp [(sort_file hl hd).1] at hm
      | true =>
        obtain ⟨rfl, h⟩ := ((sort_directory hl hd).2 d).1 hm
        exact ⟨hc, hd, h⟩
    · rintro ⟨hc, hd, h⟩
      obtain ⟨l, hl⟩ := hall d hc
      exact ⟨l, ⟨d, hc, hl⟩, ((sort_directory hl hd).2 d).2 ⟨rfl, h⟩⟩

/-! ## Walks -/

theorem files_foldl_append (ds : List Discovery) (d : Discovery) :
    (ds.foldl append d).files = d.files ++ ds.flatMap files := by
  induction ds generalizing d with
  | nil => simp
  | cons e ds ih => rw [List.foldl_cons, ih, append, List.append_assoc, List.flatMap_cons]

/-- The directory can be listed, and the path is what one of the names in it stands for. -/
def Holds (fs : FileSystem) (d c : Path) : Prop := ∃ names, fs.list d = .ok names ∧ c ∈ names.map d.child

/-- The names in a directory are those of the nodes right below it that a path can have. -/
theorem mem_namesIn {place : List String} {name : String} : name ∈ fs.namesIn place ↔
    fs.nodes.contains (place ++ [name]) = true ∧ IsComponent name ∧ name ≠ ".." := by
  rw [FileSystem.namesIn, List.mem_filterMap, ← Table.mem_keys]
  constructor
  · rintro ⟨key, hkey, h⟩
    split at h
    · next hd =>
      rw [Option.filter_eq_some_iff] at h
      obtain ⟨hlast, hname⟩ := h
      obtain ⟨init, rfl⟩ := List.getLast?_eq_some_iff.1 hlast
      rw [List.dropLast_concat] at hd
      exact ⟨hd ▸ hkey, of_decide_eq_true hname⟩
    · cases h
  · rintro ⟨h, hname⟩
    exact ⟨_, h, by simpa using hname⟩

theorem list_ok_iff {d : Path} {names : List String} : fs.list d = .ok names ↔
    fs.unlistable.contains d = false ∧ ∃ place, fs.locate d = .ok place ∧ fs.namesIn place = names := by
  rw [FileSystem.list]
  cases hl : fs.unlistable.contains d with
  | true => simp
  | false => simp [Except.map_eq_ok_iff]

theorem holds_iff {d c : Path} : Holds fs d c ↔ fs.unlistable.contains d = false ∧
    ∃ name, IsComponent name ∧ c = d.child name ∧ Listed fs c := by
  constructor
  · rintro ⟨names, hnames, hc⟩
    obtain ⟨hl, place, hplace, rfl⟩ := list_ok_iff.1 hnames
    obtain ⟨name, hname, rfl⟩ := List.mem_map.1 hc
    obtain ⟨-, hcomponent, -⟩ := mem_namesIn.1 hname
    refine ⟨hl, name, hcomponent, rfl, place, ?_, ?_⟩
    · rw [Path.parent_child hcomponent, hplace]
    · rw [Path.name_child hcomponent]
      exact hname
  · rintro ⟨hl, name, hcomponent, rfl, place, hplace, hname⟩
    rw [Path.parent_child hcomponent] at hplace
    rw [Path.name_child hcomponent] at hname
    exact ⟨_, list_ok_iff.2 ⟨hl, place, hplace, rfl⟩, List.mem_map_of_mem hname⟩

/-- One level of a walk: the files in the directory, and what is found in those that it enters. -/
theorem mem_walk_succ {depth : Nat} {d : Path} {found : Discovery}
    (h : walk fs f root (depth + 1) d = .ok found) (p : Path) :
    p ∈ found.files ↔
      (Holds fs d p ∧ fs.isDirectory p = false ∧ fs.isFile p = true ∧ f.ignores fs p = .ok false ∧
          (fs.isLink p = true →
            ∃ target, fs.resolve p = .ok target ∧ (target.relativeTo? root).isSome = true)) ∨
        ∃ e sub, (Holds fs d e ∧ fs.isDirectory e = true ∧ f.ignores fs e true = .ok false ∧
            fs.isLink e = false) ∧
          walk fs f root depth e = .ok sub ∧ p ∈ sub.files := by
  rw [walk] at h
  split at h
  · next e he =>
    cases h
    have hnone : ∀ c, ¬ Holds fs d c := by
      rintro c ⟨names, hnames, -⟩
      cases he.symm.trans hnames
    simp [hnone]
  · next names hnames =>
    have hholds : ∀ c, Holds fs d c ↔ c ∈ names.map d.child := by
      intro c
      constructor
      · rintro ⟨names', hnames', hc⟩
        cases hnames.symm.trans hnames'
        exact hc
      · exact fun hc => ⟨names, hnames, hc⟩
    obtain ⟨here, hhere, h⟩ := Except.bind_eq_ok_iff.1 h
    obtain ⟨below, hbelow, h⟩ := Except.bind_eq_ok_iff.1 h
    cases h
    obtain ⟨hfiles, hdirs⟩ := sortAll_ok hhere
    obtain ⟨hmem, hall⟩ := Except.mapM_eq_ok hbelow
    rw [files_foldl_append, List.mem_append, List.mem_flatMap, hfiles, hholds]
    refine or_congr_right ⟨?_, ?_⟩
    · rintro ⟨sub, hsub, hp⟩
      obtain ⟨e, he, hwalk⟩ := (hmem sub).1 hsub
      obtain ⟨hm, he⟩ := (hdirs e).1 he
      exact ⟨e, sub, ⟨(hholds e).2 hm, he⟩, hwalk, hp⟩
    · rintro ⟨e, sub, ⟨hm, he⟩, hwalk, hp⟩
      exact ⟨sub, (hmem sub).2 ⟨e, (hdirs e).2 ⟨(hholds e).1 hm, he⟩, hwalk⟩, hp⟩

/-- Of a walk that ends well, the walks below it do. -/
theorem walk_child_ok {depth : Nat} {d e : Path} {found : Discovery}
    (h : walk fs f root (depth + 1) d = .ok found) (he : Holds fs d e)
    (hd : fs.isDirectory e = true) (hk : f.ignores fs e true = .ok false)
    (hn : fs.isLink e = false) : ∃ sub, walk fs f root depth e = .ok sub := by
  obtain ⟨names, hnames, he⟩ := he
  rw [walk, hnames] at h
  obtain ⟨here, hhere, h⟩ := Except.bind_eq_ok_iff.1 h
  obtain ⟨below, hbelow, -⟩ := Except.bind_eq_ok_iff.1 h
  exact (Except.mapM_eq_ok hbelow).2 e (((sortAll_ok hhere).2 e).2 ⟨he, hd, hk, hn⟩)

/-- A walk that is some levels deep finds what it is to find as many levels below. -/
theorem mem_walk_iff {depth : Nat} {d : Path} {found : Discovery}
    (h : walk fs f root depth d = .ok found) (p : Path) :
    p ∈ found.files ↔
      Passes fs f d p ∧ Takes fs f root p ∧ p.names.length ≤ d.names.length + depth := by
  induction depth generalizing d found with
  | zero =>
    cases h
    simp only [empty, List.not_mem_nil, Nat.add_zero, false_iff, not_and, Nat.not_le]
    exact fun h _ => h.above.length_lt
  | succ depth ih =>
    rw [mem_walk_succ h]
    -- A level deeper a path is one name longer, and one level less is left to walk.
    constructor
    · rintro (⟨hp, -, hfile, hkept, hin⟩ | ⟨e, sub, ⟨he, hed, hkept, hlink⟩, hwalk, hp⟩)
      · obtain ⟨hl, name, hc, rfl, hlisted⟩ := holds_iff.1 hp
        refine ⟨passes_iff.2 ⟨hl, name, hc, .inl rfl⟩, ⟨hlisted, hfile, hkept, hin⟩, ?_⟩
        simp [Path.child_names hc]
      · obtain ⟨hr, ht, hlen⟩ := (ih hwalk).1 hp
        obtain ⟨hl, name, hc, rfl, hlisted⟩ := holds_iff.1 he
        refine ⟨passes_iff.2 ⟨hl, name, hc, .inr ⟨⟨hlisted, hed, hlink, hkept⟩, hr⟩⟩, ht, ?_⟩
        rw [Path.child_names hc, List.length_append, List.length_singleton] at hlen
        omega
    · rintro ⟨hr, ht, hlen⟩
      obtain ⟨hl, name, hc, rfl | ⟨he, hr⟩⟩ := passes_iff.1 hr
      · exact .inl ⟨holds_iff.2 ⟨hl, name, hc, rfl, ht.listed⟩, isDirectory_eq_false ht.file,
          ht.file, ht.kept, ht.inside⟩
      · have hm := holds_iff.2 ⟨hl, name, hc, rfl, he.listed⟩
        obtain ⟨sub, hsub⟩ := walk_child_ok h hm he.directory he.kept he.link
        refine .inr ⟨_, sub, ⟨hm, he.directory, he.kept, he.link⟩, hsub, (ih hsub).2 ⟨hr, ht, ?_⟩⟩
        rw [Path.child_names hc, List.length_append, List.length_singleton]
        omega

/-! ## How deep a walk goes -/

/-- No node lies deeper than a walk goes. -/
theorem length_lt_depth {names : List String} (h : fs.nodes.contains names = true) :
    names.length < depth fs := by
  have hle : ∀ (ns : List Nat) (m : Nat), m ≤ ns.foldl max m ∧ ∀ n ∈ ns, n ≤ ns.foldl max m := by
    intro ns
    induction ns with
    | nil => simp
    | cons n ns ih =>
      intro m
      obtain ⟨hm, hall⟩ := ih (max m n)
      refine ⟨Nat.le_trans (Nat.le_max_left m n) hm, fun k hk => ?_⟩
      rcases List.mem_cons.1 hk with rfl | hk
      · exact Nat.le_trans (Nat.le_max_right m k) hm
      · exact hall k hk
  have hmem := List.mem_map_of_mem (f := List.length) (Table.mem_keys.2 h)
  have := (hle _ 0).2 _ hmem
  rw [depth]
  omega

theorem fromRoot_child {name : String} (hc : IsComponent name) (d : Path) :
    (fs.fromRoot (d.child name)).names = (fs.fromRoot d).names ++ [name] := by
  have habs : (d.child name).isAbsolute = d.isAbsolute := rfl
  rw [FileSystem.fromRoot, FileSystem.fromRoot, Path.join, Path.join, habs]
  split
  · exact Path.child_names hc d
  · simp [Path.child_names hc]

/-- A directory that is listed in another one, and is no link, lies right below it. -/
theorem Listed.locate {d : Path} {place : List String} {name : String} (hc : IsComponent name)
    (h : Listed fs (d.child name)) (hdirectory : fs.isDirectory (d.child name) = true)
    (hlink : fs.isLink (d.child name) = false) (hd : fs.locate d = .ok place)
    (hnode : fs.node? place = some .directory) :
    fs.locate (d.child name) = .ok (place ++ [name]) ∧
      fs.node? (place ++ [name]) = some .directory := by
  obtain ⟨left, hleft⟩ := FileSystem.locateFrom_append hd hnode
  obtain ⟨end_, hend, hdir⟩ := FileSystem.isDirectory_iff.1 hdirectory
  obtain ⟨place', hplace', hname⟩ := h
  rw [Path.parent_child hc, hd] at hplace'
  obtain rfl := Except.ok.inj hplace'
  rw [Path.name_child hc] at hname
  have hdots := (mem_namesIn.1 hname).2.2
  rw [FileSystem.isLink, Path.parent_child hc, hd, Path.name_child hc] at hlink
  rw [FileSystem.locate, fromRoot_child hc, hleft, FileSystem.locateFrom] at hend ⊢
  · cases hn : fs.node? (place ++ [name]) with
    | none => simp [hn] at hend
    | some node => cases node with
      | file bytes =>
        simp only [hn, List.isEmpty_nil, if_true, Except.ok.injEq] at hend
        rw [← hend, hn] at hdir
        cases hdir
      | link target => simp [hn] at hlink
      | directory => simp [FileSystem.locateFrom]
  all_goals exact hdots

/-- The path of what is listed in a directory, and is no link, can be followed. -/
theorem Listed.follows {d : Path} {place : List String} {name : String} (hc : IsComponent name)
    (h : Listed fs (d.child name)) (hlink : fs.isLink (d.child name) = false)
    (hd : fs.locate d = .ok place) :
    ∃ n, fs.Follows n [] (fs.fromRoot (d.child name)).names (place ++ [name]) := by
  obtain ⟨place', hplace', hname⟩ := h
  rw [Path.parent_child hc, hd] at hplace'
  obtain rfl := Except.ok.inj hplace'
  rw [Path.name_child hc] at hname
  rw [FileSystem.isLink, Path.parent_child hc, hd, Path.name_child hc] at hlink
  have hno : fs.NoLink (place ++ [name]) := by
    intro target htarget
    simp [htarget] at hlink
  obtain ⟨n, hf⟩ := FileSystem.follows_of_locateFrom hd
  refine ⟨n, ?_⟩
  rw [fromRoot_child hc]
  exact hf.concat (mem_namesIn.1 hname).2.2 hno

/-- A directory that is entered lies right below the one before it. -/
theorem Enters.locate {d : Path} {place : List String} {name : String} (hc : IsComponent name)
    (h : Enters fs f (d.child name)) (hd : fs.locate d = .ok place)
    (hnode : fs.node? place = some .directory) :
    fs.locate (d.child name) = .ok (place ++ [name]) ∧
      fs.node? (place ++ [name]) = some .directory :=
  h.listed.locate hc h.directory h.link hd hnode

/-- What a walk of a directory comes to is not deeper below it than the file system is deep. -/
theorem Passes.length_lt {d p : Path} (h : Passes fs f d p) (hp : Listed fs p) {place : List String}
    (hd : fs.locate d = .ok place) (hnode : fs.node? place = some .directory) :
    p.names.length + place.length < d.names.length + depth fs := by
  induction hk : p.names.length - d.names.length generalizing d place with
  | zero =>
    have := h.above.length_lt
    omega
  | succ k ih =>
    obtain ⟨-, name, hc, rfl | ⟨he, hr⟩⟩ := passes_iff.1 h
    · obtain ⟨place', hplace', hname⟩ := hp
      rw [Path.parent_child hc, hd] at hplace'
      obtain rfl := Except.ok.inj hplace'
      have hlt := length_lt_depth (mem_namesIn.1 hname).1
      rw [List.length_append, List.length_singleton] at hlt
      rw [Path.child_names hc, List.length_append, List.length_singleton]
      omega
    · obtain ⟨hd', hnode'⟩ := he.locate hc hd hnode
      have hlt := ih hr hd' hnode' (by
        rw [Path.child_names hc, List.length_append, List.length_singleton]
        omega)
      rw [Path.child_names hc, List.length_append, List.length_append, List.length_singleton] at hlt
      omega

/-- A walk of a root finds the files that it is to find. -/
theorem mem_walk {d : Path} {found : Discovery} (h : walk fs f d (depth fs) d = .ok found)
    (hd : fs.isDirectory d = true) (p : Path) : p ∈ found.files ↔ Reaches fs f d p := by
  rw [mem_walk_iff h]
  constructor
  · exact fun ⟨hp, ht, _⟩ => ⟨hp, ht⟩
  · intro hr
    obtain ⟨place, hplace, hnode⟩ := FileSystem.isDirectory_iff.1 hd
    have := hr.toPasses.length_lt hr.taken.listed hplace hnode
    exact ⟨hr.toPasses, hr.taken, by omega⟩

/-! ## Searches -/

/-- A search from a root walks the directory with the filter. -/
structure Walks (fs : FileSystem) (filters : List (Path × IgnoreFilter)) (options : IgnoreOptions)
    (root d : Path) (f : IgnoreFilter) : Prop where
  resolved : fs.resolve root = .ok d
  directory : fs.isDirectory d = true
  filter : filters.lookup d = some f ∨
    filters.lookup d = none ∧ IgnoreFilter.make fs d options = .ok f

theorem isDirectory_exists {p : Path} (h : fs.isDirectory p = true) : fs.exists? p = true := by
  unfold FileSystem.isDirectory at h
  unfold FileSystem.exists?
  split at h
  · next hp => rw [hp]; rfl
  · cases h

/-- In a directory that holds one file, which the filter keeps, a walk finds that file. -/
theorem walkRoot_file {filters : List (Path × IgnoreFilter)} {options : IgnoreOptions} {d : Path}
    {name : String} (hf : filters.lookup d = some f) (hroot : fs.resolve d = .ok d)
    (hdir : fs.isDirectory d = true) (hlist : fs.list d = .ok [name])
    (hfile : fs.isFile (d.child name) = true) (hlink : fs.isLink (d.child name) = false)
    (hkept : f.ignores fs (d.child name) = .ok false) :
    walkRoot fs filters options d = .ok ⟨[d.child name], .empty⟩ := by
  have hsort : sort fs f d (d.child name) = .ok ⟨[d.child name], []⟩ := by
    simp [sort, isDirectory_eq_false hfile, hkept, hlink, hfile, bind, Except.bind, pure,
      Except.pure]
  have hwalk : walk fs f d (depth fs) d = .ok ⟨[d.child name], .empty⟩ := by
    rw [depth, walk, hlist]
    simp [sortAll, hsort, bind, Except.bind, pure, Except.pure]
  simp [walkRoot, hroot, isDirectory_exists hdir, hdir, hf, hwalk, bind, Except.bind, pure,
    Except.pure]

/-- A search from a root walks the directory that the root leads to, if it leads to one. -/
theorem walkRoot_ok {filters : List (Path × IgnoreFilter)} {options : IgnoreOptions} {root : Path}
    {found : Discovery} (h : walkRoot fs filters options root = .ok found) :
    ∃ d, fs.resolve root = .ok d ∧ (fs.isDirectory d = false ∧ found.files = [] ∨
      ∃ f, Walks fs filters options root d f ∧ walk fs f d (depth fs) d = .ok found) := by
  rw [walkRoot] at h
  obtain ⟨d, hd, h⟩ := Except.bind_eq_ok_iff.1 h
  refine ⟨d, hd, ?_⟩
  cases hdir : fs.isDirectory d with
  | false =>
    refine .inl ⟨rfl, ?_⟩
    simp only [hdir, Bool.not_false, if_true] at h
    split at h <;> (cases h; rfl)
  | true =>
    right
    simp only [isDirectory_exists hdir, hdir, Bool.not_true, Bool.false_eq_true, if_false] at h
    split at h
    · next f hf => exact ⟨f, ⟨hd, hdir, .inl hf⟩, h⟩
    · next hf =>
      obtain ⟨f, hmake, h⟩ := Except.bind_eq_ok_iff.1 h
      exact ⟨f, ⟨hd, hdir, .inr ⟨hf, hmake⟩⟩, h⟩

/-- A root leads to one directory, which is walked with one filter. -/
theorem Walks.unique {filters : List (Path × IgnoreFilter)} {options : IgnoreOptions}
    {root d d' : Path} {g : IgnoreFilter} (h : Walks fs filters options root d f)
    (h' : Walks fs filters options root d' g) : d' = d ∧ g = f := by
  obtain rfl : d' = d := Except.ok.inj (h'.resolved.symm.trans h.resolved)
  refine ⟨rfl, ?_⟩
  rcases h.filter with hf | ⟨hf, hm⟩ <;> rcases h'.filter with hg | ⟨hg, hm'⟩
  · exact Option.some.inj (hg.symm.trans hf)
  · simp [hf] at hg
  · simp [hf] at hg
  · exact Except.ok.inj (hm'.symm.trans hm)

theorem mem_walkRoot {filters : List (Path × IgnoreFilter)} {options : IgnoreOptions} {root : Path}
    {found : Discovery} (h : walkRoot fs filters options root = .ok found) (p : Path) :
    p ∈ found.files ↔ ∃ d f, Walks fs filters options root d f ∧ Reaches fs f d p := by
  obtain ⟨d, hd, ⟨hdir, hnone⟩ | ⟨f, hw, hwalk⟩⟩ := walkRoot_ok h
  · simp only [hnone, List.not_mem_nil, false_iff, not_exists, not_and]
    intro d' g hw
    obtain rfl : d' = d := Except.ok.inj (hw.resolved.symm.trans hd)
    rw [hw.directory] at hdir
    cases hdir
  · rw [mem_walk hwalk hw.directory]
    constructor
    · exact fun hr => ⟨d, f, hw, hr⟩
    · rintro ⟨d', g, hw', hr⟩
      obtain ⟨rfl, rfl⟩ := hw.unique hw'
      exact hr

/-- The way from a directory to a path that a walk finds has no two dots. -/
theorem Reaches.not_mem {d p : Path} (h : Reaches fs f d p) (hd : ".." ∉ d.names) : ".." ∉ p.names := by
  have listed : ∀ e, d.Above e → e = p ∨ e.Above p → Listed fs e := by
    rintro e hde (rfl | hep)
    · exact h.taken.listed
    · exact (h.entered e hde hep).listed
  obtain ⟨hanchor, ⟨way, hway⟩, hne⟩ := h.above
  intro hmem
  rw [← hway] at hmem
  rcases List.mem_append.1 hmem with hmem | hmem
  · exact hd hmem
  · obtain ⟨front, back, rfl⟩ := List.append_of_mem hmem
    -- The path up to the two dots is one of those that are listed.
    let e : Path := ⟨p.anchor, d.names ++ (front ++ [".."]), fun s hs => p.isComponent s (by
      rw [← hway]
      simp only [List.mem_append, List.mem_cons] at hs ⊢
      tauto)⟩
    have hpre : e.names ++ back = p.names := by simp [e, ← hway]
    obtain ⟨place, -, hname⟩ := listed e ⟨hanchor, ⟨_, rfl⟩, by simp [e]⟩ (by
      by_cases hb : back = []
      · left
        exact Path.ext rfl (by simpa [hb] using hpre)
      · exact .inr ⟨rfl, ⟨back, hpre⟩, fun heq => hb (by simpa [heq] using hpre)⟩)
    have hdots : e.name = ".." := by simp [Path.name, e]
    exact (mem_namesIn.1 hname).2.2 hdots

end Discovery

theorem mem_discover {fs : FileSystem} {roots : List Path} {filters : List (Path × IgnoreFilter)}
    {options : IgnoreOptions} {found : Discovery}
    (h : discover fs roots filters options = .ok found) (p : Path) :
    p ∈ found.files ↔ ∃ root ∈ roots, ∃ d f, Discovery.Walks fs filters options root d f ∧
      Discovery.Reaches fs f d p := by
  rw [discover] at h
  obtain ⟨parts, hparts, h⟩ := Except.bind_eq_ok_iff.1 h
  cases h
  obtain ⟨hmem, hall⟩ := Except.mapM_eq_ok hparts
  rw [List.mem_mergeSort, List.mem_eraseDups, Discovery.files_foldl_append]
  simp only [Discovery.empty, List.nil_append, List.mem_flatMap, hmem]
  constructor
  · rintro ⟨part, ⟨root, hroot, hpart⟩, hp⟩
    exact ⟨root, hroot, (Discovery.mem_walkRoot hpart p).1 hp⟩
  · rintro ⟨root, hroot, hp⟩
    obtain ⟨part, hpart⟩ := hall root hroot
    exact ⟨part, ⟨root, hroot, hpart⟩, (Discovery.mem_walkRoot hpart p).2 hp⟩

end CodeAtlas
