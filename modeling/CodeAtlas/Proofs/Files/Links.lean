import Mathlib
import CodeAtlas.Files.System
import CodeAtlas.Proofs.Files.Paths

/-!
# Following links

`FileSystem.Follows` says where names lead if every link on the way is replaced by what it leads to,
and how many links that are. It is the meaning of `canonicalFrom`: names that can be followed are
replaced by the place that they lead to (`Follows.canonicalFrom`), which runs through no link, so
that a path with such names is resolved (`Follows.resolve`). What leads to a file or a directory can
be followed (`follows_of_locateFrom`), and without loops everything can (`LoopFree.resolve`).
-/

namespace CodeAtlas
namespace FileSystem

variable {fs : FileSystem}

/-- There is no link at the place. -/
def NoLink (fs : FileSystem) (place : List String) : Prop :=
  ∀ target, fs.node? place ≠ some (.link target)

/-- From one place names lead to another one, with so many links replaced on the way. -/
inductive Follows (fs : FileSystem) : Nat → List String → List String → List String → Prop
  | nil {at' : List String} : Follows fs 0 at' [] at'
  | up {n : Nat} {at' rest place : List String} (h : Follows fs n at'.dropLast rest place) :
    Follows fs n at' (".." :: rest) place
  | link {m n : Nat} {at' rest found place : List String} {name : String} {target : Path}
    (hn : name ≠ "..") (hl : fs.node? (at' ++ [name]) = some (.link target))
    (ht : Follows fs m (linkStart at' target) target.names found)
    (h : Follows fs n found rest place) : Follows fs (m + n + 1) at' (name :: rest) place
  | name {n : Nat} {at' rest place : List String} {name : String} (hn : name ≠ "..")
    (hl : fs.NoLink (at' ++ [name])) (h : Follows fs n (at' ++ [name]) rest place) :
    Follows fs n at' (name :: rest) place

/-- No link leads back to itself: all of them can be followed. -/
def LoopFree (fs : FileSystem) : Prop :=
  ∀ at' name target, fs.node? (at' ++ [name]) = some (.link target) →
    ∃ n place, fs.Follows n (linkStart at' target) target.names place

namespace Follows

variable {m n : Nat} {at' names place place' : List String}

/-- Names lead to one place. -/
theorem unique (h : fs.Follows n at' names place) (h' : fs.Follows m at' names place') :
    m = n ∧ place' = place := by
  induction h generalizing m place' with
  | nil =>
    cases h'
    exact ⟨rfl, rfl⟩
  | up _ ih =>
    cases h' with
    | up h' => exact ih h'
    | link hn => exact absurd rfl hn
    | name hn => exact absurd rfl hn
  | link hn hl _ _ iht ih =>
    cases h' with
    | up => exact absurd rfl hn
    | link _ hl' ht' h' =>
      cases hl.symm.trans hl'
      obtain ⟨rfl, rfl⟩ := iht ht'
      obtain ⟨rfl, rfl⟩ := ih h'
      exact ⟨rfl, rfl⟩
    | name _ hl' => exact absurd hl (hl' _)
  | name hn hl _ ih =>
    cases h' with
    | up => exact absurd rfl hn
    | link _ hl' => exact absurd hl' (hl _)
    | name _ _ h' => exact ih h'

/-- Names that can be followed are followed one part after the other. -/
theorem split {front back : List String} (h : fs.Follows n at' (front ++ back) place) :
    ∃ i j found, i + j = n ∧ fs.Follows i at' front found ∧ fs.Follows j found back place := by
  induction front generalizing n at' with
  | nil => exact ⟨0, n, at', Nat.zero_add n, .nil, h⟩
  | cons name front ih =>
    cases h with
    | up h =>
      obtain ⟨i, j, found, hij, hf, hb⟩ := ih h
      exact ⟨i, j, found, hij, .up hf, hb⟩
    | @link k l _ _ _ _ _ _ hn hl ht h =>
      obtain ⟨i, j, found, hij, hf, hb⟩ := ih h
      exact ⟨k + i + 1, j, found, by omega, .link hn hl ht hf, hb⟩
    | name hn hl h =>
      obtain ⟨i, j, found, hij, hf, hb⟩ := ih h
      exact ⟨i, j, found, hij, .name hn hl hf, hb⟩

/-- A name that is no link is followed from where the names before it lead to. -/
theorem concat {name : String} (h : fs.Follows n at' names place) (hn : name ≠ "..")
    (hl : fs.NoLink (place ++ [name])) : fs.Follows n at' (names ++ [name]) (place ++ [name]) := by
  induction h with
  | nil => exact .name hn hl .nil
  | up _ ih => exact .up (ih hl)
  | link hn' hl' ht _ _ ih => exact .link hn' hl' ht (ih hl)
  | name hn' hl' _ ih => exact .name hn' hl' (ih hl)

end Follows

/-- Without loops all names can be followed. -/
theorem LoopFree.follows (H : fs.LoopFree) (at' names : List String) :
    ∃ n place, fs.Follows n at' names place := by
  induction names generalizing at' with
  | nil => exact ⟨0, at', .nil⟩
  | cons name rest ih =>
    by_cases hn : name = ".."
    · obtain ⟨n, place, h⟩ := ih at'.dropLast
      exact ⟨n, place, hn ▸ .up h⟩
    · by_cases hl : fs.NoLink (at' ++ [name])
      · obtain ⟨n, place, h⟩ := ih (at' ++ [name])
        exact ⟨n, place, .name hn hl h⟩
      · obtain ⟨target, hl⟩ := Classical.not_forall_not.1 hl
        obtain ⟨m, found, ht⟩ := H at' name target hl
        obtain ⟨n, place, h⟩ := ih found
        exact ⟨m + n + 1, place, .link hn hl ht h⟩

/-! ## Places without links -/

/-- A place that can be named, and on the way to which there is no link. -/
structure Clean (fs : FileSystem) (place : List String) : Prop where
  isName : ∀ s ∈ place, IsComponent s ∧ s ≠ ".."
  noLink : ∀ front name, front ++ [name] <+: place → fs.NoLink (front ++ [name])

namespace Clean

variable {place : List String}

theorem nil : fs.Clean [] := by
  constructor <;> simp

theorem of_prefix {front : List String} (h : fs.Clean place) (hp : front <+: place) :
    fs.Clean front :=
  ⟨fun s hs => h.isName s (hp.subset hs), fun _ _ h' => h.noLink _ _ (h'.trans hp)⟩

theorem concat {name : String} (h : fs.Clean place) (hc : IsComponent name) (hn : name ≠ "..")
    (hl : fs.NoLink (place ++ [name])) : fs.Clean (place ++ [name]) := by
  constructor
  · intro s hs
    rcases List.mem_append.1 hs with hs | hs
    · exact h.isName s hs
    · rw [List.mem_singleton.1 hs]
      exact ⟨hc, hn⟩
  · intro front last hp
    rcases List.prefix_concat_iff.1 hp with heq | hp
    · exact heq ▸ hl
    · exact h.noLink front last hp

end Clean

theorem Clean.linkStart {place : List String} (h : fs.Clean place) (target : Path) :
    fs.Clean (linkStart place target) := by
  rw [FileSystem.linkStart]
  split
  · exact .nil
  · exact h

/-- Where names lead, there is no link on the way. -/
theorem Follows.clean {n : Nat} {at' names place : List String} (h : fs.Follows n at' names place)
    (hat : fs.Clean at') (hc : ∀ s ∈ names, IsComponent s) : fs.Clean place := by
  induction h with
  | nil => exact hat
  | up _ ih =>
    refine ih (hat.of_prefix (List.dropLast_prefix _)) fun s hs => hc s (List.mem_cons_of_mem _ hs)
  | link _ _ _ _ iht ih =>
    refine ih (iht (hat.linkStart _) (Path.isComponent _)) fun s hs => ?_
    exact hc s (List.mem_cons_of_mem _ hs)
  | name hn hl _ ih =>
    refine ih (hat.concat (hc _ List.mem_cons_self) hn hl) fun s hs => ?_
    exact hc s (List.mem_cons_of_mem _ hs)

/-! ## Replacing links -/

theorem canonicalFrom_up (depth : Nat) (active : List (List String)) (at' rest : List String) :
    fs.canonicalFrom depth active at' (".." :: rest) =
      fs.canonicalFrom depth active at'.dropLast rest := by
  rw [canonicalFrom]

theorem canonicalFrom_name {name : String} (hn : name ≠ "..") (depth : Nat)
    (active : List (List String)) (at' rest : List String) (hl : fs.NoLink (at' ++ [name])) :
    fs.canonicalFrom depth active at' (name :: rest) =
      fs.canonicalFrom depth active (at' ++ [name]) rest := by
  rw [canonicalFrom]
  · split
    · next target h => exact absurd h (hl target)
    · rfl
  · exact hn

theorem canonicalFrom_link {name : String} {target : Path} {found : List String} (hn : name ≠ "..")
    (depth : Nat) {active : List (List String)} {at' : List String} (rest : List String)
    (hl : fs.node? (at' ++ [name]) = some (.link target)) (ha : at' ++ [name] ∉ active)
    (ht : fs.canonicalFrom depth ((at' ++ [name]) :: active) (linkStart at' target) target.names =
      (found, true)) :
    fs.canonicalFrom (depth + 1) active at' (name :: rest) =
      fs.canonicalFrom (depth + 1) active found rest := by
  rw [canonicalFrom]
  · simp only [hl, List.contains_eq_mem, ha, decide_false, Bool.false_eq_true, if_false, ht]
  · exact hn

theorem canonicalFrom_again {name : String} {target : Path} (hn : name ≠ "..") (depth : Nat)
    {active : List (List String)} {at' : List String} (rest : List String)
    (hl : fs.node? (at' ++ [name]) = some (.link target)) (ha : at' ++ [name] ∈ active) :
    fs.canonicalFrom (depth + 1) active at' (name :: rest) = (at' ++ [name] ++ rest, false) := by
  rw [canonicalFrom]
  · simp only [hl, List.contains_eq_mem, ha, decide_true, if_true]
  · exact hn

theorem canonicalFrom_loop {name : String} {target : Path} {found : List String} (hn : name ≠ "..")
    (depth : Nat) {active : List (List String)} {at' : List String} (rest : List String)
    (hl : fs.node? (at' ++ [name]) = some (.link target)) (ha : at' ++ [name] ∉ active)
    (ht : fs.canonicalFrom depth ((at' ++ [name]) :: active) (linkStart at' target) target.names =
      (found, false)) :
    fs.canonicalFrom (depth + 1) active at' (name :: rest) = (found ++ rest, false) := by
  rw [canonicalFrom]
  · simp only [hl, List.contains_eq_mem, ha, decide_false, Bool.false_eq_true, if_false, ht]
  · exact hn

/-- The link at the place leads through so many links. -/
def Through (fs : FileSystem) (place : List String) (n : Nat) : Prop :=
  ∃ at' name target found, place = at' ++ [name] ∧
    fs.node? (at' ++ [name]) = some (.link target) ∧
    fs.Follows n (linkStart at' target) target.names found

theorem Through.unique {m n : Nat} {place : List String} (h : fs.Through place m)
    (h' : fs.Through place n) : n = m := by
  obtain ⟨at₁, name₁, target₁, found₁, rfl, hl₁, ht₁⟩ := h
  obtain ⟨at₂, name₂, target₂, found₂, heq, hl₂, ht₂⟩ := h'
  obtain ⟨rfl, hname⟩ := List.append_inj' heq rfl
  obtain rfl := List.singleton_inj.1 hname
  cases hl₁.symm.trans hl₂
  exact (ht₁.unique ht₂).1

/-- There are no more links than nodes. -/
theorem length_le_size {places : List (List String)} (hn : places.Nodup)
    (h : ∀ place ∈ places, ∃ target, fs.node? place = some (.link target)) :
    places.length ≤ fs.nodes.size := by
  have hsub : places ⊆ fs.nodes.keys := by
    intro place hp
    obtain ⟨target, hl⟩ := h place hp
    rw [node?] at hl
    split at hl
    · cases hl
    · exact Table.mem_keys.2 (by rw [Table.contains, hl]; rfl)
  have hle := (List.subperm_of_subset hn hsub).length_le
  rwa [Table.keys, List.length_map] at hle

/-- The links that are being replaced while names are followed through `n` links: they are told
apart, and each of them leads through at least as many. So none of them is met again, and there
are no more of them than nodes. -/
structure Replacing (fs : FileSystem) (active : List (List String)) (n : Nat) : Prop where
  nodup : active.Nodup
  through : ∀ place ∈ active, ∃ m, fs.Through place m ∧ n ≤ m

namespace Replacing

variable {active : List (List String)} {m n : Nat}

theorem mono (h : fs.Replacing active n) (hle : m ≤ n) : fs.Replacing active m := by
  refine ⟨h.nodup, fun place hp => ?_⟩
  obtain ⟨k, hk, hnk⟩ := h.through place hp
  exact ⟨k, hk, Nat.le_trans hle hnk⟩

theorem not_mem {place : List String} (h : fs.Replacing active n) (hp : fs.Through place m)
    (hlt : m < n) : place ∉ active := by
  intro hmem
  obtain ⟨k, hk, hnk⟩ := h.through place hmem
  obtain rfl := hp.unique hk
  omega

theorem cons {place : List String} (h : fs.Replacing active n) (hp : fs.Through place m)
    (hlt : m < n) : fs.Replacing (place :: active) m := by
  refine ⟨List.nodup_cons.2 ⟨h.not_mem hp hlt, h.nodup⟩, fun q hq => ?_⟩
  rcases List.mem_cons.1 hq with rfl | hq
  · exact ⟨m, hp, Nat.le_refl m⟩
  · exact (h.mono (Nat.le_of_lt hlt)).through q hq

theorem length_le (h : fs.Replacing active n) : active.length ≤ fs.nodes.size := by
  refine length_le_size h.nodup fun place hp => ?_
  obtain ⟨m, ⟨at', name, target, found, rfl, hl, -⟩, -⟩ := h.through place hp
  exact ⟨target, hl⟩

end Replacing

/-- Names that can be followed are replaced by the place that they lead to. -/
theorem Follows.canonicalFrom {n : Nat} {at' names place : List String}
    (h : fs.Follows n at' names place) {depth : Nat} {active : List (List String)}
    (hr : fs.Replacing active n) (hd : fs.nodes.size + 1 ≤ depth + active.length) :
    fs.canonicalFrom depth active at' names = (place, true) := by
  induction h generalizing depth active with
  | nil => rw [FileSystem.canonicalFrom]
  | up _ ih => rw [canonicalFrom_up, ih hr hd]
  | @link i j at' rest found place name target hn hl ht _ iht ih =>
    have hthrough : fs.Through (at' ++ [name]) i := ⟨at', name, target, found, rfl, hl, ht⟩
    have hinner := hr.cons hthrough (by omega)
    have hsize := hinner.length_le
    rw [List.length_cons] at hsize
    -- One more link can be replaced, as there is at least one that is not being replaced.
    obtain ⟨depth, rfl⟩ : ∃ d, depth = d + 1 := ⟨depth - 1, by omega⟩
    rw [canonicalFrom_link hn depth rest hl (hr.not_mem hthrough (by omega)) (iht hinner ?_)]
    · exact ih (hr.mono (by omega)) hd
    · rw [List.length_cons]
      omega
  | name hn hl _ ih => rw [canonicalFrom_name hn _ _ _ _ hl, ih hr hd]

/-! ## Resolved paths -/

theorem normalized_of_plain {anchor : Anchor} {names : List String}
    (hc : ∀ s ∈ names, IsComponent s) (hn : ".." ∉ names) :
    (Path.ofNames anchor names).normalized = ⟨anchor, names, hc⟩ := by
  have hkept : (Path.ofNames anchor names).names = names :=
    List.filter_eq_self.2 fun s hs => by simpa using hc s hs
  have hfold : ∀ (rest done : List String), ".." ∉ rest →
      rest.foldl (Path.normalStep anchor) done = rest.reverse ++ done := by
    intro rest
    induction rest with
    | nil => simp
    | cons s rest ih =>
      intro done hs
      rw [List.mem_cons, not_or] at hs
      have hstep : Path.normalStep anchor done s = s :: done := if_pos (Ne.symm hs.1)
      rw [List.foldl_cons, hstep, ih _ hs.2]
      simp
  refine Path.ext rfl ?_
  rw [Path.normalized, hkept]
  have hfold := hfold names [] hn
  rw [List.append_nil] at hfold
  simp only [Path.ofNames] at hfold ⊢
  rw [hfold, List.reverse_reverse]
  exact List.filter_eq_self.2 fun s hs => by simpa using hc s hs

/-- A path that starts at a root has no two dots left once it is normalised. -/
theorem not_mem_normalized {p : Path} (h : p.isAbsolute = true) :
    ".." ∉ p.normalized.names := by
  have hanchor : p.anchor ≠ .relative := by simpa [Path.isAbsolute] using h
  have hfold : ∀ (names done : List String), ".." ∉ done →
      ".." ∉ names.foldl (Path.normalStep p.anchor) done := by
    intro names
    induction names with
    | nil => exact fun done hd => hd
    | cons s names ih =>
      intro done hd
      refine ih _ ?_
      by_cases hs : s = ".."
      · subst hs
        cases done with
        | nil => simp [Path.normalStep, hanchor]
        | cons t rest =>
          obtain ⟨ht, hrest⟩ := not_or.1 (mt List.mem_cons.2 hd)
          simp [Path.normalStep, Ne.symm ht, hrest]
      · simp [Path.normalStep, hs, hd, Ne.symm hs]
  intro hmem
  have hkept := List.mem_of_mem_filter hmem
  exact hfold p.names [] (by simp) (List.mem_reverse.1 hkept)

/-- A path without two dots is normalised. -/
theorem normalized_eq_self {p : Path} (h : ".." ∉ p.names) : p.normalized = p := by
  have hp : Path.ofNames p.anchor p.names = p :=
    Path.ext rfl (List.filter_eq_self.2 fun s hs => decide_eq_true (p.isComponent s hs))
  have hnormal := @normalized_of_plain p.anchor p.names p.isComponent h
  rwa [hp] at hnormal

/-- A place without links is reached without running into too many. -/
theorem Clean.locateFrom {budget : Nat} {at' names : List String} (h : fs.Clean (at' ++ names))
    (path path' : String) :
    fs.locateFrom path budget at' names ≠ .error (.tooManyLinks path') := by
  induction names generalizing at' with
  | nil =>
    rw [FileSystem.locateFrom]
    simp
  | cons name rest ih =>
    have hlink : fs.NoLink (at' ++ [name]) := by
      refine h.noLink at' name ⟨rest, ?_⟩
      simp
    rw [FileSystem.locateFrom]
    · split
      · simp
      · exact ih (by simpa using h)
      · split <;> simp
      · next target hl => exact absurd hl (hlink target)
    · exact (h.isName name (by simp)).2

theorem fromRoot_absolute {p : Path} (h : p.isAbsolute = true) : fs.fromRoot p = p := by
  rw [fromRoot, Path.join, if_pos h]

/-- The links of a path are replaced by the place that its names lead to. -/
theorem Follows.canonical {n : Nat} {p : Path} {place : List String}
    (h : fs.Follows n [] (fs.fromRoot p).names place) :
    ∃ hc, fs.canonical p = ⟨.root, place, hc⟩ := by
  have hclean := h.clean .nil (Path.isComponent _)
  refine ⟨fun s hs => (hclean.isName s hs).1, ?_⟩
  rw [FileSystem.canonical, h.canonicalFrom ⟨List.nodup_nil, by simp⟩ (by simp)]
  exact normalized_of_plain _ fun hmem => (hclean.isName _ hmem).2 rfl

/-- A path is resolved to the place that its names lead to. -/
theorem Follows.resolve {n : Nat} {p : Path} {place : List String}
    (h : fs.Follows n [] (fs.fromRoot p).names place) :
    ∃ q, fs.resolve p = .ok q ∧ q.anchor = .root ∧ q.names = place := by
  have hclean := h.clean .nil (Path.isComponent _)
  obtain ⟨hc, hcanonical⟩ := h.canonical
  refine ⟨fs.canonical p, ?_, by rw [hcanonical], by rw [hcanonical]⟩
  simp only [FileSystem.resolve, hcanonical]
  split
  · next path hloop =>
    rw [locate, fromRoot_absolute (by simp [Path.isAbsolute])] at hloop
    exact absurd hloop (Clean.locateFrom (by simpa using hclean) _ _)
  · rfl

/-- Without loops every path is resolved. -/
theorem LoopFree.resolve (H : fs.LoopFree) (p : Path) : ∃ q, fs.resolve p = .ok q := by
  obtain ⟨n, place, h⟩ := H.follows [] (fs.fromRoot p).names
  obtain ⟨q, hq, -⟩ := h.resolve
  exact ⟨q, hq⟩

theorem resolve_absolute {p q : Path} (h : fs.resolve p = .ok q) : q.isAbsolute = true := by
  simp only [resolve] at h
  split at h
  · cases h
  · cases h
    rfl

theorem not_mem_resolve {p q : Path} (h : fs.resolve p = .ok q) : ".." ∉ q.names := by
  simp only [resolve] at h
  split at h
  · cases h
  · cases h
    exact not_mem_normalized rfl

theorem Clean.follows {at' names : List String} (h : fs.Clean (at' ++ names)) :
    fs.Follows 0 at' names (at' ++ names) := by
  induction names generalizing at' with
  | nil => simpa using Follows.nil
  | cons name rest ih =>
    have hlink : fs.NoLink (at' ++ [name]) := h.noLink at' name ⟨rest, by simp⟩
    have hclean : fs.Clean ((at' ++ [name]) ++ rest) := by simpa using h
    have hrest : fs.Follows 0 (at' ++ [name]) rest (at' ++ name :: rest) := by
      simpa using ih hclean
    exact .name (h.isName name (by simp)).2 hlink hrest

/-- What a path is resolved to can be resolved again. -/
theorem Follows.resolve_again {n : Nat} {p : Path} {place : List String}
    (h : fs.Follows n [] (fs.fromRoot p).names place) :
    ∃ q r, fs.resolve p = .ok q ∧ fs.resolve q = .ok r := by
  obtain ⟨q, hq, hanchor, hnames⟩ := h.resolve
  have hclean : fs.Clean ([] ++ place) := h.clean .nil (Path.isComponent _)
  have hagain : fs.Follows 0 [] (fs.fromRoot q).names ([] ++ place) := by
    rw [fromRoot_absolute (resolve_absolute hq), hnames]
    exact hclean.follows
  obtain ⟨r, hr, -⟩ := hagain.resolve
  exact ⟨q, r, hq, hr⟩

/-! ## Paths that lead somewhere -/

section Steps

variable (path : String) (budget : Nat) (at' rest : List String) {name : String}

theorem locateFrom_nil : fs.locateFrom path budget at' [] = .ok at' := by
  rw [FileSystem.locateFrom]

theorem locateFrom_up :
    fs.locateFrom path budget at' (".." :: rest) = fs.locateFrom path budget at'.dropLast rest := by
  rw [FileSystem.locateFrom]

theorem locateFrom_directory (hn : name ≠ "..") (h : fs.node? (at' ++ [name]) = some .directory) :
    fs.locateFrom path budget at' (name :: rest) =
      fs.locateFrom path budget (at' ++ [name]) rest := by
  rw [FileSystem.locateFrom]
  · simp only [h]
  · exact hn

theorem locateFrom_file (hn : name ≠ "..") {bytes : List UInt8}
    (h : fs.node? (at' ++ [name]) = some (.file bytes)) :
    fs.locateFrom path budget at' (name :: rest) =
      if rest.isEmpty then .ok (at' ++ [name]) else .error (.notDirectory path) := by
  rw [FileSystem.locateFrom]
  · simp only [h]
  · exact hn

theorem locateFrom_exhausted (hn : name ≠ "..") {target : Path}
    (h : fs.node? (at' ++ [name]) = some (.link target)) :
    fs.locateFrom path 0 at' (name :: rest) = .error (.tooManyLinks path) := by
  rw [FileSystem.locateFrom]
  · simp only [h]
  · exact hn

theorem locateFrom_link (hn : name ≠ "..") {target : Path}
    (h : fs.node? (at' ++ [name]) = some (.link target)) :
    fs.locateFrom path (budget + 1) at' (name :: rest) =
      fs.locateFrom path budget (linkStart at' target) (target.names ++ rest) := by
  rw [FileSystem.locateFrom]
  · simp only [h]
  · exact hn

end Steps

/-- What is found behind names can be followed. -/
theorem follows_of_locateFrom {path : String} {budget : Nat} {at' names place : List String}
    (h : fs.locateFrom path budget at' names = .ok place) :
    ∃ n, fs.Follows n at' names place := by
  fun_induction FileSystem.locateFrom fs path budget at' names with
  | case1 =>
    cases h
    exact ⟨0, .nil⟩
  | case2 _ _ _ ih =>
    obtain ⟨n, h⟩ := ih h
    exact ⟨n, .up h⟩
  | case4 _ _ name rest hn here hd ih =>
    obtain ⟨n, h⟩ := ih h
    exact ⟨n, .name hn (by simp [NoLink, here, hd]) h⟩
  | case5 _ _ name rest hn here bytes hd hrest =>
    obtain rfl : here = place := Except.ok.inj h
    obtain rfl := List.isEmpty_iff.1 hrest
    exact ⟨0, .name hn (by simp [NoLink, here, hd]) .nil⟩
  | case8 at' name rest hn here target hl budget ih =>
    obtain ⟨n, h⟩ := ih h
    obtain ⟨i, j, found, -, ht, h⟩ := h.split
    exact ⟨i + j + 1, .link hn hl ht h⟩
  | case3 | case6 | case7 => cases h

theorem isDirectory_iff {p : Path} : fs.isDirectory p = true ↔
    ∃ place, fs.locate p = .ok place ∧ fs.node? place = some .directory := by
  rw [isDirectory, target?]
  cases fs.locate p with
  | error e => simp
  | ok place => cases h : fs.node? place with
    | none => simp [h]
    | some node => cases node <;> simp [h]

/-- A path that leads to a directory is resolved. -/
theorem resolve_of_isDirectory {p : Path} (h : fs.isDirectory p = true) :
    ∃ q, fs.resolve p = .ok q := by
  obtain ⟨place, hplace, -⟩ := isDirectory_iff.1 h
  obtain ⟨n, hf⟩ := follows_of_locateFrom hplace
  obtain ⟨q, hq, -⟩ := hf.resolve
  exact ⟨q, hq⟩

theorem follows_of_isFile {p : Path} (h : fs.isFile p = true) :
    ∃ n place, fs.Follows n [] (fs.fromRoot p).names place := by
  rw [isFile, target?] at h
  cases hl : fs.locate p with
  | error e => simp [hl] at h
  | ok place =>
    obtain ⟨n, hf⟩ := follows_of_locateFrom hl
    exact ⟨n, place, hf⟩

/-- What follows the names that lead to a directory is followed from there. -/
theorem locateFrom_append {path : String} {budget : Nat} {at' names place : List String}
    (h : fs.locateFrom path budget at' names = .ok place) (hd : fs.node? place = some .directory) :
    ∃ left, ∀ path' rest, fs.locateFrom path' budget at' (names ++ rest) =
      fs.locateFrom path' left place rest := by
  fun_induction FileSystem.locateFrom fs path budget at' names with
  | case1 budget at' =>
    cases h
    exact ⟨budget, fun _ _ => rfl⟩
  | case2 _ at' rest ih =>
    obtain ⟨left, hleft⟩ := ih h
    refine ⟨left, fun path' rest' => ?_⟩
    rw [List.cons_append, locateFrom_up, hleft]
  | case4 _ _ name rest hn here hdir ih =>
    obtain ⟨left, hleft⟩ := ih h
    refine ⟨left, fun path' rest' => ?_⟩
    rw [List.cons_append, locateFrom_directory _ _ _ _ hn hdir, hleft]
  | case5 _ _ name rest hn here bytes hfile hrest =>
    obtain rfl : here = place := Except.ok.inj h
    rw [hfile] at hd
    cases hd
  | case8 at' name rest hn here target hl budget ih =>
    obtain ⟨left, hleft⟩ := ih h
    refine ⟨left, fun path' rest' => ?_⟩
    rw [List.cons_append, locateFrom_link _ _ _ _ hn hl, ← List.append_assoc, hleft]
  | case3 | case6 | case7 => cases h

end FileSystem
end CodeAtlas
