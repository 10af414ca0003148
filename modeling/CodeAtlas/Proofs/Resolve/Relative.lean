import CodeAtlas.Proofs.Files.Paths
import CodeAtlas.Proofs.Resolve.Modules

/-!
# Names relative to a package

The rule of the language: a file's own package is the directory that it lies in, and a name with
dots before it is taken from there, each dot but the first going one directory outwards
(`relativeName?`). `NameTable.ImportsFrom` says that the names in a file are read by that rule from
a given package, and a file is read so from one package only (`NameTable.ImportsFrom.unique`).

The table knows the name of a file's module and not the directory. It leaves out the last part of
the name unless the text of the path ends in `__init__.py`, so it reads a file by the rule from its
`Path.readPackage`. That is the directory exactly if this ending tells the files that stand for
their directory (`NameTable.importsFrom_directory_iff`).
-/

namespace CodeAtlas

/-! ## The rule -/

def hint (dots : Nat) (remainder : String) : String :=
  String.ofList (List.replicate dots '.' ++ remainder.toList)

/-- What stands behind the dots of a relative name: it has none of its own in front, and is no
path. -/
structure IsRemainder (r : String) : Prop where
  noDot : r.startsWith "." = false
  noSlash : '/' ∉ r.toList

/-- What a remainder behind dots stands for in a package: each dot but the first drops a level.
There is no such module if the levels do not suffice or nothing remains. -/
def relativeName? (package : List String) (dots : Nat) (remainder : String) : Option String :=
  let parts := package.take (package.length + 1 - dots) ++
    if remainder = "" then [] else [remainder]
  if package.length + 1 < dots ∨ parts = [] then none else some (".".intercalate parts)

theorem hint_toList (k : Nat) (r : String) :
    (hint k r).toList = List.replicate k '.' ++ r.toList :=
  String.toList_ofList

section Hint

variable {k : Nat} {r : String}

theorem takeWhile_hint (hr : IsRemainder r) :
    (hint k r).toList.takeWhile (· = '.') = List.replicate k '.' := by
  rw [hint_toList, List.takeWhile_append_of_pos (by simp)]
  have hhead : r.toList.head? ≠ some '.' := by
    rw [Ne, ← ModuleTable.startsWith_dot_iff, hr.noDot]
    decide
  cases h : r.toList with
  | nil => simp
  | cons c cs =>
    have hc : c ≠ '.' := by
      rintro rfl
      exact hhead (by rw [h]; rfl)
    simp [hc]

theorem dropWhile_hint (hr : IsRemainder r) :
    (hint k r).toList.dropWhile (· = '.') = r.toList := by
  have h := List.takeWhile_append_dropWhile (p := fun c : Char => decide (c = '.'))
    (l := (hint k r).toList)
  rw [takeWhile_hint hr] at h
  exact List.append_cancel_left (h.trans (hint_toList k r))

theorem startsWith_hint (hk : 0 < k) : (hint k r).startsWith "." = true := by
  obtain ⟨k, rfl⟩ := Nat.exists_eq_succ_of_ne_zero (Nat.ne_of_gt hk)
  rw [ModuleTable.startsWith_dot_iff, hint_toList]
  rfl

theorem slash_notMem_hint (hr : IsRemainder r) : '/' ∉ (hint k r).toList := by
  rw [hint_toList, List.mem_append]
  rintro (h | h)
  · exact absurd (List.eq_of_mem_replicate h) (by decide)
  · exact hr.noSlash h

end Hint

/-- Parts without dots are what lies between the dots of a name. -/
theorem splitOn_dots {parts : List String} (hne : parts ≠ []) (h : ∀ s ∈ parts, '.' ∉ s.toList) :
    Text.splitOn '.' (".".intercalate parts).toList = parts.map String.toList := by
  rw [Text.splitOn_eq, String.toList_intercalate]
  refine List.splitOn_intercalate '.' ?_ (by simpa using hne)
  intro l hl
  obtain ⟨s, hs, rfl⟩ := List.mem_map.1 hl
  exact h s hs

theorem mem_of_relativeName? {package : List String} {k : Nat} {r m : String} {c : Char}
    (h : relativeName? package k r = some m) (hc : c ∈ m.toList) :
    c = '.' ∨ (∃ s ∈ package, c ∈ s.toList) ∨ c ∈ r.toList := by
  rw [relativeName?, Option.ite_none_left_eq_some, Option.some.injEq] at h
  obtain ⟨-, rfl⟩ := h
  rw [String.toList_intercalate] at hc
  rcases mem_intercalate_singleton hc with hc | ⟨l, hl, hc⟩
  · exact .inl hc
  · obtain ⟨s, hs, rfl⟩ := List.mem_map.1 hl
    rcases List.mem_append.1 hs with hs | hs
    · exact .inr (.inl ⟨s, List.mem_of_mem_take hs, hc⟩)
    · split at hs
      · cases hs
      · exact .inr (.inr (List.mem_singleton.1 hs ▸ hc))

theorem relativeName?_one (package : List String) {r : String} (hr : r ≠ "") :
    relativeName? package 1 r = some (".".intercalate (package ++ [r])) := by
  simp [relativeName?, hr]

/-- Going outwards by the parts of a name is the rule. -/
theorem ModuleTable.outward?_map {package : List String} (hp : ∀ s ∈ package, s ≠ "") {k : Nat}
    (hk : 0 < k) (r : String) :
    outward? (package.map String.toList) k r.toList = relativeName? package k r := by
  have hlevels : package.length - (k - 1) = package.length + 1 - k := by omega
  have hparts : ((package.map String.toList).take (package.length - (k - 1)) ++
      [r.toList]).filter (· ≠ []) =
        (package.take (package.length + 1 - k) ++ if r = "" then [] else [r]).map
          String.toList := by
    rw [List.filter_append, List.map_append, hlevels, ← List.map_take]
    congr 1
    · refine List.filter_eq_self.2 fun l hl => ?_
      obtain ⟨s, hs, rfl⟩ := List.mem_map.1 hl
      simpa using hp s (List.mem_of_mem_take hs)
    · by_cases hr : r = "" <;> simp [hr]
  rw [outward?, relativeName?, List.length_map, hparts]
  by_cases hdeep : package.length + 1 < k
  · simp [hdeep]
  · simp only [hdeep, if_false, false_or, List.map_eq_nil_iff, List.map_map]
    congr 3
    simp [Function.comp_def]

/-! ## The package of a file -/

namespace Path

/-- The package from which the names in a file are read. -/
def readPackage (rel : Path) (file : String) : List String :=
  if file.endsWith "__init__.py" then rel.moduleParts else rel.moduleParts.dropLast

theorem packageOf_map (rel : Path) (file : String) :
    ModuleTable.packageOf file (rel.moduleParts.map String.toList) =
      (rel.readPackage file).map String.toList := by
  rw [ModuleTable.packageOf, readPackage]
  split
  · rfl
  · exact (List.map_dropLast ..).symm

theorem mem_of_mem_readPackage {rel : Path} {file s : String} (h : s ∈ rel.readPackage file) :
    s ∈ rel.moduleParts := by
  rw [readPackage] at h
  split at h
  · exact h
  · exact List.dropLast_subset _ h

/-- The package that is read is the directory exactly if the ending of the file's text tells whether
the file stands for its directory. -/
theorem readPackage_eq_iff {rel : Path} (ha : rel.anchor = .relative) (hne : rel.moduleParts ≠ [])
    (file : String) :
    rel.readPackage file = rel.parent.names ↔
      (file.endsWith "__init__.py" = true ↔ rel.stem = "__init__") := by
  rw [readPackage]
  rw [moduleParts_of_relative ha] at hne ⊢
  by_cases hstem : rel.stem = "__init__"
  · simp only [hstem, if_true, List.append_nil, iff_true] at hne ⊢
    split
    · next hfile => simp [hfile]
    · next hfile =>
      refine iff_of_false (fun h => hne ?_) hfile
      have hlength := congrArg List.length h
      rw [List.length_dropLast] at hlength
      exact List.eq_nil_of_length_eq_zero (by omega)
  · simp only [hstem, if_false, iff_false]
    split
    · next hfile => simp [hfile]
    · next hfile => simp [hfile]

end Path

namespace NameTable

/-- The names in a file are read by the rule, from a package. -/
structure ImportsFrom (t : NameTable) (file : String) (package : List String) : Prop where
  name : ∀ {k : Nat} {r : String}, 0 < k → IsRemainder r →
    t.modules.absoluteName? (hint k r) file = relativeName? package k r
  moduleFile : ∀ {k : Nat} {r : String}, 0 < k → IsRemainder r → ∀ f : String,
    t.moduleFile? (hint k r) file = (relativeName? package k r).bind (t.moduleFile? · f)

/-- There is one package from which the names in a file are read. -/
theorem ImportsFrom.unique {t : NameTable} {file : String} {p q : List String}
    (hp : ∀ s ∈ p, '.' ∉ s.toList) (hq : ∀ s ∈ q, '.' ∉ s.toList)
    (h : t.ImportsFrom file p) (h' : t.ImportsFrom file q) : p = q := by
  have hx : IsRemainder "x" := ⟨by decide +kernel, by decide⟩
  have hsplit : ∀ {l : List String}, (∀ s ∈ l, '.' ∉ s.toList) →
      Text.splitOn '.' (".".intercalate (l ++ ["x"])).toList = (l ++ ["x"]).map String.toList := by
    intro l hl
    refine splitOn_dots (by simp) fun s hs => ?_
    rcases List.mem_append.1 hs with hs | hs
    · exact hl s hs
    · rw [List.mem_singleton.1 hs]
      decide
  -- The name of a module `x` of the package shows the package.
  have hname : relativeName? p 1 "x" = relativeName? q 1 "x" :=
    (h.name Nat.one_pos hx).symm.trans (h'.name Nat.one_pos hx)
  rw [relativeName?_one p (by decide), relativeName?_one q (by decide), Option.some.injEq] at hname
  have hparts : (p ++ ["x"]).map String.toList = (q ++ ["x"]).map String.toList := by
    rw [← hsplit hp, hname, hsplit hq]
  exact List.append_cancel_right
    (List.map_injective_iff.2 (fun _ _ => String.toList_inj.1) hparts)

variable {es : List Entry}

/-- The names in a file are read by the rule, from the package that the table takes for its own. -/
theorem importsFrom_readPackage (roots : List Path) {e : Entry} (he : e ∈ es) {rel : Path}
    (hrel : roots.findSome? (Path.ofText e.path).relativeTo? = some rel) {m : String}
    (hm : rel.moduleName? = some m) (hplain : ∀ s ∈ rel.moduleParts, '.' ∉ s.toList) :
    (ofEntries roots es).ImportsFrom e.path (rel.readPackage e.path) := by
  obtain ⟨dir, -, hdir⟩ := List.exists_of_findSome?_eq_some hrel
  obtain ⟨hsuffix, hne, hmparts⟩ := Path.moduleName?_eq_some_iff.1 hm
  have hparts : ∀ s ∈ rel.readPackage e.path, s ≠ "" ∧ '/' ∉ s.toList := fun s hs =>
    Path.plain_of_mem_moduleParts (Path.anchor_of_relativeTo? hdir) hsuffix
      (Path.mem_of_mem_readPackage hs)
  have hknown : (ofEntries roots es).modules.names.find? e.path = some m := by
    rw [find?_moduleNames_ofEntries, if_pos ⟨e, he, rfl⟩]
    exact ModuleTable.moduleOf?_eq_some_iff.2 ⟨rel, hrel, hm⟩
  have hname : ∀ {k : Nat} {r : String}, 0 < k → IsRemainder r →
      (ofEntries roots es).modules.absoluteName? (hint k r) e.path =
        relativeName? (rel.readPackage e.path) k r := by
    intro k r hk hr
    rw [ModuleTable.absoluteName?_eq, hknown, Option.bind_some, takeWhile_hint hr,
      dropWhile_hint hr, List.length_replicate, hmparts, splitOn_dots hne hplain,
      Path.packageOf_map, ModuleTable.outward?_map (fun s hs => (hparts s hs).1) hk]
  refine ⟨hname, fun {k r} hk hr f => ?_⟩
  rw [moduleFile?, ModuleTable.file?_of_relative (slash_notMem_hint hr) (startsWith_hint hk),
    hname hk hr]
  refine Option.bind_congr fun m' hm' => (ModuleTable.file?_of_plain ?_ ?_ f).symm
  · intro hslash
    rcases mem_of_relativeName? hm' hslash with h | ⟨s, hs, h⟩ | h
    · exact absurd h (by decide)
    · exact (hparts s hs).2 h
    · exact hr.noSlash h
  · exact ModuleTable.startsWith_of_absoluteName? ((hname hk hr).trans hm')

/-- Where no component has dots, the names in a file are read by the rule from its directory
exactly if the text of its path ends in `__init__.py` just when the file stands for the
directory. -/
theorem importsFrom_directory_iff (roots : List Path) {e : Entry} (he : e ∈ es) {rel : Path}
    (hrel : roots.findSome? (Path.ofText e.path).relativeTo? = some rel) {m : String}
    (hm : rel.moduleName? = some m) (hdirs : ∀ d ∈ rel.parent.names, '.' ∉ d.toList)
    (hstem : '.' ∉ rel.stem.toList) :
    (ofEntries roots es).ImportsFrom e.path rel.parent.names ↔
      (e.path.endsWith "__init__.py" = true ↔ rel.stem = "__init__") := by
  obtain ⟨dir, -, hdir⟩ := List.exists_of_findSome?_eq_some hrel
  obtain ⟨-, hne, -⟩ := Path.moduleName?_eq_some_iff.1 hm
  have ha := Path.anchor_of_relativeTo? hdir
  have hplain : ∀ s ∈ rel.moduleParts, '.' ∉ s.toList := by
    intro s hs
    rw [Path.moduleParts_of_relative ha] at hs
    rcases List.mem_append.1 hs with hs | hs
    · exact hdirs s hs
    · split at hs
      · cases hs
      · rw [List.mem_singleton.1 hs]
        exact hstem
  have hread := importsFrom_readPackage roots he hrel hm hplain
  rw [← Path.readPackage_eq_iff ha hne]
  constructor
  · exact fun h => hread.unique (fun s hs => hplain s (Path.mem_of_mem_readPackage hs)) hdirs h
  · exact fun h => h ▸ hread

/-- A module two directories down: its names are read from the inner one. -/
theorem importsFrom_directory_nested :
    let e : Entry := { path := "/r/a/b/mod.py", language := "python" }
    let roots := [Path.ofText "/r"]
    roots.findSome? (Path.ofText e.path).relativeTo? = some (Path.ofText "a/b/mod.py") ∧
      (Path.ofText "a/b/mod.py").moduleName? = some "a.b.mod" ∧
      (ofEntries roots [e]).ImportsFrom e.path ["a", "b"] := by
  intro e roots
  have hrel : roots.findSome? (Path.ofText e.path).relativeTo? =
      some (Path.ofText "a/b/mod.py") := by decide +kernel
  have hmodule : (Path.ofText "a/b/mod.py").moduleName? = some "a.b.mod" := rfl
  refine ⟨hrel, hmodule, (importsFrom_directory_iff roots List.mem_cons_self hrel hmodule
    (by decide +kernel) (by decide +kernel)).2 ?_⟩
  decide +kernel

/-- A package whose file has the other suffix: a module of the package is looked for outside of
it. -/
theorem windowed_package_misread :
    let entry (path : String) : Entry := { path, language := "python" }
    let roots := [Path.ofText "/r"]
    let es := [entry "/r/pkg/__init__.pyw", entry "/r/pkg/other.py"]
    ModuleTable.moduleOf? roots "/r/pkg/__init__.pyw" = some "pkg" ∧
      relativeName? ["pkg"] 1 "other" = some "pkg.other" ∧
      (ofEntries roots es).moduleFile? "pkg.other" "/r/pkg/__init__.pyw" =
        some "/r/pkg/other.py" ∧
      (ofEntries roots es).modules.absoluteName? (hint 1 "other") "/r/pkg/__init__.pyw" =
        some "other" ∧
      (ofEntries roots es).moduleFile? (hint 1 "other") "/r/pkg/__init__.pyw" = none := by
  intro entry roots es
  have hpackage : ModuleTable.moduleOf? roots "/r/pkg/__init__.pyw" = some "pkg" := rfl
  have hother : ModuleTable.moduleOf? roots "/r/pkg/other.py" = some "pkg.other" := rfl
  have hremainder : IsRemainder "other" := ⟨by decide +kernel, by decide⟩
  have houtside : (Path.ofText "pkg/__init__.pyw").readPackage "/r/pkg/__init__.pyw" = [] := by
    decide +kernel
  have hread : (ofEntries roots es).ImportsFrom "/r/pkg/__init__.pyw" [] := by
    rw [← houtside]
    exact importsFrom_readPackage roots (e := entry "/r/pkg/__init__.pyw") List.mem_cons_self
      (by decide +kernel) rfl (by decide +kernel)
  refine ⟨hpackage, by decide +kernel, ?_, hread.name Nat.one_pos hremainder, ?_⟩
  · refine (moduleFile?_eq_some_iff (by decide) (by decide +kernel)).2 ⟨?_, .inl hother, ?_⟩
    · exact ⟨entry "/r/pkg/other.py", List.mem_cons_of_mem _ List.mem_cons_self, rfl⟩
    · intro e he h
      rcases List.mem_pair.1 he with rfl | rfl
      · exact absurd h (by decide +kernel)
      · exact String.le_refl _
  · refine (hread.moduleFile Nat.one_pos hremainder "/r/main.py").trans
      ((moduleFile?_eq_none_iff (by decide) (by decide +kernel)).2 fun e he => ?_)
    rcases List.mem_pair.1 he with rfl | rfl <;> decide +kernel

end NameTable

end CodeAtlas
