import CodeAtlas.Proofs.Resolve.Targets

/-!
# Which file a module is found in

`ModuleTable.moduleOf?` is the module that a file provides, and a file is entered under that name
and, behind a directory of sources, under the rest of it (`ModuleTable.Provides`). Files are entered
in the order of their paths, and a name that has a file keeps it: so what is found is the first of
the files that are entered under a name (`NameTable.moduleFile?_eq_some_iff`).

The file that provides a module is therefore found, unless a file behind a directory of sources goes
by the same name and comes before it, or the name is read as a relative one
(`NameTable.moduleFile?_own_iff`).
-/

namespace CodeAtlas

/-! ## Names of modules -/

theorem mem_intercalate_singleton {α : Type} {sep a : α} {ls : List (List α)}
    (h : a ∈ [sep].intercalate ls) : a = sep ∨ ∃ l ∈ ls, a ∈ l := by
  induction ls with
  | nil => cases h
  | cons l ls ih =>
    cases ls with
    | nil => exact .inr ⟨l, List.mem_cons_self, by simpa using h⟩
    | cons l' ls =>
      rw [List.intercalate_cons_cons, List.mem_append, List.mem_append, List.mem_singleton] at h
      rcases h with (h | h) | h
      · exact .inr ⟨l, List.mem_cons_self, h⟩
      · exact .inl h
      · exact (ih h).imp_right fun ⟨k, hk, ha⟩ => ⟨k, List.mem_cons_of_mem _ hk, ha⟩

namespace Path

/-- The components that a module is named by. -/
def moduleParts (p : Path) : List String :=
  p.parent.components ++ if p.stem = "__init__" then [] else [p.stem]

theorem moduleName?_eq_some_iff {p : Path} {m : String} :
    p.moduleName? = some m ↔
      (p.suffix = ".py" ∨ p.suffix = ".pyw") ∧ p.moduleParts ≠ [] ∧
        m = ".".intercalate p.moduleParts := by
  rw [moduleName?]
  split
  · next h =>
    change (if p.moduleParts.isEmpty then none else some (".".intercalate p.moduleParts)) = _ ↔ _
    by_cases hp : p.moduleParts = []
    · simp [hp]
    · rw [if_neg (by simpa using hp), Option.some.injEq, eq_comm]
      exact ⟨fun hm => ⟨h, hp, hm⟩, fun hm => hm.2.2⟩
  · next h => simp [h]

/-- A component that has a suffix has something before it. -/
theorem stem_ne_of_suffix {p : Path} (h : p.suffix ≠ "") : p.stem ≠ "" := by
  rw [suffix, splitSuffix] at h
  rw [stem, splitSuffix]
  split at h
  · exact absurd rfl h
  · next hc =>
    rw [if_neg hc]
    obtain ⟨-, hlt⟩ := not_or.1 hc
    intro he
    have hlen := congrArg (fun s => s.toList.length) he
    simp only [String.toList_ofList, List.length_take, String.toList_empty, List.length_nil] at hlen
    omega

theorem mem_name_of_mem_stem {p : Path} {c : Char} (h : c ∈ p.stem.toList) :
    c ∈ p.name.toList := by
  rw [stem, splitSuffix] at h
  split at h
  · exact h
  · rw [String.toList_ofList] at h
    exact List.mem_of_mem_take h

theorem slash_notMem_name (p : Path) : '/' ∉ p.name.toList := by
  rw [name]
  cases h : p.names.getLast? with
  | none => decide
  | some s => exact (p.isComponent s (List.mem_of_getLast? h)).2.2

/-- What is found relative to a directory is a relative path. -/
theorem anchor_of_relativeTo? {p dir rel : Path} (h : p.relativeTo? dir = some rel) :
    rel.anchor = .relative := by
  rw [relativeTo?] at h
  split at h
  · rw [← Option.some.inj h]
  · cases h

/-- Below a directory a module is named by the directories and, unless it stands for the last of
them, by itself. -/
theorem moduleParts_of_relative {p : Path} (ha : p.anchor = .relative) :
    p.moduleParts = p.parent.names ++ if p.stem = "__init__" then [] else [p.stem] := by
  rw [moduleParts, components, parent, ha]
  rfl

/-- What a module is named by is not empty and holds no slash. -/
theorem plain_of_mem_moduleParts {p : Path} (ha : p.anchor = .relative)
    (hsuffix : p.suffix = ".py" ∨ p.suffix = ".pyw") {s : String} (h : s ∈ p.moduleParts) :
    s ≠ "" ∧ '/' ∉ s.toList := by
  rw [moduleParts_of_relative ha] at h
  rcases List.mem_append.1 h with h | h
  · have hc := p.parent.isComponent s h
    exact ⟨hc.1, hc.2.2⟩
  · split at h
    · cases h
    · obtain rfl := List.mem_singleton.1 h
      refine ⟨stem_ne_of_suffix ?_, fun hs => slash_notMem_name p (mem_name_of_mem_stem hs)⟩
      rcases hsuffix with h | h <;> rw [h] <;> decide

end Path

namespace ModuleTable

/-- The module that a file provides, by its path below the first root that contains it. -/
def moduleOf? (roots : List Path) (file : String) : Option String :=
  (roots.findSome? (Path.ofText file).relativeTo?).bind Path.moduleName?

/-- The file is entered under the name: it is that of the module, or what follows a directory of
sources in it. -/
def Provides (roots : List Path) (name file : String) : Prop :=
  moduleOf? roots file = some name ∨ (moduleOf? roots file).bind shortName? = some name

instance (roots : List Path) (name file : String) : Decidable (Provides roots name file) := by
  unfold Provides
  infer_instance

variable {roots : List Path}

theorem moduleOf?_eq_some_iff {file m : String} : moduleOf? roots file = some m ↔
    ∃ rel, roots.findSome? (Path.ofText file).relativeTo? = some rel ∧ rel.moduleName? = some m :=
  Option.bind_eq_some_iff

theorem plain_of_moduleOf? {file m : String} (h : moduleOf? roots file = some m) :
    m ≠ "" ∧ '/' ∉ m.toList := by
  obtain ⟨rel, hrel, hm⟩ := moduleOf?_eq_some_iff.1 h
  obtain ⟨dir, -, hdir⟩ := List.exists_of_findSome?_eq_some hrel
  obtain ⟨hsuffix, hne, rfl⟩ := Path.moduleName?_eq_some_iff.1 hm
  have hparts : ∀ s ∈ rel.moduleParts, s ≠ "" ∧ '/' ∉ s.toList := fun s =>
    Path.plain_of_mem_moduleParts (Path.anchor_of_relativeTo? hdir) hsuffix
  constructor
  · obtain ⟨s, rest, hs⟩ := List.exists_cons_of_ne_nil hne
    rw [hs] at hparts ⊢
    cases rest with
    | nil => simpa using (hparts s List.mem_cons_self).1
    | cons s' rest =>
      rw [String.intercalate_cons_cons]
      simp [(hparts s List.mem_cons_self).1]
  · intro hslash
    rw [String.toList_intercalate] at hslash
    rcases mem_intercalate_singleton hslash with h | ⟨l, hl, h⟩
    · exact absurd h (by decide)
    · obtain ⟨s, hs, rfl⟩ := List.mem_map.1 hl
      exact (hparts s hs).2 h

theorem shortName?_eq_some_iff {module short : String} : shortName? module = some short ↔
    short ≠ "" ∧ ∃ d ∈ sourceDirectories, module = d ++ "." ++ short := by
  have hplain : ∀ d ∈ sourceDirectories, '.' ∉ d.toList := by decide
  rw [shortName?]
  constructor
  · intro h
    split at h
    · next head rest hcut =>
      obtain ⟨hmodule, -⟩ := Text.eq_of_cutFirst? hcut
      split at h
      · next hd =>
        obtain ⟨hd, hrest⟩ := Bool.and_eq_true_iff.1 hd
        obtain rfl := Option.some.inj h
        refine ⟨by simpa using hrest, String.ofList head, by simpa using hd, ?_⟩
        rw [← String.toList_inj, hmodule]
        simp
      · cases h
    · cases h
  · rintro ⟨hne, d, hd, rfl⟩
    have hcut : Text.cutFirst? '.' (d ++ "." ++ short).toList = some (d.toList, short.toList) := by
      rw [String.toList_append, String.toList_append, List.append_assoc]
      exact Text.cutFirst?_append (hplain d hd) short.toList
    rw [hcut]
    simp [hd, hne]

/-! ## Entering files -/

variable {t : ModuleTable}

theorem add_eq (t : ModuleTable) (file : String) :
    t.add roots file = match moduleOf? roots file with
      | none => t
      | some module =>
        { files := match shortName? module with
            | some short => (t.files.insertIfNew module file).insertIfNew short file
            | none => t.files.insertIfNew module file
          names := t.names.insertIfNew file module } := rfl

theorem find?_files_add (t : ModuleTable) (file m : String) : (add roots t file).files.find? m =
    (t.files.find? m).or (if Provides roots m file then some file else none) := by
  rw [add_eq]
  cases hm : moduleOf? roots file with
  | none => simp [Provides, hm]
  | some module =>
    have hprovides : Provides roots m file ↔ m = module ∨ shortName? module = some m := by
      simp [Provides, hm, eq_comm]
    simp only [hprovides]
    cases shortName? module with
    | none => simp [Table.find?_insertIfNew]
    | some short =>
      simp only [Table.find?_insertIfNew, Option.or_assoc, Option.some.injEq]
      congr 1
      by_cases h : m = module
      · simp [h]
      · by_cases hs : m = short
        · subst hs
          simp [h]
        · simp [h, hs, Ne.symm hs]

theorem find?_names_add (t : ModuleTable) (file f : String) : (add roots t file).names.find? f =
    (t.names.find? f).or (if f = file then moduleOf? roots file else none) := by
  rw [add_eq]
  cases moduleOf? roots file with
  | none => simp
  | some module => exact Table.find?_insertIfNew ..

/-- Under a name the first of the files is found that are entered under it. -/
theorem find?_files_addAll (t : ModuleTable) (files : List String) (m : String) :
    (files.foldl (add roots) t).files.find? m =
      (t.files.find? m).or (files.find? fun f => Provides roots m f) := by
  induction files generalizing t with
  | nil => simp
  | cons f files ih =>
    rw [List.foldl_cons, ih, find?_files_add, Option.or_assoc, List.find?_cons]
    congr 1
    by_cases h : Provides roots m f <;> simp [h]

theorem find?_names_addAll (t : ModuleTable) (files : List String) (f : String) :
    (files.foldl (add roots) t).names.find? f =
      (t.names.find? f).or (if f ∈ files then moduleOf? roots f else none) := by
  induction files generalizing t with
  | nil => simp
  | cons x files ih =>
    rw [List.foldl_cons, ih, find?_names_add, Option.or_assoc]
    congr 1
    by_cases h : f = x
    · subst h
      by_cases hf : f ∈ files <;> simp [hf]
    · simp [h]

/-! ## Reading hints -/

theorem startsWith_dot_iff {m : String} : m.startsWith "." = true ↔ m.toList.head? = some '.' := by
  rw [String.startsWith_string_iff]
  cases m.toList <;> simp [eq_comm]

/-- A name that is not written as a relative one or as a path is looked up as it is. -/
theorem file?_of_plain {isKnown : String → Bool} {m : String} (hs : '/' ∉ m.toList)
    (hd : m.startsWith "." = false) (f : String) : t.file? isKnown m f = t.files.find? m := by
  rw [file?, if_neg (by simpa using hs), if_neg (by simp [hd])]

theorem file?_of_relative {isKnown : String → Bool} {m : String} (hs : '/' ∉ m.toList)
    (hd : m.startsWith "." = true) (f : String) :
    t.file? isKnown m f = (t.absoluteName? m f).bind t.files.find? := by
  rw [file?, if_neg (by simpa using hs), if_pos hd]

/-! ## Relative names -/

/-- The package that names in a file are relative to, by the components of its module's name. -/
def packageOf (file : String) (parts : List (List Char)) : List (List Char) :=
  if file.endsWith "__init__.py" then parts else parts.dropLast

/-- The name of what is found `dots` packages outwards, the first of them being the package itself,
and behind a remainder. -/
def outward? (package : List (List Char)) (dots : Nat) (remainder : List Char) : Option String :=
  if package.length + 1 < dots then none
  else
    let parts := (package.take (package.length - (dots - 1)) ++ [remainder]).filter (· ≠ [])
    if parts = [] then none else some (".".intercalate (parts.map String.ofList))

theorem absoluteName?_eq (t : ModuleTable) (m file : String) : t.absoluteName? m file =
    (t.names.find? file).bind fun current =>
      outward? (packageOf file (Text.splitOn '.' current.toList))
        (m.toList.takeWhile (· = '.')).length (m.toList.dropWhile (· = '.')) := by
  have hdrop : m.toList.drop (m.toList.takeWhile (· = '.')).length =
      m.toList.dropWhile (· = '.') := by
    have h : (m.toList.takeWhile (· = '.') ++ m.toList.dropWhile (· = '.')).drop
        (m.toList.takeWhile (· = '.')).length = m.toList.dropWhile (· = '.') := List.drop_left
    rwa [List.takeWhile_append_dropWhile] at h
  rw [absoluteName?, hdrop]
  rfl

theorem dot_notMem_packageOf {file : String} {cs p : List Char}
    (h : p ∈ packageOf file (Text.splitOn '.' cs)) : '.' ∉ p := by
  have hsplit : p ∈ Text.splitOn '.' cs := by
    rw [packageOf] at h
    split at h
    · exact h
    · exact List.dropLast_subset _ h
  exact Text.not_mem_of_mem_splitOn hsplit

theorem startsWith_of_outward? {package : List (List Char)} {dots : Nat} {remainder : List Char}
    {m : String} (hp : ∀ p ∈ package, '.' ∉ p) (hr : remainder.head? ≠ some '.')
    (h : outward? package dots remainder = some m) : m.startsWith "." = false := by
  rw [outward?] at h
  split at h
  · cases h
  · dsimp only at h
    split at h
    · cases h
    · next hne =>
      obtain rfl := Option.some.inj h
      obtain ⟨p, rest, hparts⟩ := List.exists_cons_of_ne_nil hne
      obtain ⟨hmem, hpne⟩ := List.mem_filter.1 (hparts ▸ List.mem_cons_self : p ∈ _)
      obtain ⟨c, cs, rfl⟩ := List.exists_cons_of_ne_nil (of_decide_eq_true hpne)
      have hc : c ≠ '.' := by
        rintro rfl
        rcases List.mem_append.1 hmem with hmem | hmem
        · exact hp _ (List.mem_of_mem_take hmem) List.mem_cons_self
        · exact hr (List.mem_singleton.1 hmem ▸ rfl)
      -- The first part is not empty, so the name starts as it does.
      rw [Bool.eq_false_iff, Ne, startsWith_dot_iff, hparts, String.toList_intercalate]
      cases rest <;> simp [hc, List.intercalate_cons_cons]

/-- What a relative name stands for is not written as a relative one. -/
theorem startsWith_of_absoluteName? {m f m' : String} (h : t.absoluteName? m f = some m') :
    m'.startsWith "." = false := by
  rw [absoluteName?_eq] at h
  obtain ⟨current, -, h⟩ := Option.bind_eq_some_iff.1 h
  refine startsWith_of_outward? (fun p => dot_notMem_packageOf) (fun hdot => ?_) h
  have hnot := List.head?_dropWhile_not (· = '.') m.toList
  rw [hdot] at hnot
  cases hnot

end ModuleTable

namespace NameTable

variable {roots : List Path} {es : List Entry}

theorem modules_addSymbols (t : NameTable) (ss : List Symbol) :
    (ss.foldl addSymbol t).modules = t.modules := by
  induction ss generalizing t with
  | nil => rfl
  | cons s ss ih => exact ih _

theorem modules_addEntries (t : NameTable) (es : List Entry) :
    (es.foldl (addEntry roots) t).modules =
      (es.map Entry.path).foldl (ModuleTable.add roots) t.modules := by
  induction es generalizing t with
  | nil => rfl
  | cons e es ih =>
    have hmodules : (t.addEntry roots e).modules = t.modules.add roots e.path := by
      rw [addEntry]
      exact congrArg (ModuleTable.add roots · e.path) (modules_addSymbols _ e.symbols)
    rw [List.foldl_cons, ih, hmodules, List.map_cons, List.foldl_cons]

theorem find?_modules_ofEntries (m : String) : (ofEntries roots es).modules.files.find? m =
    ((inOrder es).map Entry.path).find? fun f => ModuleTable.Provides roots m f := by
  rw [ofEntries_eq, modules_addEntries, ModuleTable.find?_files_addAll]
  rfl

theorem find?_moduleNames_ofEntries (f : String) :
    (ofEntries roots es).modules.names.find? f =
      if ∃ e ∈ es, e.path = f then ModuleTable.moduleOf? roots f else none := by
  rw [ofEntries_eq, modules_addEntries, ModuleTable.find?_names_addAll]
  have hmem : f ∈ (inOrder es).map Entry.path ↔ ∃ e ∈ es, e.path = f := by
    simp [mem_inOrder]
  simp only [hmem]
  rfl

/-- In a sorted list the first element with a property is the least one. -/
theorem find?_eq_some_iff_least {l : List String} (hl : l.Pairwise (· ≤ ·)) {p : String → Bool}
    {a : String} : l.find? p = some a ↔ a ∈ l ∧ p a = true ∧ ∀ b ∈ l, p b = true → a ≤ b := by
  have hleast : ∀ {c : String}, l.find? p = some c → ∀ b ∈ l, p b = true → c ≤ b := by
    intro c hc b hb hpb
    rcases first_of_pairwise hl (by rw [hc]; rfl) hb fun _ => hpb with rfl | h
    · exact String.le_refl _
    · exact h
  constructor
  · exact fun h => ⟨List.mem_of_find?_eq_some h, List.find?_some h, hleast h⟩
  · rintro ⟨hmem, hpa, hle⟩
    obtain ⟨c, hc⟩ := Option.isSome_iff_exists.1 (List.find?_isSome.2 ⟨a, hmem, hpa⟩)
    have hca := hle c (List.mem_of_find?_eq_some hc) (List.find?_some hc)
    rw [hc, String.le_antisymm (hleast hc a hmem hpa) hca]

/-- The file of a module is the first in the order of paths of those that are entered under its
name. -/
theorem moduleFile?_eq_some_iff {m : String} (hs : '/' ∉ m.toList)
    (hd : m.startsWith "." = false) {f p : String} :
    (ofEntries roots es).moduleFile? m f = some p ↔
      (∃ e ∈ es, e.path = p) ∧ ModuleTable.Provides roots m p ∧
        ∀ e ∈ es, ModuleTable.Provides roots m e.path → p ≤ e.path := by
  have hsorted : ((inOrder es).map Entry.path).Pairwise (· ≤ ·) :=
    List.pairwise_map.2 (inOrder_sorted es)
  rw [moduleFile?, ModuleTable.file?_of_plain hs hd, find?_modules_ofEntries,
    find?_eq_some_iff_least hsorted]
  simp [mem_inOrder]

theorem moduleFile?_eq_none_iff {m : String} (hs : '/' ∉ m.toList)
    (hd : m.startsWith "." = false) {f : String} :
    (ofEntries roots es).moduleFile? m f = none ↔
      ∀ e ∈ es, ¬ ModuleTable.Provides roots m e.path := by
  rw [moduleFile?, ModuleTable.file?_of_plain hs hd, find?_modules_ofEntries, List.find?_eq_none]
  simp [mem_inOrder]

/-- A file that is entered under what a relative name stands for is not the one that provides a
module of that relative name. -/
theorem relative_not_own {m f p : String} (hd : m.startsWith "." = true)
    (hp : ModuleTable.moduleOf? roots p = some m) :
    (ofEntries roots es).moduleFile? m f ≠ some p := by
  intro h
  obtain ⟨-, hs⟩ := ModuleTable.plain_of_moduleOf? hp
  rw [moduleFile?, ModuleTable.file?_of_relative hs hd, Option.bind_eq_some_iff] at h
  obtain ⟨m', habs, h⟩ := h
  rw [find?_modules_ofEntries] at h
  have hprovides : ModuleTable.Provides roots m' p := by simpa using List.find?_some h
  rcases hprovides with hown | hshort
  · obtain rfl := Option.some.inj (hp.symm.trans hown)
    rw [ModuleTable.startsWith_of_absoluteName? habs] at hd
    cases hd
  · rw [hp, Option.bind_some, ModuleTable.shortName?_eq_some_iff] at hshort
    obtain ⟨-, d, hmem, rfl⟩ := hshort
    have hletter : ∀ d ∈ sourceDirectories, d.toList ≠ [] ∧ d.toList.head? ≠ some '.' := by decide
    obtain ⟨hne, hhead⟩ := hletter d hmem
    rw [ModuleTable.startsWith_dot_iff, String.toList_append, String.toList_append,
      List.append_assoc, List.head?_append_of_ne_nil _ hne] at hd
    exact hhead hd

/-- The only file that provides a module is found under its name, from whatever file, exactly if the
name is not written as a relative one and no file that has the name behind a directory of sources
comes before it. -/
theorem moduleFile?_own_iff (roots : List Path) {e : Entry} (he : e ∈ es) {m : String}
    (hm : ModuleTable.moduleOf? roots e.path = some m)
    (honly : ∀ e' ∈ es, ModuleTable.moduleOf? roots e'.path = some m → e'.path = e.path)
    (f : String) :
    (ofEntries roots es).moduleFile? m f = some e.path ↔
      m.startsWith "." = false ∧ ∀ e' ∈ es, ∀ d ∈ sourceDirectories,
        ModuleTable.moduleOf? roots e'.path = some (d ++ "." ++ m) → e.path ≤ e'.path := by
  obtain ⟨hne, hs⟩ := ModuleTable.plain_of_moduleOf? hm
  have hshort : ∀ e' : Entry,
      (ModuleTable.moduleOf? roots e'.path).bind ModuleTable.shortName? = some m ↔
        ∃ d ∈ sourceDirectories, ModuleTable.moduleOf? roots e'.path = some (d ++ "." ++ m) := by
    intro e'
    simp only [Option.bind_eq_some_iff, ModuleTable.shortName?_eq_some_iff]
    constructor
    · rintro ⟨module, hmodule, -, d, hd, rfl⟩
      exact ⟨d, hd, hmodule⟩
    · rintro ⟨d, hd, hmodule⟩
      exact ⟨_, hmodule, hne, d, hd, rfl⟩
  by_cases hd : m.startsWith "." = true
  · exact iff_of_false (relative_not_own hd hm) fun h => by simp [hd] at h
  · rw [Bool.not_eq_true] at hd
    rw [moduleFile?_eq_some_iff hs hd]
    constructor
    · rintro ⟨-, -, hfirst⟩
      refine ⟨hd, fun e' he' d hmem hmodule => hfirst e' he' (.inr ?_)⟩
      exact (hshort e').2 ⟨d, hmem, hmodule⟩
    · rintro ⟨-, hfirst⟩
      refine ⟨⟨e, he, rfl⟩, .inl hm, fun e' he' hprovides => ?_⟩
      rcases hprovides with hown | hbehind
      · exact (honly e' he' hown).symm ▸ String.le_refl _
      · obtain ⟨d, hmem, hmodule⟩ := (hshort e').1 hbehind
        exact hfirst e' he' d hmem hmodule

/-- A module of the root and one of the same name among the sources: the former comes first. -/
theorem moduleFile?_own_among_sources :
    let entry (path : String) : Entry := { path, language := "python" }
    let roots := [Path.ofText "/r"]
    let es := [entry "/r/src/app.py", entry "/r/app.py"]
    ModuleTable.moduleOf? roots "/r/src/app.py" = some "src.app" ∧
      ModuleTable.moduleOf? roots "/r/app.py" = some "app" ∧
      (ofEntries roots es).moduleFile? "app" "/r/main.py" = some "/r/app.py" := by
  intro entry roots es
  have hsource : ModuleTable.moduleOf? roots "/r/src/app.py" = some "src.app" := rfl
  have hown : ModuleTable.moduleOf? roots "/r/app.py" = some "app" := rfl
  have hmem : entry "/r/app.py" ∈ es := List.mem_cons_of_mem _ List.mem_cons_self
  refine ⟨hsource, hown, (moduleFile?_own_iff roots hmem hown ?_ "/r/main.py").2 ⟨?_, ?_⟩⟩
  · intro e' he' h
    rcases List.mem_pair.1 he' with rfl | rfl
    · exact absurd (hsource.symm.trans h) (by decide)
    · rfl
  · decide +kernel
  · intro e' he' d hd h
    rcases List.mem_pair.1 he' with rfl | rfl
    · decide +kernel
    · exact String.le_refl _

/-- A file among the libraries takes the name of a module that comes after it. -/
theorem library_shadows_module :
    let entry (path : String) : Entry := { path, language := "python" }
    let roots := [Path.ofText "/r"]
    let es := [entry "/r/lib/zed.py", entry "/r/zed.py"]
    ModuleTable.moduleOf? roots "/r/zed.py" = some "zed" ∧
      (∀ e ∈ es, ModuleTable.moduleOf? roots e.path = some "zed" → e.path = "/r/zed.py") ∧
      (ofEntries roots es).moduleFile? "zed" "/r/main.py" = some "/r/lib/zed.py" := by
  intro entry roots es
  have hlibrary : ModuleTable.moduleOf? roots "/r/lib/zed.py" = some "lib.zed" := rfl
  refine ⟨rfl, ?_, (moduleFile?_eq_some_iff (by decide) (by decide +kernel)).2 ⟨?_, ?_, ?_⟩⟩
  · intro e he h
    rcases List.mem_pair.1 he with rfl | rfl
    · exact absurd (hlibrary.symm.trans h) (by decide)
    · rfl
  · exact ⟨entry "/r/lib/zed.py", List.mem_cons_self, rfl⟩
  · exact .inr rfl
  · intro e he _
    rcases List.mem_pair.1 he with rfl | rfl
    · exact String.le_refl _
    · decide +kernel

end NameTable

end CodeAtlas
