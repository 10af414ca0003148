import CodeAtlas.Extract.Extractor
import CodeAtlas.Extract.Language
import CodeAtlas.Proofs.Files.Paths
import CodeAtlas.Proofs.Resolve.Modules

/-!
# Relative imports of scripts

A relative specifier leads from the directory of the file along its parts, one after the other
(`Path.follow`): that is the directory joined with the specifier and normalised
(`Path.normalized_join`). What is imported is the first file of the project among the
`scriptTargets` of the place that it leads to.

A hint is read as a specifier if it holds a slash. So one dot and two dots alone are not: they are
read as names of modules, relative to a module that no script provides
(`NameTable.moduleFile?_relative_iff`).
-/

namespace CodeAtlas

/-! ## Walking along parts -/

def specifierParts (s : String) : List String := (Text.splitOn '/' s.toList).map String.ofList

namespace Path

/-- The root that an absolute path starts at. -/
def top (p : Path) : Path := ⟨p.anchor, [], List.forall_mem_nil IsComponent⟩

/-- Where one part of a specifier leads to. -/
def step (p : Path) (part : String) : Path :=
  if part = "" ∨ part = "." then p else if part = ".." then p.parent else p.child part

def walk (p : Path) (parts : List String) : Path := parts.foldl step p

/-- Where a relative specifier leads to from a directory. The directory may hold two dots, so it is
itself walked along from the root. -/
def follow (directory : Path) (specifier : String) : Path :=
  directory.top.walk (directory.names ++ specifierParts specifier)

theorem isAbsolute_iff {p : Path} : p.isAbsolute = true ↔ p.anchor ≠ .relative := by
  simp [isAbsolute]

theorem step_eq_self {p : Path} {part : String} (hslash : '/' ∉ part.toList)
    (h : ¬ IsComponent part) : p.step part = p := by
  refine if_pos ?_
  by_contra hne
  obtain ⟨hempty, hdot⟩ := not_or.1 hne
  exact h ⟨hempty, hdot, hslash⟩

@[simp] theorem anchor_step (p : Path) (part : String) : (p.step part).anchor = p.anchor := by
  rw [step]
  split
  · rfl
  · split <;> rfl

/-- Where no two dots are left, a part is taken up as it is in normalising a path. -/
theorem names_step {p : Path} (ha : p.isAbsolute = true) (hp : ".." ∉ p.names) {part : String}
    (h : IsComponent part) :
    (p.step part).names.reverse = normalStep p.anchor p.names.reverse part ∧
      ".." ∉ (p.step part).names := by
  have hplain : ¬ (part = "" ∨ part = ".") := not_or.2 ⟨h.1, h.2.1⟩
  rw [step, if_neg hplain]
  by_cases hup : part = ".."
  · subst hup
    rw [if_pos rfl]
    refine ⟨?_, fun hmem => hp (List.dropLast_subset _ hmem)⟩
    rcases List.eq_nil_or_concat p.names with hnil | ⟨front, last, hconcat⟩
    · simp [parent, normalStep, hnil, isAbsolute_iff.1 ha]
    · have hlast : last ≠ ".." := by
        rintro rfl
        exact hp (by simp [hconcat])
      simp [parent, normalStep, hconcat, hlast]
  · rw [if_neg hup, child_names h]
    simp [normalStep, hup, Ne.symm hup, hp]

theorem names_walk {parts : List String} (hparts : ∀ s ∈ parts, '/' ∉ s.toList) {p : Path}
    (ha : p.isAbsolute = true) (hp : ".." ∉ p.names) :
    (p.walk parts).names.reverse =
      (parts.filter fun s => IsComponent s).foldl (normalStep p.anchor) p.names.reverse := by
  induction parts generalizing p with
  | nil => rfl
  | cons part parts ih =>
    have hrest : ∀ s ∈ parts, '/' ∉ s.toList := fun s hs => hparts s (List.mem_cons_of_mem _ hs)
    rw [walk, List.foldl_cons, ← walk]
    by_cases h : IsComponent part
    · obtain ⟨hnames, hup⟩ := names_step ha hp h
      have habs : (p.step part).isAbsolute = true := by
        rw [isAbsolute_iff, anchor_step]
        exact isAbsolute_iff.1 ha
      rw [ih hrest habs hup, hnames, anchor_step, List.filter_cons_of_pos (by simpa using h),
        List.foldl_cons]
    · rw [step_eq_self (hparts part List.mem_cons_self) h, ih hrest ha hp,
        List.filter_cons_of_neg (by simpa using h)]

@[simp] theorem anchor_walk (p : Path) (parts : List String) :
    (p.walk parts).anchor = p.anchor := by
  induction parts generalizing p with
  | nil => rfl
  | cons part parts ih => exact (ih _).trans (anchor_step p part)

theorem isAbsolute_follow {directory : Path} (ha : directory.isAbsolute = true)
    (specifier : String) : (directory.follow specifier).isAbsolute = true := by
  rw [isAbsolute_iff, follow, anchor_walk]
  exact isAbsolute_iff.1 ha

theorem slash_notMem_specifierParts {s part : String} (h : part ∈ specifierParts s) :
    '/' ∉ part.toList := by
  obtain ⟨cs, hcs, rfl⟩ := List.mem_map.1 h
  rw [String.toList_ofList]
  exact Text.not_mem_of_mem_splitOn hcs

/-- A specifier leads to what its join with the directory is when normalised. -/
theorem normalized_join {directory : Path} (ha : directory.isAbsolute = true) {specifier : String}
    (hs : anchorOf specifier.toList = .relative) :
    (directory.join (ofText specifier)).normalized = directory.follow specifier := by
  have hrelative : ¬ (ofText specifier).isAbsolute = true := by
    rw [isAbsolute_iff]
    exact fun h => h hs
  have hslash : ∀ s ∈ directory.names ++ specifierParts specifier, '/' ∉ s.toList := by
    intro s hmem
    rcases List.mem_append.1 hmem with hmem | hmem
    · exact (directory.isComponent s hmem).2.2
    · exact slash_notMem_specifierParts hmem
  have hkept : (directory.names ++ specifierParts specifier).filter (fun s => IsComponent s) =
      directory.names ++ (ofText specifier).names := by
    rw [List.filter_append]
    congr 1
    exact List.filter_eq_self.2 fun s h => decide_eq_true (directory.isComponent s h)
  have hnames := names_walk hslash (p := directory.top) ha (by simp [top])
  rw [hkept, ← follow, ← List.reverse_inj, List.reverse_reverse] at hnames
  have hfold : (directory.join (ofText specifier)).normalized =
      ofNames directory.anchor ((directory.names ++ (ofText specifier).names).foldl
        (normalStep directory.anchor) []).reverse := by
    rw [join, if_neg hrelative, normalized]
  have hanchor : (directory.follow specifier).anchor = directory.anchor := anchor_walk _ _
  rw [hfold]
  refine Path.ext hanchor.symm ?_
  refine (congrArg (List.filter _) hnames.symm).trans ?_
  exact List.filter_eq_self.2 fun s h => decide_eq_true (isComponent _ s h)

/-- A path as seen from a directory has the suffix that it had. -/
theorem suffix_of_relativeTo? {p directory rel : Path} (h : p.relativeTo? directory = some rel)
    (hne : rel.suffix ≠ "") : p.suffix = rel.suffix := by
  rw [relativeTo?, Option.ite_none_right_eq_some, Option.some.injEq] at h
  obtain ⟨-, rfl⟩ := h
  have hnames : p.names.drop directory.names.length ≠ [] := by
    intro hnil
    simp [suffix, name, hnil, splitSuffix] at hne
  rw [suffix, suffix, name, name, List.getLast?_drop, if_neg]
  simpa using hnames

/-! ## Texts of paths with a suffix -/

theorem toText_of_isAbsolute {p : Path} (ha : p.isAbsolute = true) :
    p.toText = p.anchor.text ++ "/".intercalate p.names := by
  rw [toText, if_neg]
  exact fun h => isAbsolute_iff.1 ha h.1

theorem toText_child {p : Path} (ha : p.isAbsolute = true) {name : String}
    (h : IsComponent name) :
    (p.child name).toText = (if p.names = [] then p.toText else p.toText ++ "/") ++ name := by
  rw [toText_of_isAbsolute ha, toText_of_isAbsolute (p := p.child name) ha, child_names h]
  split
  · next hnil => simp [hnil, child, join, ofNames, isAbsolute]
  · next hne =>
    rw [String.intercalate_append_of_ne_nil hne (by simp), String.intercalate_singleton]
    simp only [String.append_assoc]
    rfl

theorem names_eq_nil_or_child {p : Path} (ha : p.isAbsolute = true) :
    p.names = [] ∨ ∃ (directory : Path) (name : String), directory.isAbsolute = true ∧
      IsComponent name ∧ p = directory.child name := by
  refine (List.eq_nil_or_concat p.names).imp_right ?_
  rintro ⟨front, last, hconcat⟩
  have hlast : IsComponent last := p.isComponent last (by simp [hconcat])
  refine ⟨p.parent, last, ha, hlast, Path.ext rfl ?_⟩
  rw [child_names hlast, hconcat]
  simp [parent, hconcat]

/-- Only the text of a root ends in a slash. -/
theorem endsWith_toText {p : Path} (ha : p.isAbsolute = true) :
    p.toText.endsWith "/" = true ↔ p.names = [] := by
  rw [String.endsWith, String.Slice.endsWith_string_iff, String.copy_toSlice]
  rcases names_eq_nil_or_child ha with hnil | ⟨directory, name, habs, hname, rfl⟩
  · rw [toText_of_isAbsolute ha, hnil]
    have hne := isAbsolute_iff.1 ha
    cases h : p.anchor with
    | relative => exact absurd h hne
    | root | doubleRoot => decide
  · refine iff_of_false ?_ (by simp [child_names hname])
    rw [toText_child habs hname, String.toList_append]
    rintro ⟨front, heq⟩
    -- The last character is that of the component.
    obtain ⟨c, hc⟩ := Option.ne_none_iff_exists'.1
      (mt List.getLast?_eq_none_iff.1 (mt String.toList_eq_nil_iff.1 hname.1))
    have hlast := congrArg List.getLast? heq
    rw [List.getLast?_append, List.getLast?_append, hc] at hlast
    obtain rfl : '/' = c := by simpa using hlast
    exact hname.2.2 (List.mem_of_getLast? hc)

theorem isComponent_append {name suffix : String} (hn : IsComponent name)
    (hs : IsComponent suffix) : IsComponent (name ++ suffix) := by
  refine ⟨?_, ?_, ?_⟩
  · simp [hn.1]
  · intro h
    have hlength := congrArg String.length h
    have hname := mt String.length_eq_zero_iff.1 hn.1
    have hsuffix := mt String.length_eq_zero_iff.1 hs.1
    have hdot : ".".length = 1 := rfl
    rw [String.length_append, hdot] at hlength
    omega
  · rw [String.toList_append, List.mem_append, not_or]
    exact ⟨hn.2.2, hs.2.2⟩

/-- What a suffix makes of the text of a path is the text of a path. -/
theorem exists_toText_append {p : Path} (ha : p.isAbsolute = true) {suffix : String}
    (h : IsComponent suffix) : ∃ q : Path, q.toText = p.toText ++ suffix := by
  rcases names_eq_nil_or_child ha with hnil | ⟨directory, name, habs, hname, rfl⟩
  · exact ⟨p.child suffix, by rw [toText_child ha h, if_pos hnil]⟩
  · refine ⟨directory.child (name ++ suffix), ?_⟩
    rw [toText_child habs (isComponent_append hname h), toText_child habs hname,
      String.append_assoc]

theorem toText_ofText {p : Path} {s : String} (h : p.toText = s) : (ofText s).toText = s := by
  rw [← h, ofText_toText]

end Path

/-! ## The files that a specifier may mean -/

/-- What a script's import may mean, by the place that its specifier leads to, in order: the file
itself, the file with a suffix, and the index of the directory. -/
def scriptTargets (base : Path) : List String :=
  base.toText :: scriptSuffixes.map (base.toText ++ ·) ++
    scriptSuffixes.map fun suffix => (base.child ("index" ++ suffix)).toText

namespace ModuleTable

theorem isComponent_of_mem_scriptSuffixes :
    ∀ suffix ∈ scriptSuffixes, IsComponent suffix ∧ IsComponent ("index" ++ suffix) := by
  decide

theorem scriptCandidates_toText {base : Path} (ha : base.isAbsolute = true) :
    scriptCandidates base.toText = scriptTargets base := by
  have hfolder : (if base.toText.endsWith "/" then base.toText else base.toText ++ "/") =
      if base.names = [] then base.toText else base.toText ++ "/" := by
    simp only [Path.endsWith_toText ha]
  have hindex : ∀ suffix ∈ scriptSuffixes,
      (if base.names = [] then base.toText else base.toText ++ "/") ++ "index" ++ suffix =
        (base.child ("index" ++ suffix)).toText := by
    intro suffix hs
    rw [Path.toText_child ha (isComponent_of_mem_scriptSuffixes suffix hs).2, String.append_assoc]
  rw [scriptCandidates, hfolder, scriptTargets]
  congr 1
  exact List.map_congr_left hindex

/-- What a specifier may mean is the text of a path, so it is not read as another one. -/
theorem toText_of_mem_scriptTargets {base : Path} (ha : base.isAbsolute = true) {s : String}
    (h : s ∈ scriptTargets base) : (Path.ofText s).toText = s := by
  rw [scriptTargets, List.mem_append, List.mem_cons] at h
  rcases h with (rfl | h) | h
  · exact Path.toText_ofText rfl
  · obtain ⟨suffix, hs, rfl⟩ := List.mem_map.1 h
    obtain ⟨q, hq⟩ := Path.exists_toText_append ha (isComponent_of_mem_scriptSuffixes suffix hs).1
    exact Path.toText_ofText hq
  · obtain ⟨suffix, -, rfl⟩ := List.mem_map.1 h
    exact Path.toText_ofText rfl

theorem findSome?_eq_find? {α : Type} {f : α → Option α} {p : α → Bool} {l : List α}
    (h : ∀ a ∈ l, f a = if p a then some a else none) : l.findSome? f = l.find? p := by
  induction l with
  | nil => rfl
  | cons a l ih =>
    rw [List.findSome?_cons, h a List.mem_cons_self, List.find?_cons,
      ih fun b hb => h b (List.mem_cons_of_mem _ hb)]
    cases p a <;> rfl

theorem anchorOf_of_startsWith {s : String} (h : s.startsWith "." = true) :
    Path.anchorOf s.toList = .relative := by
  have hhead := startsWith_dot_iff.1 h
  cases hs : s.toList with
  | nil => rfl
  | cons c cs =>
    rw [hs] at hhead
    obtain rfl := Option.some.inj hhead
    rfl

theorem scriptFile?_eq {isKnown : String → Bool} {specifier fromFile : String}
    (ha : (Path.ofText fromFile).isAbsolute = true) (hs : specifier.startsWith "." = true) :
    scriptFile? isKnown specifier fromFile =
      (scriptTargets ((Path.ofText fromFile).parent.follow specifier)).find? isKnown := by
  have hparent : (Path.ofText fromFile).parent.isAbsolute = true := ha
  have hbase := Path.isAbsolute_follow hparent specifier
  rw [scriptFile?, if_pos hs]
  dsimp only
  rw [Path.normalized_join hparent (anchorOf_of_startsWith hs), scriptCandidates_toText hbase]
  refine findSome?_eq_find? fun s hmem => ?_
  rw [toText_of_mem_scriptTargets hbase hmem]
  cases isKnown s <;> rfl

theorem moduleOf?_of_script {roots : List Path} {file : String}
    (h : (Path.ofText file).language ∈ scriptLanguages) : moduleOf? roots file = none := by
  rw [Option.eq_none_iff_forall_ne_some]
  intro m hm
  obtain ⟨rel, hrel, hm⟩ := moduleOf?_eq_some_iff.1 hm
  obtain ⟨directory, -, hdirectory⟩ := List.exists_of_findSome?_eq_some hrel
  obtain ⟨hsuffix, -⟩ := Path.moduleName?_eq_some_iff.1 hm
  have hsame : (Path.ofText file).suffix = rel.suffix :=
    Path.suffix_of_relativeTo? hdirectory (by rcases hsuffix with h | h <;> rw [h] <;> decide)
  rw [← hsame] at hsuffix
  revert h
  rw [Path.language, Path.lowerSuffix]
  rcases hsuffix with h | h <;> rw [h] <;> decide

end ModuleTable

/-! ## Relative specifiers -/

/-- A specifier that is read from the directory of the file: one dot or two, with nothing or a slash
behind them. -/
def IsRelativeSpecifier (s : String) : Prop :=
  s = "." ∨ s = ".." ∨ s.startsWith "./" = true ∨ s.startsWith "../" = true

instance (s : String) : Decidable (IsRelativeSpecifier s) := by
  unfold IsRelativeSpecifier
  infer_instance

theorem IsRelativeSpecifier.startsWith {s : String} (h : IsRelativeSpecifier s) :
    s.startsWith "." = true := by
  rw [String.startsWith_string_iff]
  rcases h with rfl | rfl | h | h
  · exact List.prefix_refl _
  · decide
  · exact .trans (by decide) (String.startsWith_string_iff.1 h)
  · exact .trans (by decide) (String.startsWith_string_iff.1 h)

theorem IsRelativeSpecifier.slash_mem_iff {s : String} (h : IsRelativeSpecifier s) :
    '/' ∈ s.toList ↔ ¬ (s = "." ∨ s = "..") := by
  have hslash : ∀ t : String, '/' ∈ t.toList → t ≠ "." ∧ t ≠ ".." := by
    intro t ht
    constructor <;> rintro rfl <;> exact absurd ht (by decide)
  rcases h with rfl | rfl | h | h
  · decide
  · decide
  all_goals
    have hmem : '/' ∈ s.toList := (String.startsWith_string_iff.1 h).subset (by decide)
    exact iff_of_true hmem (not_or.2 (hslash s hmem))

namespace NameTable

variable {roots : List Path} {es : List Entry} {file s : String}

/-- A specifier with a slash means the first file of the project among its targets. -/
theorem moduleFile?_of_slash (ha : (Path.ofText file).isAbsolute = true)
    (hs : s.startsWith "." = true) (hslash : '/' ∈ s.toList) :
    (ofEntries roots es).moduleFile? s file =
      (scriptTargets ((Path.ofText file).parent.follow s)).find? fun p => ∃ e ∈ es, e.path = p := by
  have hknown : (ofEntries roots es).hasFile = fun p => decide (∃ e ∈ es, e.path = p) := by
    funext p
    rw [Bool.eq_iff_iff, hasFile_ofEntries, decide_eq_true_iff]
  rw [moduleFile?, ModuleTable.file?, if_pos (by simpa using hslash),
    ModuleTable.scriptFile?_eq ha hs, hknown]

/-- What is read as the name of a module around that of a script is none, as there is no such
module. -/
theorem moduleFile?_of_script (hl : (Path.ofText file).language ∈ scriptLanguages)
    (hs : s.startsWith "." = true) (hslash : '/' ∉ s.toList) :
    (ofEntries roots es).moduleFile? s file = none := by
  have hnone : (ofEntries roots es).modules.names.find? file = none := by
    rw [find?_moduleNames_ofEntries, ModuleTable.moduleOf?_of_script hl, ite_self]
  rw [moduleFile?, ModuleTable.file?_of_relative hslash hs, ModuleTable.absoluteName?_eq, hnone]
  rfl

/-- What a relative specifier in a script means is the first file of the project among the targets
of the place that it leads to, except that one dot and two dots alone mean nothing: so the rule
holds of these two exactly if no target of theirs is in the project. -/
theorem moduleFile?_relative_iff (roots : List Path) (es : List Entry) {file s : String}
    (ha : (Path.ofText file).isAbsolute = true) (hl : (Path.ofText file).language ∈ scriptLanguages)
    (hs : IsRelativeSpecifier s) :
    let base := ((Path.ofText file).parent.join (Path.ofText s)).normalized
    let first := (scriptTargets base).find? fun p => ∃ e ∈ es, e.path = p
    base = (Path.ofText file).parent.follow s ∧
      (ofEntries roots es).moduleFile? s file = (if s = "." ∨ s = ".." then none else first) ∧
      ((ofEntries roots es).moduleFile? s file = first ↔
        (s = "." ∨ s = ".." → ∀ p ∈ scriptTargets base, ∀ e ∈ es, e.path ≠ p)) := by
  intro base first
  have hparent : (Path.ofText file).parent.isAbsolute = true := ha
  have hbase : base = (Path.ofText file).parent.follow s :=
    Path.normalized_join hparent (ModuleTable.anchorOf_of_startsWith hs.startsWith)
  have hfile : (ofEntries roots es).moduleFile? s file =
      if s = "." ∨ s = ".." then none else first := by
    split
    · next hdots =>
      exact moduleFile?_of_script hl hs.startsWith fun h => hs.slash_mem_iff.1 h hdots
    · next hdots =>
      rw [moduleFile?_of_slash ha hs.startsWith (hs.slash_mem_iff.2 hdots), ← hbase]
  refine ⟨hbase, hfile, ?_⟩
  have hfirst : first = none ↔ ∀ p ∈ scriptTargets base, ∀ e ∈ es, e.path ≠ p := by
    rw [List.find?_eq_none]
    simp
  rw [hfile]
  by_cases hdots : s = "." ∨ s = ".."
  · rw [if_pos hdots, eq_comm, hfirst]
    exact ⟨fun h _ => h, fun h => h hdots⟩
  · rw [if_neg hdots]
    exact iff_of_true rfl fun h => absurd h hdots

/-- A specifier that goes outwards and in again, with an index of a directory in the project beside
the file that comes first. -/
theorem moduleFile?_relative_outwards :
    let entry (path : String) : Entry := { path, language := "typescript" }
    let es := [entry "/r/lib/b/index.js", entry "/r/lib/b.tsx", entry "/r/pkg/a.ts"]
    (Path.ofText "/r/pkg/a.ts").isAbsolute = true ∧
      (Path.ofText "/r/pkg/a.ts").language ∈ scriptLanguages ∧
      IsRelativeSpecifier "./.././lib/b" ∧
      (ofEntries [Path.ofText "/r"] es).moduleFile? "./.././lib/b" "/r/pkg/a.ts" =
        some "/r/lib/b.tsx" := by
  intro entry es
  have ha : (Path.ofText "/r/pkg/a.ts").isAbsolute = true := by decide +kernel
  have hl : (Path.ofText "/r/pkg/a.ts").language ∈ scriptLanguages := by decide +kernel
  have hs : IsRelativeSpecifier "./.././lib/b" := .inr (.inr (.inl (by decide +kernel)))
  refine ⟨ha, hl, hs, ((moduleFile?_relative_iff [Path.ofText "/r"] es ha hl hs).2.1).trans ?_⟩
  decide +kernel

/-- The index of its own directory is what a script imports from one dot with a slash; without the
slash nothing is found. -/
theorem own_index_missed :
    let entry (path : String) : Entry := { path, language := "typescript" }
    let es := [entry "/r/index.ts", entry "/r/a.ts"]
    IsRelativeSpecifier "." ∧
      (scriptTargets ((Path.ofText "/r/a.ts").parent.join (Path.ofText ".")).normalized).find?
        (fun p => ∃ e ∈ es, e.path = p) = some "/r/index.ts" ∧
      (ofEntries [Path.ofText "/r"] es).moduleFile? "." "/r/a.ts" = none ∧
      (ofEntries [Path.ofText "/r"] es).moduleFile? "./" "/r/a.ts" = some "/r/index.ts" := by
  intro entry es
  refine ⟨.inl rfl, by decide +kernel, ?_, ?_⟩
  · exact moduleFile?_of_script (by decide +kernel) (by decide +kernel) (by decide)
  · rw [moduleFile?_of_slash (by decide +kernel) (by decide +kernel) (by decide)]
    decide +kernel

end NameTable
end CodeAtlas
