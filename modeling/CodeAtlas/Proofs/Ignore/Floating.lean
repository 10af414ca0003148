import CodeAtlas.Proofs.Ignore.Below

/-!
# Patterns that may stand anywhere

A pattern floats (`Pattern.floats`) if it matches at any depth below a root, and with a directory
also what lies in it. The built-in patterns do (`builtInPatterns_float`). What such a pattern ignores
below one directory it ignores below every directory above that one
(`IgnoreFilter.ignores_above`), and what lies in an ignored directory is ignored
(`IgnoreFilter.ignores_inside`).
-/

namespace CodeAtlas

namespace Piece

variable {p : Piece} {ps : List Piece} {q : Char → Bool} {cs r t x : List Char}

/-! ## What pieces leave of a text -/

theorem mem_afterRun_iff :
    r ∈ afterRun q cs ↔ ∃ x, (∀ c ∈ x, q c = true) ∧ cs = x ++ r := by
  induction cs with
  | nil => simp [afterRun]
  | cons c cs ih =>
    rw [afterRun]
    constructor
    · intro h
      split at h
      · next hc =>
        rcases List.mem_cons.1 h with rfl | h
        · exact ⟨[], by simp, rfl⟩
        · obtain ⟨x, hx, rfl⟩ := ih.1 h
          exact ⟨c :: x, List.forall_mem_cons.2 ⟨hc, hx⟩, rfl⟩
      · exact ⟨[], by simp, (List.mem_singleton.1 h).symm⟩
    · rintro ⟨_ | ⟨d, x⟩, hx, heq⟩
      · obtain rfl : c :: cs = r := heq
        split <;> simp
      · obtain ⟨rfl, rfl⟩ := List.cons.inj heq
        obtain ⟨hd, hx⟩ := List.forall_mem_cons.1 hx
        rw [if_pos hd]
        exact List.mem_cons_of_mem _ (ih.2 ⟨x, hx, rfl⟩)

theorem mem_afterSome_iff :
    r ∈ afterSome q cs ↔ ∃ x, x ≠ [] ∧ (∀ c ∈ x, q c = true) ∧ cs = x ++ r := by
  cases cs with
  | nil => simp +contextual [afterSome]
  | cons c cs =>
    rw [afterSome]
    constructor
    · intro h
      split at h
      · next hc =>
        obtain ⟨x, hx, rfl⟩ := mem_afterRun_iff.1 h
        exact ⟨c :: x, List.cons_ne_nil _ _, List.forall_mem_cons.2 ⟨hc, hx⟩, rfl⟩
      · cases h
    · rintro ⟨_ | ⟨d, x⟩, hne, hx, heq⟩
      · exact absurd rfl hne
      · obtain ⟨rfl, rfl⟩ := List.cons.inj heq
        obtain ⟨hd, hx⟩ := List.forall_mem_cons.1 hx
        rw [if_pos hd]
        exact mem_afterRun_iff.2 ⟨x, hx, rfl⟩

theorem mem_afterSlash_iff : r ∈ afterSlash cs ↔ cs = '/' :: r := by
  rw [afterSlash.eq_def]
  split
  · simp [eq_comm]
  · next hne =>
    simp only [List.not_mem_nil, false_iff]
    exact hne r

/-- Whether what the piece matches does not hang on where the text ends. -/
def isPlain : Piece → Bool
  | boundary | finish => false
  | _ => true

/-- The piece matches the text, whatever follows. -/
def Takes : Piece → List Char → Prop
  | literal c, x => x = [c]
  | one, x => ∃ d, d ≠ '/' ∧ x = [d]
  | many, x => '/' ∉ x
  | segment, x => x ≠ [] ∧ '/' ∉ x
  | class_ negated ranges, x =>
    ∃ d, ((ranges.any fun r => r.1 ≤ d && d ≤ r.2) != negated) = true ∧ x = [d]
  | leading, x => x = [] ∨ ∃ y, y ≠ [] ∧ '\n' ∉ y ∧ x = y ++ ['/']
  | inner, x => x = [] ∨ ∃ y, y ≠ [] ∧ '\n' ∉ y ∧ x = '/' :: y
  | boundary, _ | finish, _ => False

theorem forall_ne_iff {c : Char} : (∀ d ∈ x, decide (d ≠ c) = true) ↔ c ∉ x := by
  simp only [ne_eq, decide_eq_true_eq]
  exact ⟨fun h hc => h c hc rfl, fun h d hd heq => h (heq ▸ hd)⟩

/-- A piece that does not ask for the end takes off what it matches. -/
theorem mem_rests_iff (hp : p.isPlain = true) :
    r ∈ p.rests cs ↔ ∃ x, p.Takes x ∧ cs = x ++ r := by
  have run : ∀ {x : List Char}, (∀ c ∈ x, (fun d => decide (d ≠ '/')) c = true) ↔ '/' ∉ x :=
    forall_ne_iff
  have line : ∀ {x : List Char}, (∀ c ∈ x, (fun d => decide (d ≠ '\n')) c = true) ↔ '\n' ∉ x :=
    forall_ne_iff
  cases p with
  | literal c =>
    cases cs with
    | nil => simp [rests, Takes]
    | cons d ds =>
      simp only [rests, Takes, exists_eq_left, List.singleton_append, List.cons.injEq]
      by_cases hd : d = c <;> simp [hd, eq_comm]
  | one =>
    cases cs with
    | nil => simp [rests, Takes]
    | cons d ds => by_cases hd : d = '/' <;> simp [rests, Takes, hd, eq_comm]
  | many => simp only [rests, Takes, mem_afterRun_iff, run]
  | segment => simp only [rests, Takes, mem_afterSome_iff, run, and_assoc]
  | class_ negated ranges =>
    cases cs with
    | nil => simp [rests, Takes]
    | cons d ds =>
      simp only [rests, Takes]
      constructor
      · intro h
        split at h
        · next hd => exact ⟨[d], ⟨d, hd, rfl⟩, congrArg (d :: ·) (List.mem_singleton.1 h).symm⟩
        · cases h
      · rintro ⟨_, ⟨d, hd, rfl⟩, heq⟩
        obtain ⟨rfl, rfl⟩ := List.cons.inj heq
        rw [if_pos hd]
        exact List.mem_singleton_self _
  | leading =>
    simp only [rests, Takes, List.mem_cons, List.mem_flatMap, mem_afterSome_iff, mem_afterSlash_iff,
      line]
    constructor
    · rintro (rfl | ⟨_, ⟨y, hne, hy, rfl⟩, rfl⟩)
      · exact ⟨[], .inl rfl, rfl⟩
      · exact ⟨y ++ ['/'], .inr ⟨y, hne, hy, rfl⟩, by simp⟩
    · rintro ⟨_, rfl | ⟨y, hne, hy, rfl⟩, rfl⟩
      · exact .inl rfl
      · exact .inr ⟨_, ⟨y, hne, hy, List.append_assoc ..⟩, rfl⟩
  | inner =>
    simp only [rests, Takes, List.mem_cons, List.mem_flatMap, mem_afterSome_iff, mem_afterSlash_iff,
      line]
    constructor
    · rintro (rfl | ⟨_, rfl, y, hne, hy, rfl⟩)
      · exact ⟨[], .inl rfl, rfl⟩
      · exact ⟨'/' :: y, .inr ⟨y, hne, hy, rfl⟩, rfl⟩
    · rintro ⟨_, rfl | ⟨y, hne, hy, rfl⟩, rfl⟩
      · exact .inl rfl
      · exact .inr ⟨_, rfl, y, hne, hy, rfl⟩
  | boundary | finish => cases hp

/-- Pieces that match the front of a text, one after the other, leave the rest of it. -/
def Leaves : List Piece → List Char → List Char → Prop
  | [], cs, r => r = cs
  | p :: ps, cs, r => ∃ m ∈ p.rests cs, Leaves ps m r

theorem matchFront_iff : matchFront ps cs = true ↔ ∃ r, Leaves ps cs r := by
  have hmem : ∀ (found : List (List Char)) (r : List Char),
      r ∈ ps.foldl (fun found p => (found.flatMap p.rests).eraseDups) found ↔
        ∃ cs ∈ found, Leaves ps cs r := by
    induction ps with
    | nil => simp [Leaves]
    | cons p ps ih =>
      intro found r
      rw [List.foldl_cons, ih]
      simp only [List.mem_eraseDups, List.mem_flatMap, Leaves]
      constructor
      · rintro ⟨m, ⟨cs, hcs, hm⟩, hr⟩
        exact ⟨cs, hcs, m, hm, hr⟩
      · rintro ⟨cs, hcs, m, hm, hr⟩
        exact ⟨m, ⟨cs, hcs, hm⟩, hr⟩
  have hnonempty : matchFront ps cs = true ↔
      ∃ r, r ∈ ps.foldl (fun found p => (found.flatMap p.rests).eraseDups) [cs] := by
    rw [matchFront, Bool.not_eq_true', List.isEmpty_eq_false_iff_exists_mem]
  rw [hnonempty]
  simp [hmem]

/-! ## Longer texts -/

/-- Whether pieces that match a directory match what lies in it: where they ask for the end of a
name, they do so behind one of its characters. -/
def spread : List Piece → Bool
  | [] => true
  | [.literal c, .boundary] => c ≠ '/'
  | p :: ps => p.isPlain && spread ps

/-- Behind the last character of a name and in front of a slash there is no end. -/
theorem leaves_boundary {c : Char} (hc : c ≠ '/') (hcs : ∀ d ∈ cs.getLast?, d = '/')
    (h : Leaves [.literal c, .boundary] cs r) : cs = c :: '/' :: r := by
  obtain ⟨m, hm, _, hr, rfl⟩ := h
  obtain ⟨_, rfl, rfl⟩ := (mem_rests_iff rfl).1 hm
  rw [rests, List.mem_append, mem_afterSlash_iff] at hr
  rcases hr with rfl | hr
  · rfl
  · split at hr
    · next hend =>
      obtain rfl | rfl : m = [] ∨ m = ['\n'] := by simpa [atEnd] using hend
      · exact absurd (hcs c rfl) hc
      · exact absurd (hcs '\n' rfl) (by decide)
    · cases hr

theorem leaves_append (h : spread ps = true) (hcs : ∀ c ∈ cs.getLast?, c = '/')
    (hr : Leaves ps cs r) (t : List Char) : Leaves ps (cs ++ t) (r ++ t) := by
  induction ps using spread.induct generalizing cs with
  | case1 =>
    obtain rfl : r = cs := hr
    rfl
  | case2 c =>
    obtain rfl := leaves_boundary (by simpa [spread] using h) hcs hr
    exact ⟨'/' :: (r ++ t), (mem_rests_iff rfl).2 ⟨[c], rfl, rfl⟩, r ++ t,
      List.mem_append_left _ (List.mem_singleton_self _), rfl⟩
  | case3 p ps hne ih =>
    obtain ⟨hp, hps⟩ : p.isPlain = true ∧ spread ps = true := by
      simpa only [spread, Bool.and_eq_true] using h
    obtain ⟨m, hm, hr⟩ := hr
    obtain ⟨x, hx, rfl⟩ := (mem_rests_iff hp).1 hm
    refine ⟨m ++ t, (mem_rests_iff hp).2 ⟨x, hx, List.append_assoc ..⟩, ih hps (fun c hc => ?_) hr⟩
    exact hcs c (List.mem_getLast?_append_of_mem_getLast? hc)

theorem matchFront_append (h : spread ps = true) (hcs : ∀ c ∈ cs.getLast?, c = '/')
    (hm : matchFront ps cs = true) (t : List Char) : matchFront ps (cs ++ t) = true := by
  obtain ⟨r, hr⟩ := matchFront_iff.1 hm
  exact matchFront_iff.2 ⟨r ++ t, leaves_append h hcs hr t⟩

theorem matchFront_below (hm : matchFront (leading :: ps) cs = true) (hx : x ≠ [])
    (hline : '\n' ∉ x) : matchFront (leading :: ps) (x ++ '/' :: cs) = true := by
  obtain ⟨r, m, hm, hr⟩ := matchFront_iff.1 hm
  obtain ⟨_, hy, rfl⟩ := (mem_rests_iff rfl).1 hm
  refine matchFront_iff.2 ⟨r, m, (mem_rests_iff rfl).2 ?_, hr⟩
  rcases hy with rfl | ⟨y, hne, hy, rfl⟩
  · exact ⟨x ++ ['/'], .inr ⟨x, hx, hline, rfl⟩, by simp⟩
  · refine ⟨x ++ '/' :: y ++ ['/'], .inr ⟨x ++ '/' :: y, by simp, ?_, rfl⟩, by simp⟩
    simp [hline, hy]

end Piece

namespace Pattern

variable {p : Pattern} {cs t x : List Char}

/-- Whether the pattern may match at any depth, and matches with a directory what lies in it. -/
def floats : Pattern → Bool
  | ⟨false, .pieces (.leading :: ps)⟩ => Piece.spread ps
  | _ => false

theorem floats_iff : p.floats = true ↔
    ∃ ps, p = ⟨false, .pieces (.leading :: ps)⟩ ∧ Piece.spread ps = true := by
  constructor
  · intro h
    rw [floats.eq_def] at h
    split at h
    · exact ⟨_, rfl, h⟩
    · cases h
  · rintro ⟨ps, rfl, h⟩
    exact h

theorem contains_below (h : p.floats = true) (hm : p.paths.contains cs = true) (hx : x ≠ [])
    (hline : '\n' ∉ x) : p.paths.contains (x ++ '/' :: cs) = true := by
  obtain ⟨ps, rfl, -⟩ := floats_iff.1 h
  exact Piece.matchFront_below hm hx hline

theorem contains_inside (h : p.floats = true) (hm : p.paths.contains (cs ++ ['/']) = true)
    (t : List Char) : p.paths.contains (cs ++ '/' :: t) = true := by
  obtain ⟨ps, rfl, hs⟩ := floats_iff.1 h
  have hspread : Piece.spread (.leading :: ps) = true := by simpa [Piece.spread, Piece.isPlain]
  have hall : Piece.matchFront (.leading :: ps) (cs ++ ['/'] ++ t) = true :=
    Piece.matchFront_append hspread (by simp) hm t
  rwa [List.append_assoc] at hall

end Pattern

/-- The built-in patterns float. -/
theorem builtInPatterns_float : ∀ text ∈ builtInPatterns,
    ∃ p, Pattern.ofText text = .ok p ∧ p.floats = true := by
  intro text htext
  have hall : (builtInPatterns.all fun text =>
      (Pattern.ofText text).toOption.any Pattern.floats) = true := by cbv
  obtain ⟨p, hp, hfloats⟩ := (Option.any_eq_true _ _).1 (List.all_eq_true.1 hall text htext)
  exact ⟨p, Except.toOption_eq_some_iff.1 hp, hfloats⟩

/-! ## Paths as seen from directories -/

namespace Path

variable {root d p : Path}

/-- The text of a path as seen from a directory that it lies below. -/
def textBelow (d p : Path) : List Char :=
  ("/".intercalate (p.names.drop d.names.length)).toList

theorem Above.drop_ne_nil (h : d.Above p) : p.names.drop d.names.length ≠ [] := by
  rw [ne_eq, List.drop_eq_nil_iff, Nat.not_le]
  exact h.length_lt

theorem textBelow_trans (h : root.Above d) (h' : d.Above p) :
    root.textBelow p = root.textBelow d ++ '/' :: d.textBelow p := by
  obtain ⟨-, ⟨rest, hrest⟩, -⟩ := id h'
  have hlength := h.length_lt
  have hsplit : p.names.drop root.names.length =
      d.names.drop root.names.length ++ p.names.drop d.names.length := by
    rw [← hrest, List.drop_append_of_le_length hlength.le, List.drop_left]
  rw [textBelow, hsplit, String.intercalate_append_of_ne_nil h.drop_ne_nil h'.drop_ne_nil]
  simp [textBelow]

theorem Above.relativeTo? (h : d.Above p) : ∃ inside, p.relativeTo? d = some inside ∧
    inside.names ≠ [] ∧ inside.toText.toList = d.textBelow p := by
  refine ⟨_, if_pos ⟨h.1.symm, h.2.1⟩, h.drop_ne_nil, ?_⟩
  rw [toText, if_neg fun hnone => h.drop_ne_nil hnone.2, String.toList_append]
  rfl

theorem Above.textBelow_ne_nil (h : d.Above p) : d.textBelow p ≠ [] := by
  obtain ⟨inside, hinside, hne, htext⟩ := h.relativeTo?
  have hanchor : inside.anchor = .relative := by
    rw [Path.relativeTo?] at hinside
    split at hinside
    · cases hinside
      rfl
    · cases hinside
  rw [← htext, toText_toList, hanchor]
  refine List.append_ne_nil_of_right_ne_nil _ (mt body_eq_nil_iff.1 ?_)
  rwa [parts, if_neg fun hnone => hne hnone.2]

end Path

/-! ## Filters of floating patterns -/

namespace IgnoreFilter

variable {fs : FileSystem} {f g : IgnoreFilter} {e p : Path}

/-- All patterns of the filter float. -/
def Floats (f : IgnoreFilter) : Prop := ∀ p ∈ f.patterns, p.floats = true

/-- The patterns of a filter are those that its texts are read into. -/
theorem mem_patterns_iff {d : Path} {options : IgnoreOptions} (h : make fs d options = .ok f)
    {p : Pattern} : p ∈ f.patterns ↔
      ∃ text ∈ patternTexts fs f.root options, Pattern.ofText text = .ok p :=
  (Except.mapM_eq_ok (made h).2).1 p

/-- A filter without patterns of its own has the built-in ones. -/
theorem patternTexts_builtIn {root : Path} {options : IgnoreOptions}
    (hbuiltIn : options.useBuiltIn = true) (hextra : options.extraPatterns = [])
    (hfile : filePatterns fs (root.join (.ofText options.fileName)) = []) :
    patternTexts fs root options = builtInPatterns := by
  rw [patternTexts, if_pos hbuiltIn, hextra, hfile, List.append_nil]
  exact List.append_nil _

/-- The patterns of such a filter are among those of every filter that has the built-in ones. -/
theorem patterns_subset {d e : Path} {options options' : IgnoreOptions}
    (hg : make fs d options = .ok g) (hf : make fs e options' = .ok f)
    (hown : patternTexts fs g.root options = builtInPatterns)
    (hbuiltIn : options'.useBuiltIn = true) : g.patterns ⊆ f.patterns := by
  intro p hp
  obtain ⟨text, htext, hread⟩ := (mem_patterns_iff hg).1 hp
  rw [hown] at htext
  refine (mem_patterns_iff hf).2 ⟨text, ?_, hread⟩
  rw [patternTexts, if_pos hbuiltIn, List.append_assoc]
  exact List.mem_append_left _ htext

/-- The patterns of such a filter float. -/
theorem floats_of_builtIn {d : Path} {options : IgnoreOptions} (h : make fs d options = .ok f)
    (hown : patternTexts fs f.root options = builtInPatterns) : f.Floats := by
  intro p hp
  obtain ⟨text, htext, hread⟩ := (mem_patterns_iff h).1 hp
  obtain ⟨q, hq, hfloats⟩ := builtInPatterns_float text (hown ▸ htext)
  obtain rfl : p = q := Except.ok.inj (hread.symm.trans hq)
  exact hfloats

theorem matches?_iff (h : f.Floats) {cs : List Char} :
    f.matches? cs = true ↔ ∃ p ∈ f.patterns, p.paths.contains cs = true := by
  rw [matches?]
  cases hfind : f.patterns.reverse.find? fun p => p.paths.contains cs with
  | none => simpa using hfind
  | some p =>
    have hmem : p ∈ f.patterns := by simpa using List.mem_of_find?_eq_some hfind
    have hcontains := List.find?_some hfind
    obtain ⟨ps, rfl, -⟩ := Pattern.floats_iff.1 (h p hmem)
    exact iff_of_true rfl ⟨_, hmem, hcontains⟩

/-- A path below the root of a filter is ignored for its suffix or for its text. -/
theorem ignores_below (hroot : f.root.Above p) (habs : p.isAbsolute = true)
    (hres : fs.resolve p = .ok p) (isDirectory : Bool) :
    f.ignores fs p isDirectory = .ok (!isDirectory && p.isBinary ||
      f.matches? (f.root.textBelow p ++ if isDirectory then ['/'] else [])) := by
  obtain ⟨inside, hinside, hne, htext⟩ := hroot.relativeTo?
  by_cases hbinary : (!isDirectory && p.isBinary) = true
  · have hjoin : f.root.join p = p := by rw [Path.join, if_pos habs]
    rw [ignores, hjoin, if_pos hbinary, hbinary]
    rfl
  · refine ignores_of_relative habs (by simpa [or_iff_not_imp_left] using hbinary) hres ?_
    rw [hinside, Option.map_some, ignoresRelative, if_neg hne, htext]
    simp [hbinary]

variable {isDirectory : Bool}

theorem ignores_eq_false_iff (habs : p.isAbsolute = true) (hres : fs.resolve p = .ok p) :
    f.ignores fs p isDirectory = .ok false ↔ f.ignores fs p isDirectory ≠ .ok true := by
  obtain ⟨ignored, h⟩ := (Discovery.ignores_ok_iff (f := f) habs isDirectory).2 (.inr ⟨p, hres⟩)
  rw [h]
  cases ignored <;> simp

/-- What patterns that float ignore below one directory, they ignore below every directory above it,
as long as there is no line feed on the way from the one to the other. -/
theorem ignores_above (hf : f.Floats) (hsub : g.patterns ⊆ f.patterns)
    (hroot : g.root = f.root ∨ f.root.Above g.root) (hline : '\n' ∉ f.root.textBelow g.root)
    (hp : g.root.Above p) (habs : p.isAbsolute = true) (hres : fs.resolve p = .ok p)
    (h : g.ignores fs p isDirectory = .ok true) : f.ignores fs p isDirectory = .ok true := by
  have hfp : f.root.Above p := by
    rcases hroot with heq | hroot
    · exact heq ▸ hp
    · exact hroot.trans hp
  have hg : g.Floats := fun q hq => hf q (hsub hq)
  rw [ignores_below hp habs hres, Except.ok.injEq, Bool.or_eq_true] at h
  rw [ignores_below hfp habs hres, Except.ok.injEq, Bool.or_eq_true]
  refine h.imp_right fun h => ?_
  obtain ⟨q, hq, hm⟩ := (matches?_iff hg).1 h
  refine (matches?_iff hf).2 ⟨q, hsub hq, ?_⟩
  rcases hroot with heq | hroot
  · rwa [← heq]
  · rw [Path.textBelow_trans hroot hp, List.append_assoc]
    exact Pattern.contains_below (hf q (hsub hq)) hm hroot.textBelow_ne_nil hline

/-- If all patterns float, what lies in an ignored directory is ignored. -/
theorem ignores_inside (hf : f.Floats) (he : f.root.Above e) (hep : e.Above p)
    (hea : e.isAbsolute = true) (hpa : p.isAbsolute = true) (her : fs.resolve e = .ok e)
    (hpr : fs.resolve p = .ok p) (h : f.ignores fs e true = .ok true) :
    f.ignores fs p isDirectory = .ok true := by
  rw [ignores_below he hea her, Except.ok.injEq] at h
  obtain ⟨q, hq, hm⟩ := (matches?_iff hf).1 h
  rw [ignores_below (he.trans hep) hpa hpr, Except.ok.injEq, Bool.or_eq_true]
  refine .inr ((matches?_iff hf).2 ⟨q, hq, ?_⟩)
  rw [Path.textBelow_trans he hep, List.append_assoc]
  exact Pattern.contains_inside (hf q hq) hm _

end IgnoreFilter

namespace Discovery

variable {fs : FileSystem} {f g : IgnoreFilter} {root p : Path}

/-- Between directories, filters whose patterns float say the same. -/
theorem Open.clears_iff (h : Open fs g.root p) (hd : Located fs g.root)
    (hlink : fs.isLink p = false) (hf : f.Floats) (hsub : g.patterns ⊆ f.patterns)
    (hroot : g.root = f.root ∨ f.root.Above g.root) (hline : '\n' ∉ f.root.textBelow g.root) :
    Clears fs g g.root g.root p ∧ f.ignores fs p = .ok false ↔ Clears fs f root g.root p := by
  obtain ⟨hlocated, hresolve⟩ := h.unlinked hd
  have hpa : p.isAbsolute = true := by
    rw [Path.isAbsolute, ← h.above.1]
    exact hd.isAbsolute
  have hpr := hresolve hlink
  constructor
  · rintro ⟨-, hkept⟩
    refine ⟨fun e hde hep => ?_, hkept, by simp [hlink]⟩
    have he := hlocated e hde hep
    have hfe : f.root.Above e := by
      rcases hroot with heq | hroot
      · exact heq ▸ hde
      · exact hroot.trans hde
    rw [IgnoreFilter.ignores_eq_false_iff he.isAbsolute he.resolve]
    intro hignored
    cases hkept.symm.trans (IgnoreFilter.ignores_inside hf hfe hep he.isAbsolute hpa he.resolve hpr
      hignored)
  · -- What the filter from above does not ignore, the one from below does not ignore either.
    have keeps : ∀ {e : Path} {isDirectory : Bool}, g.root.Above e → e.isAbsolute = true →
        fs.resolve e = .ok e → f.ignores fs e isDirectory = .ok false →
        g.ignores fs e isDirectory = .ok false := by
      intro e isDirectory hde hea her hkept
      rw [IgnoreFilter.ignores_eq_false_iff hea her] at hkept ⊢
      exact mt (IgnoreFilter.ignores_above hf hsub hroot hline hde hea her) hkept
    intro hc
    refine ⟨⟨fun e hde hep => ?_, keeps h.above hpa hpr hc.kept, by simp [hlink]⟩, hc.kept⟩
    have he := hlocated e hde hep
    exact keeps hde he.isAbsolute he.resolve (hc.between e hde hep)

end Discovery
end CodeAtlas
