import CodeAtlas.Context.Block
import CodeAtlas.Proofs.Context.Truncation
import CodeAtlas.Proofs.Data.Except

/-!
# Reading a block of context back

`readBack` finds the texts between fences: what stands between a line that starts with the fence and
the next such line. A block has one part for each hit whose file is in the index, in the order of
the hits, and all excerpts are read back from it unless a line that starts with the fence comes with
a title, a language or an excerpt (`format_readBack_iff`). The fence is the same around every
excerpt, so an excerpt with such a line ends early, and its rest is taken for another one.
-/

namespace CodeAtlas

namespace Text

variable {sep : Char} {cs ds : List Char}

theorem splitOn_append (sep : Char) (cs ds : List Char) :
    splitOn sep (cs ++ sep :: ds) = splitOn sep cs ++ splitOn sep ds := by
  induction cs with
  | nil => rw [List.nil_append, splitOn_cons_self]; rfl
  | cons c cs ih =>
    rw [List.cons_append, splitOn, splitOn, ih]
    cases h : splitOn sep cs with
    | nil => exact absurd h (splitOn_ne_nil sep cs)
    | cons p ps =>
      rw [List.cons_append]
      dsimp only
      split <;> rfl

/-- A beginning without the character belongs to the first piece. -/
theorem splitOn_append_of_not_mem {p : List Char} {ps : List (List Char)} (h : sep ∉ cs)
    (hds : splitOn sep ds = p :: ps) : splitOn sep (cs ++ ds) = (cs ++ p) :: ps := by
  induction cs with
  | nil => exact hds
  | cons c cs ih =>
    obtain ⟨hc, hcs⟩ := not_or.1 (mt List.mem_cons.2 h)
    rw [List.cons_append, splitOn, ih hcs]
    exact if_neg (Ne.symm hc)

theorem splitOn_of_not_mem (h : sep ∉ cs) : splitOn sep cs = [cs] := by
  have hpieces : splitOn sep (cs ++ []) = [cs ++ []] := splitOn_append_of_not_mem h rfl
  rwa [List.append_nil] at hpieces

end Text

/-- A decimal is on one line. -/
theorem Number.Fixed.newline_not_mem_text (places : Nat) (x : Float) :
    '\n' ∉ (Number.Fixed.text places x).toList := by
  have hdigits (n : Nat) : '\n' ∉ Nat.toDigits 10 n := fun h =>
    absurd (Nat.isDigit_of_mem_toDigits (by decide) (by decide) h) (by decide)
  rw [text]
  split
  · decide
  · split
    · split <;> decide
    · have hfilled (n k : Nat) : '\n' ∉ List.replicate k '0' ++ Nat.toDigits 10 n := by
        simp [hdigits]
      have hpoint {cs : List Char} (h : '\n' ∉ cs) (k : Nat) :
          '\n' ∉ cs.take k ++ '.' :: cs.drop k := by
        rw [List.mem_append, List.mem_cons, not_or, not_or]
        exact ⟨mt List.mem_of_mem_take h, by decide, mt List.mem_of_mem_drop h⟩
      rw [String.toList_ofList]
      split
      · exact List.not_mem_cons_of_ne_of_not_mem (by decide) (hpoint (hfilled _ _) _)
      · exact hpoint (hfilled _ _) _

namespace Context

variable {fs : FileSystem} {limit : Int} {ix : Indexer} {ls rest : List (List Char)}

/-! ## A reader -/

/-- Whether a line starts with the fence. -/
def isFence (l : List Char) : Bool := fence.toList.isPrefixOf l

/-- The lines between fences, read from outside or from inside of an excerpt. The last excerpt may
lack its end. -/
def betweenFences : Bool → List (List Char) → List (List (List Char))
  | false, [] => []
  | true, [] => [[]]
  | false, l :: ls => betweenFences (isFence l) ls
  | true, l :: ls =>
    if isFence l then [] :: betweenFences false ls else (betweenFences true ls).modifyHead (l :: ·)

/-- The texts between fences. -/
def readBack (text : String) : List String :=
  (betweenFences false (Text.splitOn '\n' text.toList)).map fun ls =>
    String.ofList (['\n'].intercalate ls)

/-- No line of a text starts with the fence. -/
def Fenceless (cs : List Char) : Prop := ∀ l ∈ Text.splitOn '\n' cs, isFence l = false

instance (cs : List Char) : Decidable (Fenceless cs) :=
  inferInstanceAs (Decidable (∀ l ∈ Text.splitOn '\n' cs, isFence l = false))

theorem fenceless_iff {cs : List Char} :
    Fenceless cs ↔ (Text.splitOn '\n' cs).countP isFence = 0 := by
  simp [Fenceless, List.countP_eq_zero]

theorem isFence_append (l : List Char) : isFence (fence.toList ++ l) = true := by
  simp [isFence, List.isPrefixOf_iff_prefix]

theorem betweenFences_outside (h : ls.countP isFence = 0) (rest : List (List Char)) :
    betweenFences false (ls ++ rest) = betweenFences false rest := by
  induction ls with
  | nil => rfl
  | cons l ls ih =>
    rw [List.countP_eq_zero, List.forall_mem_cons, ← List.countP_eq_zero] at h
    rw [List.cons_append, betweenFences, Bool.eq_false_iff.2 h.1, ih h.2]

theorem betweenFences_inside (h : ls.countP isFence = 0) {l : List Char} (hl : isFence l = true)
    (rest : List (List Char)) :
    betweenFences true (ls ++ l :: rest) = ls :: betweenFences false rest := by
  induction ls with
  | nil => rw [List.nil_append, betweenFences, if_pos hl]
  | cons l' ls ih =>
    rw [List.countP_eq_zero, List.forall_mem_cons, ← List.countP_eq_zero] at h
    rw [List.cons_append, betweenFences, if_neg h.1, ih h.2]
    rfl

/-- Fences come in pairs. -/
theorem length_betweenFences (b : Bool) (ls : List (List Char)) : (betweenFences b ls).length =
    if b then ls.countP isFence / 2 + 1 else (ls.countP isFence + 1) / 2 := by
  induction ls generalizing b with
  | nil => cases b <;> rfl
  | cons l ls ih =>
    cases b <;> cases hl : isFence l <;> simp [betweenFences, hl, ih]
    omega

/-! ## Parts -/

/-- A hit in a block, with what its file is called and the entry of the file. -/
structure Shown where
  name : Path
  entry : Entry
  hit : Hit

/-- The hits whose files are in the index, with the entries. -/
def stored (ix : Indexer) (hits : List Hit) : List (Entry × Hit) :=
  hits.filterMap fun h => (ix.store.get? h.file).map (·, h)

namespace Shown

/-- Shows the hit in an entry of an index. -/
def Shows (fs : FileSystem) (ix : Indexer) (eh : Entry × Hit) (x : Shown) : Prop :=
  ix.displayName fs (.ofText eh.2.file) = .ok x.name ∧ x.entry = eh.1 ∧ x.hit = eh.2

def part (limit : Int) (x : Shown) : String := Context.part limit x.name x.entry x.hit

/-- The excerpt, as it is written. -/
def excerpt (limit : Int) (x : Shown) : String := truncate (Context.excerpt x.entry x.hit) limit

/-- What stands behind the fence above the excerpt. -/
def tag (x : Shown) : String := if x.entry.language = plainText then "" else x.entry.language

/-- The line above the fence, its end excluded. -/
def head (x : Shown) : String :=
  let symbol := match x.hit.symbol with
    | some s => ", symbol: " ++ s.name
    | none => ""
  "File: " ++ x.name.toText ++ " (relevance: " ++ Number.Fixed.text 1 (x.hit.score * 100.0) ++
    "%" ++ symbol ++ ")"

/-- No line starts with the fence where none belongs. -/
structure Readable (limit : Int) (x : Shown) : Prop where
  head : Fenceless x.head.toList
  tag : '\n' ∉ x.tag.toList
  excerpt : Fenceless (x.excerpt limit).toList

/-- What the file, the symbol and the language are called is on one line each. -/
structure Plain (x : Shown) : Prop where
  name : '\n' ∉ x.name.toText.toList
  symbol : ∀ s, x.hit.symbol = some s → '\n' ∉ s.name.toList
  tag : '\n' ∉ x.tag.toList

/-- Under plain names only the excerpt counts. -/
theorem Plain.readable_iff {x : Shown} (h : x.Plain) :
    x.Readable limit ↔ Fenceless (x.excerpt limit).toList := by
  refine ⟨fun hr => hr.excerpt, fun he => ⟨?_, h.tag, he⟩⟩
  have hline : '\n' ∉ x.head.toList := by
    have hnumber := Number.Fixed.newline_not_mem_text 1 (x.hit.score * 100.0)
    have hname := h.name
    rw [head]
    cases hs : x.hit.symbol with
    | none => simp [hname, hnumber]
    | some s => simp [hname, hnumber, h.symbol s hs]
  have hfile (cs : List Char) : isFence ("File: ".toList ++ cs) = false := rfl
  intro l hl
  rw [Text.splitOn_of_not_mem hline, List.mem_singleton] at hl
  rw [hl, head]
  simp only [String.toList_append, List.append_assoc]
  exact hfile _

/-- The lines of the language behind its first one. -/
def tagRest (x : Shown) : List (List Char) := (Text.splitOn '\n' x.tag.toList).tail

/-- The lines of a part. -/
def lines (limit : Int) (x : Shown) : List (List Char) :=
  Text.splitOn '\n' x.head.toList ++ (fence.toList ++ firstLine x.tag.toList) :: (x.tagRest ++
    Text.splitOn '\n' (x.excerpt limit).toList ++ [fence.toList, []])

theorem splitOn_tag (x : Shown) :
    Text.splitOn '\n' x.tag.toList = firstLine x.tag.toList :: x.tagRest := by
  obtain ⟨rest, h⟩ := exists_splitOn_eq x.tag.toList
  rw [tagRest, h]
  rfl

theorem part_append (limit : Int) (x : Shown) (cs : List Char) : (x.part limit).toList ++ cs =
    x.head.toList ++ '\n' :: ((fence.toList ++ x.tag.toList) ++ '\n' ::
      ((x.excerpt limit).toList ++ '\n' :: (fence.toList ++ '\n' :: ([] ++ '\n' :: cs)))) := by
  cases h : x.hit.symbol <;> simp [part, Context.part, title, head, tag, excerpt, h]

theorem splitOn_part (limit : Int) (x : Shown) (cs : List Char) :
    Text.splitOn '\n' ((x.part limit).toList ++ cs) = x.lines limit ++ Text.splitOn '\n' cs := by
  have hfence : '\n' ∉ fence.toList := by decide
  rw [part_append]
  simp only [Text.splitOn_append, Text.splitOn_append_of_not_mem hfence x.splitOn_tag,
    Text.splitOn_of_not_mem hfence]
  simp [lines, Text.splitOn]

/-- The fences of a part: two, and those that do not belong there. -/
theorem countP_lines (limit : Int) (x : Shown) : (x.lines limit).countP isFence =
    (Text.splitOn '\n' x.head.toList).countP isFence + x.tagRest.countP isFence +
      (Text.splitOn '\n' (x.excerpt limit).toList).countP isFence + 2 := by
  have hempty : isFence [] = false := by decide
  have hfence : isFence fence.toList = true := by decide
  simp only [lines, List.countP_append, List.countP_cons, List.countP_nil, isFence_append, hempty,
    hfence, if_true, Bool.false_eq_true, if_false]
  omega

theorem tagRest_eq_nil_iff {x : Shown} : x.tagRest = [] ↔ '\n' ∉ x.tag.toList := by
  constructor
  · intro h
    have hsplit := ended_splitOn x.tag.toList
    rw [x.splitOn_tag, h, ended_cons] at hsplit
    rw [← List.append_cancel_right hsplit]
    exact not_mem_firstLine _
  · intro h
    rw [tagRest, Text.splitOn_of_not_mem h, List.tail_cons]

theorem readable_iff {x : Shown} :
    x.Readable limit ↔ (x.lines limit).countP isFence = 2 ∧ x.tagRest = [] := by
  rw [countP_lines]
  constructor
  · rintro ⟨hhead, htag, hexcerpt⟩
    rw [fenceless_iff] at hhead hexcerpt
    have htag := tagRest_eq_nil_iff.2 htag
    rw [hhead, hexcerpt, htag]
    exact ⟨rfl, rfl⟩
  · rintro ⟨hcount, htag⟩
    refine ⟨fenceless_iff.2 (by omega), tagRest_eq_nil_iff.1 htag, fenceless_iff.2 (by omega)⟩

/-- Without other fences a part is read as the rest of the language and the excerpt. -/
theorem betweenFences_lines {x : Shown} (h : (x.lines limit).countP isFence = 2)
    (rest : List (List Char)) : betweenFences false (x.lines limit ++ rest) =
      (x.tagRest ++ Text.splitOn '\n' (x.excerpt limit).toList) :: betweenFences false rest := by
  rw [countP_lines] at h
  have hhead : (Text.splitOn '\n' x.head.toList).countP isFence = 0 := by omega
  have hbody : (x.tagRest ++ Text.splitOn '\n' (x.excerpt limit).toList).countP isFence = 0 := by
    rw [List.countP_append]
    omega
  have hfence : isFence fence.toList = true := by decide
  rw [lines, List.append_assoc, betweenFences_outside hhead, List.cons_append, betweenFences,
    isFence_append, List.append_assoc, List.cons_append, betweenFences_inside hbody hfence]
  rfl

/-- The rest of a language makes the excerpt that is read longer than it is. -/
theorem ofList_tagRest_iff {x : Shown} : String.ofList (['\n'].intercalate (x.tagRest ++
    Text.splitOn '\n' (x.excerpt limit).toList)) = x.excerpt limit ↔ x.tagRest = [] := by
  have hne := Text.splitOn_ne_nil '\n' (x.excerpt limit).toList
  constructor
  · intro h
    have hlist := congrArg (String.toList · ++ ['\n']) h
    simp only [String.toList_ofList] at hlist
    rw [← ended_eq_intercalate (by simp [hne]), ← ended_splitOn, ended, ended, List.flatMap_append,
      List.append_left_eq_self] at hlist
    by_contra hrest
    obtain ⟨l, rest, hrest⟩ := List.exists_cons_of_ne_nil hrest
    simp [hrest] at hlist
  · intro h
    rw [h, List.nil_append, Text.splitOn_eq, List.intercalate_splitOn, String.ofList_toList]

end Shown

/-! ## Blocks -/

/-- The block for hits that are shown. -/
def block (limit : Int) (xs : List Shown) : String :=
  if xs = [] then "" else header ++ String.join (xs.map (Shown.part limit))

theorem splitOn_join (limit : Int) (xs : List Shown) :
    Text.splitOn '\n' (String.join (xs.map (Shown.part limit))).toList =
      xs.flatMap (Shown.lines limit) ++ [[]] := by
  induction xs with
  | nil => rfl
  | cons x xs ih =>
    rw [List.map_cons, String.join_cons, String.toList_append, Shown.splitOn_part, ih,
      List.flatMap_cons, List.append_assoc]

/-- The header of a block and the blank line below it hold no fence. -/
theorem betweenFences_block (limit : Int) (xs : List Shown) :
    betweenFences false (Text.splitOn '\n' (block limit xs).toList) =
      betweenFences false (xs.flatMap (Shown.lines limit) ++ [[]]) := by
  rw [block]
  split
  · next h =>
    rw [h]
    rfl
  · have hheader : header.toList =
        "### Relevant code from your codebase:".toList ++ '\n' :: ([] ++ ['\n']) := by decide
    have hline : '\n' ∉ "### Relevant code from your codebase:".toList := by decide
    rw [String.toList_append, hheader, ← splitOn_join]
    simp only [List.append_assoc, List.cons_append, List.nil_append, Text.splitOn_append,
      Text.splitOn_of_not_mem hline, Text.splitOn_cons_self]
    rfl

theorem betweenFences_parts {xs : List Shown} (h : ∀ x ∈ xs, (x.lines limit).countP isFence = 2) :
    betweenFences false (xs.flatMap (Shown.lines limit) ++ [[]]) =
      xs.map fun x => x.tagRest ++ Text.splitOn '\n' (x.excerpt limit).toList := by
  induction xs with
  | nil => rfl
  | cons x xs ih =>
    obtain ⟨hx, hxs⟩ := List.forall_mem_cons.1 h
    rw [List.flatMap_cons, List.append_assoc, Shown.betweenFences_lines hx, ih hxs, List.map_cons]

/-- Numbers of which none is below `k`, but which are not more than `k` on the average. -/
theorem eq_of_sum_le {α : Type} {f : α → Nat} {k : Nat} {xs : List α} (h : ∀ x, k ≤ f x)
    (hsum : (xs.map f).sum ≤ k * xs.length) : ∀ x ∈ xs, f x = k := by
  intro x hx
  by_contra hne
  have hmore := List.sum_lt_sum (fun _ => k) f (fun x _ => h x)
    ⟨x, hx, lt_of_le_of_ne (h x) (Ne.symm hne)⟩
  rw [List.map_const', List.sum_replicate, smul_eq_mul, mul_comm] at hmore
  omega

/-- **A reader of a block.** The excerpts are read back if and only if no line starts with the fence
where none belongs: else there are more fences than two for each part. -/
theorem readBack_block_iff {xs : List Shown} :
    readBack (block limit xs) = xs.map (Shown.excerpt limit) ↔ ∀ x ∈ xs, x.Readable limit := by
  have hread : (∀ x ∈ xs, (x.lines limit).countP isFence = 2) →
      readBack (block limit xs) = xs.map fun x => String.ofList (['\n'].intercalate
        (x.tagRest ++ Text.splitOn '\n' (x.excerpt limit).toList)) := by
    intro h
    rw [readBack, betweenFences_block, betweenFences_parts h, List.map_map]
    rfl
  constructor
  · intro h
    have hcount : ∀ x ∈ xs, (x.lines limit).countP isFence = 2 := by
      have hlen := congrArg List.length h
      rw [readBack, betweenFences_block, List.length_map, List.length_map, length_betweenFences,
        List.countP_append, List.countP_flatMap, if_neg Bool.false_ne_true] at hlen
      have hsum : (xs.map (List.countP isFence ∘ Shown.lines limit)).sum ≤ 2 * xs.length := by omega
      have htwo (x : Shown) : 2 ≤ (List.countP isFence ∘ Shown.lines limit) x := by
        rw [Function.comp_apply, Shown.countP_lines]
        omega
      simpa only [Function.comp_apply] using eq_of_sum_le htwo hsum
    rw [hread hcount] at h
    intro x hx
    have htag := Shown.ofList_tagRest_iff.1 (List.map_inj_left.1 h x hx)
    exact Shown.readable_iff.2 ⟨hcount x hx, htag⟩
  · intro h
    rw [hread fun x hx => (Shown.readable_iff.1 (h x hx)).1]
    exact List.map_congr_left fun x hx =>
      Shown.ofList_tagRest_iff.2 (Shown.readable_iff.1 (h x hx)).2

/-! ## What is shown -/

theorem displayName_ok_iff {p : Path} : (∃ n, ix.displayName fs p = .ok n) ↔
    ∃ roots, ix.roots.mapM fs.resolve = .ok roots := by
  rw [Indexer.displayName, Indexer.containingRoot?]
  cases ix.roots.mapM fs.resolve with
  | error e => simp [bind, Except.bind]
  | ok roots =>
    simp only [bind, Except.bind, pure, Except.pure, Except.ok.injEq, exists_eq', iff_true]
    split
    · exact ⟨_, rfl⟩
    · split <;> exact ⟨_, rfl⟩

/-- Each hit whose file is in the index has a part, in the order of the hits. -/
theorem parts_eq_ok_iff {hits : List Hit} {ps : List String} :
    parts fs limit ix hits = .ok ps ↔ ∃ xs, List.Forall₂ (Shown.Shows fs ix) (stored ix hits) xs ∧
      xs.map (Shown.part limit) = ps := by
  induction hits generalizing ps with
  | nil =>
    rw [parts]
    constructor
    · rintro ⟨⟩
      exact ⟨[], .nil, rfl⟩
    · rintro ⟨xs, hxs, rfl⟩
      cases hxs
      rfl
  | cons h hs ih =>
    rw [parts]
    cases he : ix.store.get? h.file with
    | none =>
      have hstored : stored ix (h :: hs) = stored ix hs := by simp [stored, he]
      rw [hstored]
      exact ih
    | some e =>
      have hstored : stored ix (h :: hs) = (e, h) :: stored ix hs := by simp [stored, he]
      rw [hstored]
      simp only [Except.bind_eq_ok_iff, ih, List.forall₂_cons_left_iff]
      constructor
      · rintro ⟨name, hname, rest, ⟨xs, hxs, rfl⟩, ⟨⟩⟩
        exact ⟨_, ⟨⟨name, e, h⟩, xs, ⟨hname, rfl, rfl⟩, hxs, rfl⟩, rfl⟩
      · rintro ⟨_, ⟨x, xs, ⟨hname, rfl, rfl⟩, hxs, rfl⟩, rfl⟩
        exact ⟨x.name, hname, _, ⟨xs, hxs, rfl⟩, rfl⟩

theorem Shown.map_excerpt {es : List (Entry × Hit)} {xs : List Shown}
    (h : List.Forall₂ (Shows fs ix) es xs) :
    xs.map (excerpt limit) = es.map fun (e, h) => truncate (Context.excerpt e h) limit := by
  induction h with
  | nil => rfl
  | cons hx _ ih =>
    obtain ⟨-, he, hh⟩ := hx
    rw [List.map_cons, List.map_cons, ih, Shown.excerpt, he, hh]

theorem Shown.mem_stored {es : List (Entry × Hit)} {xs : List Shown}
    (h : List.Forall₂ (Shows fs ix) es xs) {x : Shown} (hx : x ∈ xs) :
    (x.entry, x.hit) ∈ es ∧ ix.displayName fs (.ofText x.hit.file) = .ok x.name := by
  induction h with
  | nil => cases hx
  | cons hshows _ ih =>
    rcases List.mem_cons.1 hx with rfl | hx
    · obtain ⟨hname, he, hh⟩ := hshows
      exact ⟨by simp [he, hh], hh ▸ hname⟩
    · exact ⟨List.mem_cons_of_mem _ (ih hx).1, (ih hx).2⟩

theorem format_eq_ok_iff {hits : List Hit} {text : String} : format fs limit ix hits = .ok text ↔
    ∃ xs, List.Forall₂ (Shown.Shows fs ix) (stored ix hits) xs ∧ block limit xs = text := by
  simp only [format, Except.bind_eq_ok_iff, parts_eq_ok_iff]
  constructor
  · rintro ⟨_, ⟨xs, hxs, rfl⟩, ⟨⟩⟩
    exact ⟨xs, hxs, by simp [block]⟩
  · rintro ⟨xs, hxs, rfl⟩
    exact ⟨_, ⟨xs, hxs, rfl⟩, by simp [block, pure, Except.pure]⟩

/-- There is a block unless a root leads nowhere, and then too if there is nothing to show. -/
theorem format_ok_iff {hits : List Hit} : (∃ text, format fs limit ix hits = .ok text) ↔
    stored ix hits = [] ∨ ∃ roots, ix.roots.mapM fs.resolve = .ok roots := by
  simp only [format_eq_ok_iff]
  generalize stored ix hits = es
  constructor
  · rintro ⟨text, xs, hxs, -⟩
    cases hxs with
    | nil => exact .inl rfl
    | cons hx => exact .inr (displayName_ok_iff.1 ⟨_, hx.1⟩)
  · rintro (rfl | h)
    · exact ⟨_, [], .nil, rfl⟩
    · have hshown : ∃ xs, List.Forall₂ (Shown.Shows fs ix) es xs := by
        induction es with
        | nil => exact ⟨[], .nil⟩
        | cons eh es ih =>
          obtain ⟨name, hname⟩ := displayName_ok_iff.2 h
          obtain ⟨xs, hxs⟩ := ih
          exact ⟨⟨name, eh.1, eh.2⟩ :: xs, .cons ⟨hname, rfl, rfl⟩ hxs⟩
      obtain ⟨xs, hxs⟩ := hshown
      exact ⟨_, xs, hxs, rfl⟩

/-- **When a block can be read back.** There is a block unless a root leads nowhere. It has a part
for each hit whose file is in the index, in the order of the hits. A reader who takes what stands
between a line that starts with the fence and the next such line finds the truncated excerpts, if
and only if no other line starts with it: under plain names, if no line of an excerpt does. -/
theorem format_readBack_iff (fs : FileSystem) (limit : Int) (ix : Indexer) (hits : List Hit) :
    ((∃ text, format fs limit ix hits = .ok text) ↔
      stored ix hits = [] ∨ ∃ roots, ix.roots.mapM fs.resolve = .ok roots) ∧
    ∀ text, format fs limit ix hits = .ok text → ∃ xs,
      List.Forall₂ (Shown.Shows fs ix) (stored ix hits) xs ∧ block limit xs = text ∧
        (readBack text = (stored ix hits).map (fun (e, h) => truncate (excerpt e h) limit) ↔
          ∀ x ∈ xs, x.Readable limit) ∧
        ∀ x ∈ xs, x.Plain → (x.Readable limit ↔ Fenceless (x.excerpt limit).toList) := by
  refine ⟨format_ok_iff, fun text htext => ?_⟩
  obtain ⟨xs, hxs, rfl⟩ := format_eq_ok_iff.1 htext
  refine ⟨xs, hxs, rfl, ?_, fun x _ hx => hx.readable_iff⟩
  rw [← Shown.map_excerpt hxs]
  exact readBack_block_iff

/-- An index of three files without roots. -/
def notebook : Indexer where
  roots := []
  store := [("/a.md", "markdown", "# f\n\x60\x60\x60\nf()\n\x60\x60\x60\n"),
    ("/b.py", "python", "x = '\x60\x60\x60'\n"),
    ("/c.txt", "plaintext", "c")].foldl
      (fun s (path, language, content) => s.put { path, language, content }) .empty

theorem displayName_notebook (p : Path) : notebook.displayName fs p = .ok p := by
  simp [Indexer.displayName, Indexer.containingRoot?, notebook, sortPaths, pure, Except.pure, bind,
    Except.bind]

/-- Two excerpts are read back, though one of them holds a fence inside of a line. Nothing is shown
for a file that is not in the index. -/
theorem notebook_readBack : ∃ text,
    format (.empty .root) 2000 notebook
        [⟨"/c.txt", none, 1.0⟩, ⟨"/d.py", none, 0.9⟩, ⟨"/b.py", none, 0.5⟩] = .ok text ∧
      readBack text = ["c", "x = '\x60\x60\x60'\n"] := by
  obtain ⟨hok, hread⟩ := format_readBack_iff (.empty .root) 2000 notebook
    [⟨"/c.txt", none, 1.0⟩, ⟨"/d.py", none, 0.9⟩, ⟨"/b.py", none, 0.5⟩]
  obtain ⟨text, htext⟩ := hok.2 (.inr ⟨[], rfl⟩)
  obtain ⟨xs, hxs, -, hiff, hplain⟩ := hread text htext
  refine ⟨text, htext, (hiff.2 fun x hx => ?_).trans (by decide +kernel)⟩
  obtain ⟨hmem, hname⟩ := Shown.mem_stored hxs hx
  rw [displayName_notebook] at hname
  have hall : ∀ eh ∈ stored notebook
      [⟨"/c.txt", none, 1.0⟩, ⟨"/d.py", none, 0.9⟩, ⟨"/b.py", none, 0.5⟩],
      '\n' ∉ (Path.ofText eh.2.file).toText.toList ∧ eh.2.symbol.isNone ∧
        '\n' ∉ eh.1.language.toList ∧ Fenceless (truncate (excerpt eh.1 eh.2) 2000).toList := by
    decide +kernel
  obtain ⟨hpath, hsymbol, hlanguage, hexcerpt⟩ := hall _ hmem
  refine (hplain x hx ⟨?_, fun s hs => ?_, ?_⟩).2 hexcerpt
  · rwa [← Except.ok.inj hname]
  · simp [hs] at hsymbol
  · rw [Shown.tag]
    split
    · simp
    · exact hlanguage

/-- An excerpt with a fence of its own ends there, and what stands behind its last fence is taken
for another one. -/
theorem notebook_closes_early : ∃ text,
    format (.empty .root) 2000 notebook [⟨"/a.md", none, 1.0⟩] = .ok text ∧
      readBack text = ["# f", ""] ∧
      (stored notebook [⟨"/a.md", none, 1.0⟩]).map (fun (e, h) => truncate (excerpt e h) 2000) =
        ["# f\n\x60\x60\x60\nf()\n\x60\x60\x60\n"] := by
  refine ⟨_, format_eq_ok_iff.2 ⟨[⟨.ofText "/a.md", _, _⟩],
    .cons ⟨displayName_notebook _, rfl, rfl⟩ .nil, rfl⟩, ?_, ?_⟩ <;> decide +kernel

end Context
end CodeAtlas
