import CodeAtlas.Proofs.Source.Places
import CodeAtlas.Source.Columns
import CodeAtlas.Source.Excerpt

/-!
# Excerpts and the places of parsers

Excerpts break a text at more characters than parsers do. As long as both agree on the line ends up
to a place (`Text.agreeing`), the text before it is whole lines of the excerpt and a part of the line
of the place (`Text.exists_breaks`), and its byte column becomes the number of characters before it
(`Text.Broken.column_eq`); so the excerpt of a span is the text between its places
(`Text.excerpt_between`).
-/

namespace CodeAtlas.Text

/-- Whether all line breaks are line ends for a parser too, as whole ones. -/
def agreeing (cr : Bool) : List Char → Bool
  | [] => true
  | '\r' :: '\n' :: cs => agreeing cr cs
  | c :: cs => (c = '\n' || !isLineBreak c || (cr && c = '\r')) && agreeing cr cs

/-! ## Lines -/

theorem lines_cons (c : Char) (cs : List Char) : lines (c :: cs) = consChar c (lines cs) := rfl

theorem exists_lines_cons {cs : List Char} (h : cs ≠ []) :
    ∃ l ls, lines cs = l :: ls ∧ l.head? = cs.head? := by
  have hflat := flatten_lines cs
  cases hl : lines cs with
  | nil => exact absurd (by simpa [hl] using hflat.symm) h
  | cons l ls =>
    refine ⟨l, ls, rfl, ?_⟩
    have hne : l ≠ [] := ne_nil_of_mem_lines l (by rw [hl]; exact List.mem_cons_self)
    rw [← hflat, hl, List.flatten_cons, List.head?_append, List.head?_eq_some_head hne]
    rfl

/-- Text without line breaks joins the line behind it. -/
theorem lines_unbroken {b : List Char} (hb : ∀ c ∈ b, isLineBreak c = false) {cs : List Char}
    (hne : b ++ cs ≠ []) :
    lines (b ++ cs) = (b ++ (lines cs).headD []) :: (lines cs).tail := by
  induction b with
  | nil =>
    have hcs : cs ≠ [] := hne
    obtain ⟨l, ls, hl, -⟩ := exists_lines_cons hcs
    simp [hl]
  | cons c b ih =>
    have hc : isLineBreak c = false := hb c List.mem_cons_self
    rw [List.cons_append, lines_cons]
    by_cases hne' : b ++ cs = []
    · obtain ⟨rfl, rfl⟩ := List.append_eq_nil_iff.1 hne'
      rfl
    · rw [ih (fun d hd => hb d (List.mem_cons_of_mem c hd)) hne']
      simp [consChar, hc]

/-- A line end closes the text before it. -/
theorem lines_closed {b : List Char} (hb : ∀ c ∈ b, isLineBreak c = false) {e : Char}
    (he : isLineBreak e = true) {cs : List Char} (hcs : e = '\r' → cs.head? ≠ some '\n') :
    lines (b ++ e :: cs) = (b ++ [e]) :: lines cs := by
  have hend : lines (e :: cs) = [e] :: lines cs := by
    rw [lines_cons]
    by_cases hne : cs = []
    · subst hne
      rfl
    · obtain ⟨l, ls, hl, hhead⟩ := exists_lines_cons hne
      have hkeep : (e = '\r' && l.head? = some '\n') = false := by
        by_cases her : e = '\r'
        · simp [hhead, hcs her]
        · simp [her]
      simp [hl, consChar, he, hkeep]
  rw [lines_unbroken hb (by simp), hend]
  rfl

/-- A carriage return and a line feed together are one line end. -/
theorem lines_closed_pair {b : List Char} (hb : ∀ c ∈ b, isLineBreak c = false) (cs : List Char) :
    lines (b ++ '\r' :: '\n' :: cs) = (b ++ ['\r', '\n']) :: lines cs := by
  have hfeed : lines ('\n' :: cs) = ['\n'] :: lines cs :=
    lines_closed (b := []) (by simp) rfl (by simp)
  have hend : lines ('\r' :: '\n' :: cs) = ['\r', '\n'] :: lines cs := by
    rw [lines_cons, hfeed]
    rfl
  rw [lines_unbroken hb (by simp), hend]
  rfl

/-! ## Cuts -/

theorem byteLength_append (as bs : List Char) :
    byteLength (as ++ bs) = byteLength as + byteLength bs := by
  induction as with
  | nil => simp [byteLength]
  | cons a as ih =>
    simp only [byteLength, List.cons_append, List.foldr_cons] at ih ⊢
    omega

theorem byteLength_singleton (c : Char) : byteLength [c] = c.utf8Size := rfl

variable {cr : Bool}

/-- Text up to which the line ends agree, behind a part `b` of a line, in front of `bs`: whole lines,
and a part of the line behind them. -/
structure Breaks (cr : Bool) (line : Nat) (b as bs : List Char) (done : List (List Char))
    (part : List Char) : Prop where
  text : b ++ as = done.flatten ++ part
  unbroken : ∀ c ∈ part, isLineBreak c = false
  lines : lines (b ++ (as ++ bs)) = done ++ lines (part ++ bs)
  place : (⟨line, byteLength b⟩ : Place).pass cr as bs = ⟨line + done.length, byteLength part⟩

namespace Breaks

variable {line : Nat} {b as bs part : List Char} {done : List (List Char)} {c : Char}

/-- A line end closes a line more. -/
theorem close {e : List Char} (h : Breaks cr (line + 1) [] as bs done part)
    (hlines : Text.lines (b ++ (e ++ (as ++ bs))) = (b ++ e) :: Text.lines (as ++ bs))
    (hplace : (⟨line, byteLength b⟩ : Place).pass cr e (as ++ bs) = ⟨line + 1, 0⟩) :
    Breaks cr line b (e ++ as) bs ((b ++ e) :: done) part where
  text := by
    rw [List.flatten_cons, List.append_assoc, ← h.text, List.nil_append, List.append_assoc]
  unbroken := h.unbroken
  lines := by
    rw [List.append_assoc, hlines, List.cons_append, ← h.lines, List.nil_append]
  place := by
    rw [Place.pass_append, hplace]
    refine h.place.trans ?_
    rw [List.length_cons, Nat.add_right_comm, Nat.add_assoc]

/-- Any other character belongs to the part of the line. -/
theorem extend (h : Breaks cr line (b ++ [c]) as bs done part) (hc : isLineBreak c = false) :
    Breaks cr line b (c :: as) bs done part where
  text := by simpa using h.text
  unbroken := h.unbroken
  lines := by simpa using h.lines
  place := by
    have hr : c ≠ '\r' := by
      rintro rfl
      exact absurd hc (by decide)
    have hn : c ≠ '\n' := by
      rintro rfl
      exact absurd hc (by decide)
    have hnext : (⟨line, byteLength b⟩ : Place).next cr c (as ++ bs) =
        ⟨line, byteLength (b ++ [c])⟩ := by
      simp [Place.next, Place.after, hr, hn, byteLength_append, byteLength_singleton]
    rw [Place.pass, hnext]
    exact h.place

end Breaks

/-- A line end that is one for a parser too, and is not parted, takes a place to the next line. -/
theorem next_closed {c : Char} {rest : List Char} (p : Place)
    (hend : c = '\n' ∨ (cr = true ∧ c = '\r')) (hwhole : c = '\r' → rest.head? ≠ some '\n') :
    p.next cr c rest = ⟨p.line + 1, 0⟩ := by
  rcases hend with rfl | ⟨rfl, rfl⟩
  · simp [Place.next, Place.after]
  · rw [Place.next, if_pos (by decide), if_neg (hwhole rfl)]

theorem exists_breaks {as bs : List Char} (h : agreeing cr as = true) (hu : Unsplit cr as bs)
    (line : Nat) {b : List Char} (hb : ∀ c ∈ b, isLineBreak c = false) :
    ∃ done part, Breaks cr line b as bs done part := by
  induction as using agreeing.induct generalizing b line with
  | case1 => exact ⟨[], b, by simp, hb, by simp, rfl⟩
  | case2 cs ih =>
    obtain ⟨done, part, hbreaks⟩ :=
      ih (by simpa [agreeing] using h) (hu.of_append ['\r', '\n']) (line + 1) (b := []) (by simp)
    refine ⟨_, part, hbreaks.close (e := ['\r', '\n']) (lines_closed_pair hb (cs ++ bs)) ?_⟩
    cases cr <;> simp [Place.pass, Place.next, Place.after]
  | case3 c cs hnot ih =>
    obtain ⟨hend, hrest⟩ : (c = '\n' || !isLineBreak c || (cr && c = '\r')) = true ∧
        agreeing cr cs = true := by
      simpa [agreeing.eq_3 cr c cs hnot] using h
    have hu' : Unsplit cr cs bs := hu.of_append [c]
    cases hc : isLineBreak c with
    | false =>
      obtain ⟨done, part, hbreaks⟩ :=
        ih hrest hu' line (b := b ++ [c]) (by simpa [or_imp, forall_and, hc] using hb)
      exact ⟨done, part, hbreaks.extend hc⟩
    | true =>
      have hend : c = '\n' ∨ (cr = true ∧ c = '\r') := by simpa [hc] using hend
      have hwhole : c = '\r' → (cs ++ bs).head? ≠ some '\n' := by
        intro hr
        cases cs with
        | nil =>
          rcases hend with rfl | ⟨hcr, -⟩
          · exact absurd hr (by decide)
          · exact hu hcr (by simp [hr])
        | cons d ds =>
          intro hd
          obtain rfl : d = '\n' := by simpa using hd
          exact hnot ds hr rfl
      obtain ⟨done, part, hbreaks⟩ := ih hrest hu' (line + 1) (b := []) (by simp)
      exact ⟨_, part, hbreaks.close (e := [c]) (lines_closed hb hc hwhole)
        (next_closed _ hend hwhole)⟩

/-- What stands before a cut up to which the line ends agree: whole lines, and a part of the line
behind them. -/
structure Broken (as bs : List Char) (q : Place) (done : List (List Char)) (part : List Char) :
    Prop where
  text : as = done.flatten ++ part
  unbroken : ∀ c ∈ part, isLineBreak c = false
  lines : lines (as ++ bs) = done ++ lines (part ++ bs)
  line : q.line = done.length + 1
  column : q.column = byteLength part

/-- A cut up to which the line ends agree. -/
theorem exists_broken_origin {as bs : List Char} (h : agreeing cr as = true)
    (hu : Unsplit cr as bs) : ∃ done part, Broken as bs (origin.pass cr as bs) done part := by
  obtain ⟨done, part, hbreaks⟩ := exists_breaks h hu 1 (b := []) (by simp)
  have hp : origin.pass cr as bs = ⟨1 + done.length, byteLength part⟩ := hbreaks.place
  refine ⟨done, part, hbreaks.text, hbreaks.unbroken, hbreaks.lines, ?_, ?_⟩
  · rw [hp]
    exact Nat.add_comm _ _
  · rw [hp]

/-! ## Columns -/

theorem charsWithin_byteLength (part rest : List Char) :
    charsWithin (part ++ rest) (byteLength part) = part.length := by
  induction part with
  | nil =>
    cases rest with
    | nil => rfl
    | cons c cs =>
      have hc : 0 < c.utf8Size := c.utf8Size_pos
      simp [charsWithin, byteLength, Nat.not_le.2 hc]
  | cons c part ih =>
    have hc : byteLength (c :: part) = c.utf8Size + byteLength part := rfl
    rw [List.cons_append, charsWithin, hc, if_pos (Nat.le_add_right _ _), Nat.add_sub_cancel_left, ih]
    rfl

theorem byteLength_of_isAscii {part rest : List Char} (h : isAscii (part ++ rest) = true) :
    byteLength part = part.length := by
  induction part with
  | nil => rfl
  | cons c part ih =>
    obtain ⟨hc, hrest⟩ : c.toNat < 128 ∧ isAscii (part ++ rest) = true := by
      simpa [isAscii] using h
    have hone : c.utf8Size = 1 := Char.utf8Size_eq_one_iff.2 (by simp [UInt32.le_iff_toNat_le]; omega)
    have hlen : byteLength (c :: part) = c.utf8Size + byteLength part := rfl
    rw [hlen, ih hrest, hone, List.length_cons, Nat.add_comm]

theorem lineText_append {part : List Char} (h : ∀ c ∈ part, isLineBreak c = false)
    (rest : List Char) : lineText (part ++ rest) = part ++ lineText rest := by
  rw [lineText, List.takeWhile_append_of_pos fun c hc => by simp [h c hc]]
  rfl

namespace Broken

variable {as bs : List Char} {q : Place} {done : List (List Char)} {part : List Char}

theorem getElem?_lines (h : Broken as bs q done part) (hne : part ++ bs ≠ []) :
    (Text.lines (as ++ bs))[done.length]? = some (part ++ (Text.lines bs).headD []) := by
  rw [h.lines, lines_unbroken h.unbroken hne]
  simp

/-- The byte column of the place becomes the number of characters of its line before it. -/
theorem column_eq (h : Broken as bs q done part) (hne : part ++ bs ≠ []) :
    (ColumnMap.ofText (as ++ bs)).column (q.line - 1 : Nat) q.column = part.length := by
  have hline : (ColumnMap.ofText (as ++ bs)).lines[done.length]? =
      some (part ++ lineText ((Text.lines bs).headD [])) := by
    simp [ColumnMap.ofText, h.getElem?_lines hne, lineText_append h.unbroken]
  rw [h.line, h.column, Nat.add_sub_cancel, ColumnMap.column, if_neg (by omega), Int.toNat_natCast,
    hline]
  dsimp only
  split
  · next hascii => rw [byteLength_of_isAscii hascii]
  · rw [if_neg (by omega), Int.toNat_natCast, charsWithin_byteLength]

end Broken

/-! ## Excerpts -/

/-- Two lists of lines in front of the same text: the shorter one is a front of the other. -/
theorem prefix_of_lines {xs xs' ys ys' : List (List Char)} (h : xs ++ ys = xs' ++ ys')
    (hle : xs.length ≤ xs'.length) : ∃ zs, xs' = xs ++ zs ∧ ys = zs ++ ys' := by
  rcases List.append_eq_append_iff.1 h with ⟨zs, hxs, hys⟩ | ⟨zs, hxs, hys⟩
  · exact ⟨zs, hxs, hys⟩
  · have hnil : zs = [] := by
      have := congrArg List.length hxs
      rw [List.length_append] at this
      exact List.eq_nil_of_length_eq_zero (by omega)
    subst hnil
    exact ⟨[], by simpa using hxs.symm, by simpa using hys.symm⟩

theorem cutFrom_length (a r : List Char) : cutFrom (a ++ r) a.length = r := by
  rw [cutFrom, placeOf_natCast (by simp), List.drop_left]

theorem cutTo_length (a r : List Char) : cutTo (a ++ r) a.length = a := by
  rw [cutTo, placeOf_natCast (by simp), List.take_left]

theorem cut_length (a m r : List Char) : cut (a ++ m ++ r) a.length (a ++ m).length = m := by
  rw [cut, placeOf_natCast (by simp), placeOf_natCast (by simp), List.take_left, List.drop_left]

/-- An excerpt that starts and stops behind known parts of lines. -/
theorem excerptOfLines_eq {ls : List (List Char)} {i j a b : Nat} (hi : i < ls.length)
    (hj : j < ls.length) (hij : i ≤ j) :
    excerptOfLines ls ⟨⟨i, a⟩, ⟨j, b⟩⟩ =
      if i = j then cut ls[i] a b
      else cutFrom ls[i] a ++ ((ls.take j).drop (i + 1)).flatten ++ cutTo ls[j] b := by
  have hfirst : min (i : Int).toNat (ls.length - 1) = i := by omega
  have hlast : min (max (j : Int) (i : Int)).toNat (ls.length - 1) = j := by omega
  simp only [excerptOfLines, hfirst, hlast]
  simp [hi, hj]

variable {as ms bs : List Char} {p q : Place} {done done' : List (List Char)}
  {part part' : List Char}

/-- The excerpt between two cuts is the text between them. -/
theorem Broken.excerptOfLines_eq (h : Broken as (ms ++ bs) p done part)
    (h' : Broken (as ++ ms) bs q done' part') (hne : part ++ (ms ++ bs) ≠ [])
    (hne' : part' ++ bs ≠ []) (hle : done.length ≤ done'.length) :
    excerptOfLines (Text.lines (as ++ ms ++ bs))
      ⟨⟨done.length, part.length⟩, ⟨done'.length, part'.length⟩⟩ = ms := by
  have hi := h.getElem?_lines hne
  have hj := h'.getElem?_lines hne'
  have hl := h.lines
  rw [← List.append_assoc] at hi hl
  obtain ⟨hilt, hi⟩ := List.getElem?_eq_some_iff.1 hi
  obtain ⟨hjlt, hj⟩ := List.getElem?_eq_some_iff.1 hj
  obtain ⟨zs, hzs, hrest⟩ := prefix_of_lines (hl.symm.trans h'.lines) hle
  have htext : as ++ ms = (done ++ zs).flatten ++ part' := hzs ▸ h'.text
  rw [h.text, List.flatten_append, List.append_assoc, List.append_assoc,
    List.append_cancel_left_eq] at htext
  rw [Text.excerptOfLines_eq hilt hjlt hle]
  cases zs with
  | nil =>
    -- Both cuts are on one line.
    obtain rfl : done' = done := by simpa using hzs
    obtain rfl : part' = part ++ ms := by simpa using htext.symm
    rw [if_pos rfl, hj, cut_length]
  | cons z zs =>
    have hlen : done'.length = done.length + 1 + zs.length := by
      rw [hzs, List.length_append, List.length_cons]
      omega
    rw [lines_unbroken h.unbroken hne, List.cons_append, List.cons.injEq] at hrest
    obtain ⟨rfl, -⟩ := hrest
    rw [List.flatten_cons, List.append_assoc, List.append_assoc,
      List.append_cancel_left_eq] at htext
    have hmiddle : ((Text.lines (as ++ ms ++ bs)).take done'.length).drop (done.length + 1) = zs := by
      rw [h'.lines, List.take_left, hzs, ← List.drop_drop, List.drop_left]
      rfl
    rw [if_neg (by omega), hi, hj, hmiddle, cutFrom_length, cutTo_length, List.append_assoc]
    exact htext.symm

/-- Whether a text breaks into lines alike for excerpts and for a parser up to a place, and the line
of the place is there. -/
def Agrees (cr : Bool) (content : List Char) (q : Place) : Prop :=
  agreeing cr (before cr content q) = true ∧ (q.column = 0 → before cr content q ≠ content)

instance (content : List Char) (q : Place) : Decidable (Agrees cr content q) :=
  inferInstanceAs (Decidable (_ ∧ _))

theorem exists_broken_of_agrees {as bs : List Char} (hu : Unsplit cr as bs)
    (h : Agrees cr (as ++ bs) (origin.pass cr as bs)) :
    ∃ done part, Broken as bs (origin.pass cr as bs) done part ∧ part ++ bs ≠ [] := by
  obtain ⟨hagree, hline⟩ := h
  rw [before_pass hu] at hagree hline
  obtain ⟨done, part, hb⟩ := exists_broken_origin hagree hu
  refine ⟨done, part, hb, fun hnil => ?_⟩
  obtain ⟨rfl, rfl⟩ := List.append_eq_nil_iff.1 hnil
  exact hline hb.column (by simp)

/-- As long as the line ends agree up to both of its places, the excerpt of a span is the text between
them. -/
theorem excerpt_between {content : String} {s : Span} (hp : IsPlace cr content.toList s.start)
    (hq : IsPlace cr content.toList s.stop) (hle : s.start ≤ s.stop)
    (hstart : Agrees cr content.toList s.start) (hstop : Agrees cr content.toList s.stop) :
    excerpt content (s.toRange (ColumnMap.ofText content.toList)) =
      String.ofList (between cr content.toList s) := by
  obtain ⟨as, ms, bs, htext, ha, hm, hs, ht⟩ := hp.exists_cuts hq hle
  obtain ⟨start, stop⟩ := s
  obtain rfl : start = _ := hs
  obtain rfl : stop = _ := ht
  rw [htext, List.append_assoc] at hstart
  rw [htext] at hstop
  obtain ⟨done, part, hb, hne⟩ := exists_broken_of_agrees ha hstart
  obtain ⟨done', part', hb', hne'⟩ := exists_broken_of_agrees hm hstop
  have hline : done.length ≤ done'.length := by
    have h₁ := hb.line
    have h₂ := hb'.line
    have h := Place.le_def.1 hle
    dsimp only at h
    omega
  have hc := hb.column_eq hne
  have hc' := hb'.column_eq hne'
  rw [← List.append_assoc] at hc
  have hexcerpt := hb.excerptOfLines_eq hb' hne hne' hline
  have hi : (origin.pass cr as (ms ++ bs)).line - 1 = done.length := by rw [hb.line]; rfl
  have hj : (origin.pass cr (as ++ ms) bs).line - 1 = done'.length := by rw [hb'.line]; rfl
  rw [excerpt, htext, between_pass ha hm, Span.toRange, ColumnMap.range]
  dsimp only
  rw [hc, hc', hi, hj, hexcerpt]

/-- The position that a place becomes. -/
def position (content : List Char) (q : Place) : Position :=
  ⟨(q.line - 1 : Nat), (ColumnMap.ofText content).column (q.line - 1 : Nat) q.column⟩

theorem eq_of_position_eq_of_le {content : List Char} {p q : Place} (hp : IsPlace cr content p)
    (hq : IsPlace cr content q) (hap : Agrees cr content p) (haq : Agrees cr content q)
    (heq : position content p = position content q) (hle : p ≤ q) : p = q := by
  obtain ⟨as, ms, bs, rfl, ha, hm, rfl, rfl⟩ := hp.exists_cuts hq hle
  rw [List.append_assoc] at hap
  obtain ⟨done, part, hb, hne⟩ := exists_broken_of_agrees ha hap
  obtain ⟨done', part', hb', hne'⟩ := exists_broken_of_agrees hm haq
  have hc := hb.column_eq hne
  rw [← List.append_assoc] at hc
  obtain ⟨hline, hcolumn⟩ := Position.mk.inj heq
  rw [hc, hb'.column_eq hne'] at hcolumn
  rw [hb.line, hb'.line] at hline
  obtain ⟨zs, hzs, -⟩ := prefix_of_lines
    ((List.append_assoc as ms bs ▸ hb.lines).symm.trans hb'.lines) (by omega)
  -- The same number of whole lines lies before both, and as much of the next line.
  obtain rfl : zs = [] := by
    have hlen := congrArg List.length hzs
    rw [List.length_append] at hlen
    exact List.eq_nil_of_length_eq_zero (by omega)
  have htext := hb'.text
  rw [hzs, List.append_nil, hb.text, List.append_assoc, List.append_cancel_left_eq] at htext
  obtain rfl : ms = [] := by
    have hlen := congrArg List.length htext
    rw [List.length_append] at hlen
    exact List.eq_nil_of_length_eq_zero (by omega)
  simp

/-- Where the line ends agree, different places become different positions. -/
theorem eq_of_position_eq {content : List Char} {p q : Place} (hp : IsPlace cr content p)
    (hq : IsPlace cr content q) (hap : Agrees cr content p) (haq : Agrees cr content q)
    (heq : position content p = position content q) : p = q := by
  rcases le_total p q with hle | hle
  · exact eq_of_position_eq_of_le hp hq hap haq heq hle
  · exact (eq_of_position_eq_of_le hq hp haq hap heq.symm hle).symm

end CodeAtlas.Text
