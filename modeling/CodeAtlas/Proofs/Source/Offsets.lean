import CodeAtlas.Proofs.Source.Excerpts

/-!
# Excerpts by offsets

An excerpt is the part of a text between two offsets, whatever range it is asked for
(`Text.excerptOfLines_extract`): those of the positions to which it moves the ends of the range. So
excerpts between positions of the text are what stands between them, and adjacent ones make up the
excerpt of both ranges together (`Text.excerpt_extract`).
-/

namespace CodeAtlas.Text

/-! ## Offsets -/

/-- How many characters stand on the lines before a line. -/
def lengthBefore (ls : List (List Char)) (i : Nat) : Nat := (ls.take i).flatten.length

/-- How many characters of a text stand before a position. -/
def offset (content : String) (p : Position) : Nat :=
  lengthBefore (lines content.toList) p.line.toNat + p.character.toNat

/-- The position is on a line of the text, at one of its characters or behind the last of them. -/
def OnLine (content : String) (p : Position) : Prop :=
  0 ≤ p.line ∧ 0 ≤ p.character ∧
    ∃ l, (lines content.toList)[p.line.toNat]? = some l ∧ p.character ≤ l.length

variable {ls : List (List Char)} {i j c : Nat}

theorem lengthBefore_cons_succ (l : List Char) (ls : List (List Char)) (i : Nat) :
    lengthBefore (l :: ls) (i + 1) = l.length + lengthBefore ls i := by
  rw [lengthBefore, List.take_succ_cons, List.flatten_cons, List.length_append, lengthBefore]

theorem lengthBefore_length (ls : List (List Char)) :
    lengthBefore ls ls.length = ls.flatten.length := by
  rw [lengthBefore, List.take_length]

/-- A place on a line is not behind the lines that follow. -/
theorem lengthBefore_add_le (hi : i < ls.length) (hij : i < j) (hc : c ≤ ls[i].length) :
    lengthBefore ls i + c ≤ lengthBefore ls j := by
  induction ls generalizing i j with
  | nil => cases hi
  | cons l ls ih =>
    cases j with
    | zero => omega
    | succ j =>
      cases i with
      | zero =>
        rw [lengthBefore_cons_succ, lengthBefore, List.take_zero, List.flatten_nil, List.length_nil]
        exact (Nat.le_of_eq (Nat.zero_add c)).trans (Nat.le_add_right_of_le hc)
      | succ i =>
        have hrest := ih (Nat.lt_of_succ_lt_succ hi) (Nat.lt_of_succ_lt_succ hij) hc
        rw [lengthBefore_cons_succ, lengthBefore_cons_succ]
        omega

theorem take_flatten (hi : i < ls.length) (hc : c ≤ ls[i].length) :
    ls.flatten.take (lengthBefore ls i + c) = (ls.take i).flatten ++ ls[i].take c := by
  induction ls generalizing i with
  | nil => cases hi
  | cons l ls ih =>
    cases i with
    | zero =>
      have hl : c ≤ l.length := hc
      have hzero : lengthBefore (l :: ls) 0 = 0 := rfl
      rw [hzero, Nat.zero_add, List.flatten_cons, List.take_append_of_le_length hl]
      rfl
    | succ i =>
      rw [lengthBefore_cons_succ, Nat.add_assoc, List.flatten_cons, List.take_length_add_append,
        ih (Nat.lt_of_succ_lt_succ hi) hc, List.take_succ_cons, List.flatten_cons, List.append_assoc]
      rfl

theorem drop_flatten (hi : i < ls.length) (hc : c ≤ ls[i].length) :
    ls.flatten.drop (lengthBefore ls i + c) = ls[i].drop c ++ (ls.drop (i + 1)).flatten := by
  induction ls generalizing i with
  | nil => cases hi
  | cons l ls ih =>
    cases i with
    | zero =>
      have hl : c ≤ l.length := hc
      have hzero : lengthBefore (l :: ls) 0 = 0 := rfl
      rw [hzero, Nat.zero_add, List.flatten_cons, List.drop_append_of_le_length hl]
      rfl
    | succ i =>
      rw [lengthBefore_cons_succ, Nat.add_assoc, List.flatten_cons, List.drop_length_add_append,
        ih (Nat.lt_of_succ_lt_succ hi) hc]
      rfl

/-! ## Parts of a text -/

theorem extract_eq {α : Type} (xs : List α) (i j : Nat) :
    xs.extract i j = (xs.take j).drop i := by
  rw [List.extract_eq_take_drop, List.drop_take]

theorem extract_append_extract {α : Type} (xs : List α) {i j k : Nat} (hij : i ≤ j) (hjk : j ≤ k) :
    xs.extract i j ++ xs.extract j k = xs.extract i k := by
  have hk : k - i = (j - i) + (k - j) := by omega
  have hj : i + (j - i) = j := by omega
  rw [List.extract_eq_take_drop, List.extract_eq_take_drop, List.extract_eq_take_drop, hk,
    List.take_add, List.drop_drop, hj]

theorem extract_infix {α : Type} (xs : List α) (i j : Nat) : xs.extract i j <:+: xs := by
  rw [List.extract_eq_take_drop]
  exact (List.take_prefix _ _).isInfix.trans (List.drop_suffix _ _).isInfix

/-- What stands between two places of one line. -/
theorem extract_flatten_self {a b : Nat} (hi : i < ls.length) (hb : b ≤ ls[i].length) :
    ls.flatten.extract (lengthBefore ls i + a) (lengthBefore ls i + b) = (ls[i].take b).drop a := by
  rw [extract_eq, take_flatten hi hb, lengthBefore, List.drop_length_add_append]

/-- What stands between places of two lines: the rest of the one, the lines in between, and the
beginning of the other. -/
theorem extract_flatten_of_lt {a b : Nat} (hi : i < ls.length) (hj : j < ls.length) (hij : i < j)
    (ha : a ≤ ls[i].length) (hb : b ≤ ls[j].length) :
    ls.flatten.extract (lengthBefore ls i + a) (lengthBefore ls j + b) =
      ls[i].drop a ++ ((ls.take j).drop (i + 1)).flatten ++ ls[j].take b := by
  have hlen : i < (ls.take j).length := by rw [List.length_take]; omega
  have hline : (ls.take j)[i] = ls[i] := List.getElem_take
  have hbefore : lengthBefore (ls.take j) i = lengthBefore ls i := by
    rw [lengthBefore, List.take_take, Nat.min_eq_left hij.le, lengthBefore]
  have hle : lengthBefore ls i + a ≤ (ls.take j).flatten.length := lengthBefore_add_le hi hij ha
  have hfront := drop_flatten hlen (hline ▸ ha)
  rw [hbefore, hline] at hfront
  rw [extract_eq, take_flatten hj hb, List.drop_append_of_le_length hle, hfront]

/-! ## Excerpts -/

/-- The line on which the excerpt of a range starts. -/
def firstLine (n : Nat) (r : Range) : Nat := min r.start.line.toNat (n - 1)

/-- The line on which the excerpt of a range stops. -/
def lastLine (n : Nat) (r : Range) : Nat := min (max r.stop.line (firstLine n r)).toNat (n - 1)

/-- The offset of a signed index into a line. -/
def offsetIn (ls : List (List Char)) (i : Nat) (c : Int) : Nat :=
  lengthBefore ls i + placeOf (ls[i]?.getD []).length c

theorem firstLine_le_lastLine (n : Nat) (r : Range) : firstLine n r ≤ lastLine n r := by
  simp only [lastLine, firstLine]
  omega

theorem lastLine_lt {n : Nat} (hn : 0 < n) (r : Range) : lastLine n r < n := by
  simp only [lastLine]
  omega

/-- The lines at which an excerpt starts and stops are there if there are any. -/
theorem exists_lines (hne : ls ≠ []) (r : Range) : ∃ head tail,
    ls[firstLine ls.length r]? = some head ∧ ls[lastLine ls.length r]? = some tail := by
  have hlast := lastLine_lt (List.length_pos_iff.2 hne) r
  have hfirst := (firstLine_le_lastLine ls.length r).trans_lt hlast
  exact ⟨_, _, List.getElem?_eq_getElem hfirst, List.getElem?_eq_getElem hlast⟩

theorem excerptOfLines_of_lines {r : Range} {head tail : List Char}
    (hhead : ls[firstLine ls.length r]? = some head)
    (htail : ls[lastLine ls.length r]? = some tail) :
    excerptOfLines ls r =
      if firstLine ls.length r = lastLine ls.length r then
        cut head r.start.character r.stop.character
      else
        cutFrom head r.start.character ++
          ((ls.take (lastLine ls.length r)).drop (firstLine ls.length r + 1)).flatten ++
          cutTo tail r.stop.character := by
  rw [← Option.getD_some (a := head) (b := []), ← hhead, ← Option.getD_some (a := tail) (b := []),
    ← htail]
  rfl

theorem excerptOfLines_nil (r : Range) : excerptOfLines [] r = [] := by simp [excerptOfLines, cut]

/-- The text of a range over given lines, with look-ups of lines that can fail. -/
def excerptOfLines? (ls : List (List Char)) (r : Range) : Option (List Char) :=
  if ls = [] then some []
  else do
    let head ← ls[firstLine ls.length r]?
    if firstLine ls.length r = lastLine ls.length r then
      return cut head r.start.character r.stop.character
    else
      let tail ← ls[lastLine ls.length r]?
      return cutFrom head r.start.character ++
        ((ls.take (lastLine ls.length r)).drop (firstLine ls.length r + 1)).flatten ++
        cutTo tail r.stop.character

/-- An excerpt does not fail: the lines that it looks up are there. -/
theorem excerptOfLines?_eq (ls : List (List Char)) (r : Range) :
    excerptOfLines? ls r = some (excerptOfLines ls r) := by
  rw [excerptOfLines?]
  split
  · next hnil => rw [hnil, excerptOfLines_nil]
  · next hne =>
    obtain ⟨head, tail, hhead, htail⟩ := exists_lines hne r
    rw [excerptOfLines_of_lines hhead htail, hhead, htail]
    dsimp only [bind, Option.bind]
    split <;> rfl

/-- An excerpt is the part of the text between two offsets. -/
theorem excerptOfLines_extract (ls : List (List Char)) (r : Range) :
    excerptOfLines ls r =
      ls.flatten.extract (offsetIn ls (firstLine ls.length r) r.start.character)
        (offsetIn ls (lastLine ls.length r) r.stop.character) := by
  by_cases hne : ls = []
  · rw [hne, excerptOfLines_nil, List.flatten_nil, List.extract_eq_take_drop, List.drop_nil,
      List.take_nil]
  · obtain ⟨head, tail, hhead, htail⟩ := exists_lines hne r
    rw [excerptOfLines_of_lines hhead htail, offsetIn, offsetIn, hhead, htail]
    have hle := firstLine_le_lastLine ls.length r
    generalize firstLine ls.length r = i at hhead hle ⊢
    generalize lastLine ls.length r = j at htail hle ⊢
    obtain ⟨hi, rfl⟩ := List.getElem?_eq_some_iff.1 hhead
    obtain ⟨hj, rfl⟩ := List.getElem?_eq_some_iff.1 htail
    split
    · next hij =>
      subst hij
      exact (extract_flatten_self hi (placeOf_le _ _)).symm
    · next hij =>
      have hlt : i < j := Nat.lt_of_le_of_ne hle hij
      exact (extract_flatten_of_lt hi hj hlt (placeOf_le _ _) (placeOf_le _ _)).symm

variable {content : String} {a b : Position}

theorem offsetIn_eq_offset (ha : OnLine content a) :
    offsetIn (lines content.toList) a.line.toNat a.character = offset content a := by
  obtain ⟨-, hcharacter, l, hl, hle⟩ := ha
  rw [offsetIn, offset, hl, Option.getD_some, ← Int.toNat_of_nonneg hcharacter,
    placeOf_natCast (by omega), Int.toNat_natCast]

theorem offset_le_length (ha : OnLine content a) : offset content a ≤ content.length := by
  obtain ⟨-, hcharacter, l, hl, hle⟩ := ha
  obtain ⟨hi, rfl⟩ := List.getElem?_eq_some_iff.1 hl
  have hbound := lengthBefore_add_le (c := a.character.toNat) hi hi (by omega)
  rwa [lengthBefore_length, flatten_lines, String.length_toList] at hbound

theorem offset_mono (ha : OnLine content a) (hab : a ≤ b) :
    offset content a ≤ offset content b := by
  obtain ⟨haline, hacharacter, l, hl, hle⟩ := ha
  obtain ⟨hi, rfl⟩ := List.getElem?_eq_some_iff.1 hl
  rcases Position.le_def.1 hab with hlt | ⟨heq, hcharacter⟩
  · have hbound := lengthBefore_add_le (c := a.character.toNat) (j := b.line.toNat) hi (by omega)
      (by omega)
    exact Nat.le_add_right_of_le hbound
  · rw [offset, offset, heq]
    omega

/-- Between two positions of a text the excerpt is what stands between their offsets. -/
theorem excerpt_onLine (ha : OnLine content a) (hb : OnLine content b) (hab : a ≤ b) :
    excerpt content ⟨a, b⟩ =
      String.ofList (content.toList.extract (offset content a) (offset content b)) := by
  obtain ⟨hi, -⟩ := List.getElem?_eq_some_iff.1 ha.2.2.choose_spec.1
  obtain ⟨hj, -⟩ := List.getElem?_eq_some_iff.1 hb.2.2.choose_spec.1
  have haline := ha.1
  have hbline := hb.1
  have hle : a.line ≤ b.line := by
    rcases Position.le_def.1 hab with hlt | ⟨heq, -⟩ <;> omega
  have hfirst : firstLine (lines content.toList).length ⟨a, b⟩ = a.line.toNat := by
    simp only [firstLine]
    omega
  have hlast : lastLine (lines content.toList).length ⟨a, b⟩ = b.line.toNat := by
    rw [lastLine, hfirst]
    dsimp only
    omega
  rw [excerpt, excerptOfLines_extract, hfirst, hlast, flatten_lines, offsetIn_eq_offset ha,
    offsetIn_eq_offset hb]

/-- The excerpt of a range whose ends are positions of the text is the part of the text between the
offsets of its ends; so excerpts of adjacent ranges make up the excerpt of both together. Of any other
range, whatever its numbers, there is an excerpt too, which finds the lines that it needs, and it is a
part of the text. -/
theorem excerpt_extract (content : String) :
    (∀ a b, OnLine content a → OnLine content b → a ≤ b →
      offset content a ≤ offset content b ∧ offset content b ≤ content.length ∧
        excerpt content ⟨a, b⟩ =
          String.ofList (content.toList.extract (offset content a) (offset content b))) ∧
    (∀ a b c, OnLine content a → OnLine content b → OnLine content c → a ≤ b → b ≤ c →
      excerpt content ⟨a, b⟩ ++ excerpt content ⟨b, c⟩ = excerpt content ⟨a, c⟩) ∧
    ∀ r, excerptOfLines? (lines content.toList) r = some (excerpt content r).toList ∧
      (excerpt content r).toList <:+: content.toList := by
  refine ⟨fun a b ha hb hab => ?_, fun a b c ha hb hc hab hbc => ?_, fun r => ?_⟩
  · exact ⟨offset_mono ha hab, offset_le_length hb, excerpt_onLine ha hb hab⟩
  · have hac : a ≤ c := by
      rw [Position.le_def] at hab hbc ⊢
      omega
    rw [excerpt_onLine ha hb hab, excerpt_onLine hb hc hbc, excerpt_onLine ha hc hac,
      ← String.ofList_append, extract_append_extract _ (offset_mono ha hab)
        (offset_mono hb hbc)]
  · rw [excerpt, String.toList_ofList, excerptOfLines?_eq]
    refine ⟨rfl, ?_⟩
    rw [excerptOfLines_extract, flatten_lines]
    exact extract_infix _ _ _

/-- Ranges that meet behind a line break and start between the characters of another. -/
theorem excerpt_extract_straddling :
    let content := "ab\r\ncé\x0bd"
    let a : Position := ⟨0, 3⟩
    let b : Position := ⟨1, 3⟩
    let c : Position := ⟨2, 1⟩
    OnLine content a ∧ OnLine content b ∧ OnLine content c ∧ a ≤ b ∧ b ≤ c ∧
      excerpt content ⟨a, b⟩ =
        String.ofList (content.toList.extract (offset content a) (offset content b)) ∧
      excerpt content ⟨a, b⟩ ++ excerpt content ⟨b, c⟩ = excerpt content ⟨a, c⟩ := by
  intro content a b c
  have ha : OnLine content a := ⟨by decide, by decide, ['a', 'b', '\r', '\n'], by decide, by decide⟩
  have hb : OnLine content b := ⟨by decide, by decide, ['c', 'é', '\x0b'], by decide, by decide⟩
  have hc : OnLine content c := ⟨by decide, by decide, ['d'], by decide, by decide⟩
  have hab : a ≤ b := by decide
  have hbc : b ≤ c := by decide
  have H := excerpt_extract content
  exact ⟨ha, hb, hc, hab, hbc, (H.1 a b ha hb hab).2.2, H.2.1 a b c ha hb hc hab hbc⟩

end CodeAtlas.Text
