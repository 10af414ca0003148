/-!
# Splitting a text at a character

`splitOn sep` gives the pieces between the occurrences of `sep`, at least one; `cutFirst?` and
`cutLast?` cut at the first and at the last occurrence.
-/

namespace CodeAtlas.Text

/-- The pieces of a text between the occurrences of a character. -/
def splitOn (sep : Char) : List Char → List (List Char)
  | [] => [[]]
  | c :: cs =>
    match splitOn sep cs with
    | [] => [[c]]
    | p :: ps => if c = sep then [] :: p :: ps else (c :: p) :: ps

/-- What stands before and behind the first occurrence. -/
def cutFirst? (sep : Char) : List Char → Option (List Char × List Char)
  | [] => none
  | c :: cs =>
    if c = sep then some ([], cs)
    else (cutFirst? sep cs).map fun (before, behind) => (c :: before, behind)

/-- What stands before and behind the last occurrence. -/
def cutLast? (sep : Char) (cs : List Char) : Option (List Char × List Char) :=
  (cutFirst? sep cs.reverse).map fun (behind, before) => (before.reverse, behind.reverse)

theorem cutFirst?_append {sep : Char} {before : List Char} (h : sep ∉ before)
    (behind : List Char) : cutFirst? sep (before ++ sep :: behind) = some (before, behind) := by
  induction before with
  | nil => simp [cutFirst?]
  | cons c before ih =>
    obtain ⟨hc, hbefore⟩ := not_or.1 (mt List.mem_cons.2 h)
    rw [List.cons_append, cutFirst?, if_neg (Ne.symm hc), ih hbefore]
    rfl

theorem eq_of_cutFirst? {sep : Char} {cs before behind : List Char}
    (h : cutFirst? sep cs = some (before, behind)) :
    cs = before ++ sep :: behind ∧ sep ∉ before := by
  induction cs generalizing before with
  | nil => cases h
  | cons c cs ih =>
    rw [cutFirst?] at h
    split at h
    · next hc =>
      cases h
      simp [hc]
    · next hc =>
      obtain ⟨⟨p, q⟩, hpq, heq⟩ := Option.map_eq_some_iff.1 h
      obtain ⟨rfl, rfl⟩ := Prod.mk.inj heq
      obtain ⟨rfl, hmem⟩ := ih hpq
      simp [hmem, Ne.symm hc]

theorem cutLast?_append {sep : Char} {behind : List Char} (h : sep ∉ behind)
    (before : List Char) : cutLast? sep (before ++ sep :: behind) = some (before, behind) := by
  have hcut := cutFirst?_append (mt List.mem_reverse.1 h) before.reverse
  simpa [cutLast?] using congrArg (Option.map fun p => (p.2.reverse, p.1.reverse)) hcut

theorem eq_of_cutLast? {sep : Char} {cs before behind : List Char}
    (h : cutLast? sep cs = some (before, behind)) :
    cs = before ++ sep :: behind ∧ sep ∉ behind := by
  obtain ⟨⟨p, q⟩, hpq, heq⟩ := Option.map_eq_some_iff.1 h
  obtain ⟨rfl, rfl⟩ := Prod.mk.inj heq
  obtain ⟨hcs, hmem⟩ := eq_of_cutFirst? hpq
  exact ⟨by simpa using congrArg List.reverse hcs, mt List.mem_reverse.1 hmem⟩

theorem splitOn_ne_nil (sep : Char) (cs : List Char) : splitOn sep cs ≠ [] := by
  cases cs with
  | nil => simp [splitOn]
  | cons c cs =>
    simp only [splitOn]
    split
    · simp
    · split <;> simp

/-- No piece holds the character at which the text is split. -/
theorem not_mem_of_mem_splitOn {sep : Char} {cs p : List Char} (h : p ∈ splitOn sep cs) :
    sep ∉ p := by
  induction cs generalizing p with
  | nil => simp [splitOn] at h; simp [h]
  | cons c cs ih =>
    simp only [splitOn] at h
    split at h
    · next hn => exact absurd hn (splitOn_ne_nil sep cs)
    · next q qs hq =>
      rw [hq] at ih
      split at h
      · rcases List.mem_cons.1 h with rfl | h
        · simp
        · exact ih h
      · next hc =>
        rcases List.mem_cons.1 h with rfl | h
        · simp only [List.mem_cons, not_or]
          exact ⟨Ne.symm hc, ih (by simp)⟩
        · exact ih (by simp [h])

end CodeAtlas.Text
