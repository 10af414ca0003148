import CodeAtlas.Proofs.Grammar.Bounds
import CodeAtlas.Script.Scanner

/-!
# Places of scanned tokens

Looking ahead never goes back, and a scanned token lies in the text (`scan_sound`).
-/

namespace CodeAtlas.Script.Scanner

variable (text : Array Char)

variable {text} in
theorem lt_size_of_at {i : Nat} {c : Char} (h : at_ text i = c) (hc : c ≠ '\x00') :
    i < text.size := by
  rcases Nat.lt_or_ge i text.size with hi | hi
  · exact hi
  · rw [at_, Array.getD_eq_getD_getElem?, Array.getElem?_eq_none hi] at h
    exact absurd h.symm hc

/-! ## Looking ahead -/

theorem le_skipWhile (p : Char → Bool) (i : Nat) : i ≤ skipWhile text p i := by
  fun_induction skipWhile text p i with
  | case1 i hi hp ih => omega
  | case2 i hi hp => exact Nat.le_refl _
  | case3 i hi => exact Nat.le_refl _

variable {text} in
theorem skipWhile_le (p : Char → Bool) {i : Nat} (h : i ≤ text.size) :
    skipWhile text p i ≤ text.size := by
  fun_induction skipWhile text p i with
  | case1 i hi hp ih => exact ih hi
  | case2 i hi hp => exact h
  | case3 i hi => exact h

theorem le_skipSpace (i : Nat) : i ≤ skipSpace text i := le_skipWhile text _ i

theorem le_skipBlock (i : Nat) (newline : Bool) : i ≤ (skipBlock text i newline).1 := by
  fun_induction skipBlock text i newline with
  | case1 i newline hi hc => exact Nat.le_refl _
  | case2 => exact Nat.le_add_right _ _
  | case3 => omega
  | case4 => omega
  | case5 i newline hi => exact Nat.le_refl _

theorem le_passGap (typed all : Bool) (fuel : Nat) (l : Look) (newline : Bool) :
    l.place ≤ (passGap text typed all fuel l newline).1.place := by
  induction fuel generalizing l newline with
  | zero => exact Nat.le_refl _
  | succ fuel ih =>
    have hspace := le_skipSpace text l.place
    unfold passGap
    extract_lets i
    have hi : l.place ≤ i := hspace
    split
    · exact hi
    split
    · have hend := le_skipWhile text
        (fun c => c ≠ '\x00' && c ≠ '\n' && (typed || !isLineEnd c)) (i + 2)
      refine Nat.le_trans ?_ (ih _ _)
      exact Nat.le_trans (Nat.le_add_right_of_le hi) hend
    split
    · have hblock := le_skipBlock text (i + 2) newline
      split
      next j newline closed hj =>
      rw [hj] at hblock
      split
      · exact Nat.le_trans (Nat.le_add_right_of_le hi) hblock
      · refine Nat.le_trans ?_ (ih _ _)
        exact Nat.le_trans (Nat.le_add_right_of_le hi) hblock
    · exact Nat.le_succ_of_le hi

theorem le_toLineEnd (operatorMayFollow : Bool) (fuel : Nat) (l : Look) :
    l.place ≤ (toLineEnd text operatorMayFollow fuel l).1.place := by
  induction fuel generalizing l with
  | zero => exact Nat.le_refl _
  | succ fuel ih =>
    unfold toLineEnd
    split
    · exact Nat.le_refl _
    have hgap : l.place ≤ (if at_ text l.place = '/' then
        passGap text false false (text.size + 1) l false else (l, Gap.sameLine)).1.place := by
      split
      · exact le_passGap text _ _ _ _ _
      · exact Nat.le_refl _
    split
    next l' gap hl =>
    rw [hl] at hgap
    extract_lets c
    repeat' split
    all_goals first
      | exact hgap
      | exact Nat.le_succ_of_le hgap
      | exact Nat.le_trans (Nat.le_succ_of_le hgap) (ih { l' with place := l'.place + 1 })

theorem le_endsPlain (makesSense : String → Bool) (i : Nat) :
    i ≤ (endsPlain text makesSense i).2.place := by
  have hline := le_toLineEnd text (makesSense "||") (text.size + 2) ⟨i, false⟩
  rw [endsPlain]
  split
  · next l b hl =>
    rw [hl] at hline
    exact hline
  · next l hl =>
    rw [hl] at hline
    have hgap := le_passGap text false true (text.size + 1) l false
    split
    next l' gap hl' =>
    rw [hl'] at hgap
    split <;> exact Nat.le_trans hline hgap

theorem le_endsTyped (makesSense : String → Bool) (i : Nat) :
    i ≤ (endsTyped text makesSense i).2.place := by
  have hj := le_skipWhile text (fun c => isSpace c && c ≠ '\n') i
  unfold endsTyped
  extract_lets j c
  split
  · exact hj
  split
  · exact Nat.le_trans hj (Nat.le_trans (Nat.le_succ j) (le_skipSpace text _))
  split
  · exact hj
  have hgap := le_passGap text true true (text.size + 1) ⟨j + 1, false⟩ false
  split
  next l gap hl =>
  rw [hl] at hgap
  have hl : i ≤ l.place := Nat.le_trans (Nat.le_succ_of_le hj) hgap
  extract_lets c
  repeat' split
  all_goals exact hl

/-! ## Tokens -/

variable {text}

/-- A token that is found from the place `i` on. -/
def Found (text : Array Char) (i : Nat) (x : String × Nat × Nat) : Prop :=
  i ≤ x.2.1 ∧ x.2.1 ≤ x.2.2 ∧ x.2.2 ≤ text.size

theorem found_questionMark {typed : Bool} {i : Nat} {x : String × Nat × Nat}
    (h : questionMark text typed i = some x) : Found text i x := by
  have hi := le_skipSpace text i
  unfold questionMark at h
  extract_lets j next k c at h
  split at h
  · cases h
  · next hmark =>
    have hj : at_ text j = '?' := by
      simp only [Bool.or_eq_true, decide_eq_true_eq, not_or, Decidable.not_not] at hmark
      exact hmark.1.1
    split at h
    · cases h
    split at h
    · cases h
    · cases h
      exact ⟨hi, Nat.le_succ j, lt_size_of_at hj (by decide)⟩

theorem found_templateText {start i : Nat} (hi : start ≤ i) {x : String × Nat × Nat}
    (h : templateText text start i = some x) : Found text start x := by
  fun_induction templateText text start i with
  | case1 => cases h
  | case2 i hlt c hne hend hstart =>
    cases h
    exact ⟨Nat.le_refl _, hi, Nat.le_of_lt hlt⟩
  | case3 => cases h
  | case4 i hlt c hne hend ih => exact ih (Nat.le_succ_of_le hi) h
  | case5 => cases h

theorem found_markupComment {i : Nat} {x : String × Nat × Nat}
    (h : markupComment text i = some x) : Found text i x := by
  have hi := le_skipSpace text i
  unfold markupComment at h
  extract_lets j starts stop at h
  have hstop : ∀ n, j + n ≤ text.size → j ≤ stop n ∧ stop n ≤ text.size := fun n hn =>
    ⟨Nat.le_trans (Nat.le_add_right j n) (le_skipWhile text _ _), skipWhile_le _ hn⟩
  split at h
  · next hstarts =>
    have hlast : at_ text (j + 3) = '-' := by
      simpa using List.all_eq_true.1 hstarts ('-', 3) (by decide)
    cases h
    exact ⟨hi, hstop 4 (lt_size_of_at hlast (by decide))⟩
  split at h
  · next hstarts =>
    have hlast : at_ text (j + 2) = '>' := by
      simpa using List.all_eq_true.1 hstarts ('>', 2) (by decide)
    cases h
    exact ⟨hi, hstop 3 (lt_size_of_at hlast (by decide))⟩
  · cases h

/-- A scanned token lies in the text, behind the place from which on it is looked for. -/
theorem scan_sound (typed : Bool) : (scan typed).Sound := by
  intro text i names name start stop hi h
  unfold scan at h
  extract_lets makesSense semicolon at h
  split at h
  · split at h
    · cases h
    · exact found_templateText (Nat.le_refl i) h
  split at h
  next j isText hj =>
  have hplace : i ≤ j ∧ j ≤ text.size := by
    split at hj
    · cases hj
      exact ⟨le_skipWhile text _ _, skipWhile_le _ hi⟩
    · cases hj
      exact ⟨Nat.le_refl i, hi⟩
  have hfrom : ∀ {k : Nat} {x : String × Nat × Nat}, i ≤ k → Found text k x → Found text i x :=
    fun hk hx => ⟨Nat.le_trans hk hx.1, hx.2⟩
  split at h
  · cases h
    exact ⟨Nat.le_refl i, hplace⟩
  split at h
  · split at h
    next ends l hl =>
    have hlook : j ≤ l.place := by
      split at hl
      · exact (congrArg (fun x => x.2.place) hl) ▸ le_endsTyped text makesSense j
      · exact (congrArg (fun x => x.2.place) hl) ▸ le_endsPlain text makesSense j
    split at h
    · cases h
      exact ⟨hplace.1, Nat.le_refl _, hplace.2⟩
    split at h
    · exact hfrom (Nat.le_trans hplace.1 hlook) (found_questionMark h)
    · cases h
  split at h
  · exact hfrom hplace.1 (found_questionMark h)
  split at h
  · exact hfrom hplace.1 (found_markupComment h)
  · cases h

end CodeAtlas.Script.Scanner
