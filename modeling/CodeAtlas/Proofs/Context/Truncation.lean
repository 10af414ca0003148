import CodeAtlas.Context.Truncate
import CodeAtlas.Proofs.Files.Paths

/-!
# What truncation keeps

A text that is too long keeps a prefix of its own, and the marker stands behind it. The prefix ends
in front of a line break, unless the first line alone is too long: then it is cut inside of that
line (`truncate_isTruncation`).

The kept prefix is a run of whole lines, `leading content k`, if the first line fits. It is the
longest run among those that leave room for one character more. A run of several lines that fits
exactly is not kept, because the break behind its last line is counted before it is dropped
(`truncate_longest_iff`).
-/

namespace CodeAtlas

namespace Text

variable {p : Char → Bool} {cs ds : List Char} {c : Char}

theorem dropEndWhile_eq (p : Char → Bool) (cs : List Char) :
    dropEndWhile p cs = cs.rdropWhile p := rfl

theorem dropEndWhile_isPrefix (p : Char → Bool) (cs : List Char) : dropEndWhile p cs <+: cs :=
  List.rdropWhile_prefix p cs

theorem dropEndWhile_concat (h : p c = true) : dropEndWhile p (cs ++ [c]) = dropEndWhile p cs :=
  List.rdropWhile_concat_pos p cs c h

theorem dropEndWhile_eq_self (h : ∀ c ∈ cs, p c = false) : dropEndWhile p cs = cs :=
  List.rdropWhile_eq_self_iff.2 fun hne => by simp [h _ (List.getLast_mem hne)]

/-- Of a longer text not less is left. -/
theorem dropEndWhile_mono (h : cs <+: ds) : dropEndWhile p cs <+: dropEndWhile p ds := by
  obtain ⟨rest, rfl⟩ := h
  induction rest using List.reverseRecOn with
  | nil => rw [List.append_nil]
  | append_singleton rest c ih =>
    rw [← List.append_assoc]
    cases hc : p c with
    | true =>
      rw [dropEndWhile_concat hc]
      exact ih
    | false =>
      rw [dropEndWhile_eq p (_ ++ [c]), List.rdropWhile_concat_neg p _ c (by simp [hc]),
        List.append_assoc]
      exact (dropEndWhile_isPrefix p cs).trans (List.prefix_append _ _)

/-- If something is dropped, then a character of the kind stands right behind what is left. -/
theorem dropEndWhile_append_isPrefix (h : dropEndWhile (· = c) cs ≠ cs) :
    dropEndWhile (· = c) cs ++ [c] <+: cs := by
  have hsplit : dropEndWhile (· = c) cs ++ cs.rtakeWhile (· = c) = cs :=
    List.rdropWhile_append_rtakeWhile
  cases hrest : cs.rtakeWhile (· = c) with
  | nil =>
    rw [hrest, List.append_nil] at hsplit
    exact absurd hsplit h
  | cons d rest =>
    have hmem : d ∈ cs.rtakeWhile (· = c) := hrest ▸ List.mem_cons_self
    have hd : d = c := by simpa using List.mem_rtakeWhile_imp hmem
    rw [hrest, hd] at hsplit
    exact ⟨rest, by simpa using hsplit⟩

end Text

namespace Context

variable {content : List Char} {limit : Int} {budget : Nat} {ls : List (List Char)} {j : Nat}

/-! ## Whole lines -/

/-- Lines, each with a line break behind it. -/
def ended (ls : List (List Char)) : List Char := ls.flatMap (· ++ ['\n'])

/-- A text up to its first line break. -/
def firstLine (content : List Char) : List Char := content.takeWhile (· ≠ '\n')

/-- The first lines of a text, joined by line breaks, without empty lines at the end. -/
def leading (content : List Char) (k : Nat) : List Char :=
  Text.dropEndWhile (· = '\n') (['\n'].intercalate ((Text.splitOn '\n' content).take k))

theorem ended_cons (l : List Char) (ls : List (List Char)) :
    ended (l :: ls) = l ++ '\n' :: ended ls := by simp [ended]

theorem ended_concat (ls : List (List Char)) (l : List Char) :
    ended (ls ++ [l]) = ended ls ++ l ++ ['\n'] := by simp [ended]

theorem ended_eq_intercalate (h : ls ≠ []) : ended ls = ['\n'].intercalate ls ++ ['\n'] := by
  induction ls with
  | nil => exact absurd rfl h
  | cons l ls ih =>
    cases ls with
    | nil => simp [ended]
    | cons l' ls =>
      rw [ended_cons, ih (by simp), List.intercalate_cons_cons]
      simp

theorem ended_splitOn (content : List Char) :
    ended (Text.splitOn '\n' content) = content ++ ['\n'] := by
  rw [ended_eq_intercalate (Text.splitOn_ne_nil _ _), Text.splitOn_eq, List.intercalate_splitOn]

theorem ended_take_isPrefix (content : List Char) (k : Nat) :
    ended ((Text.splitOn '\n' content).take k) <+: content ++ ['\n'] := by
  rw [← ended_splitOn]
  exact (List.take_prefix _ _).flatMap _

theorem dropEndWhile_ended (ls : List (List Char)) :
    Text.dropEndWhile (· = '\n') (ended ls) =
      Text.dropEndWhile (· = '\n') (['\n'].intercalate ls) := by
  by_cases h : ls = []
  · simp [h, ended]
  · rw [ended_eq_intercalate h, Text.dropEndWhile_concat (by simp)]

theorem leading_eq (content : List Char) (k : Nat) : leading content k =
    Text.dropEndWhile (· = '\n') (ended ((Text.splitOn '\n' content).take k)) :=
  (dropEndWhile_ended _).symm

theorem leading_isPrefix (content : List Char) (k : Nat) : leading content k <+: content := by
  have h := Text.dropEndWhile_mono (p := (· = '\n')) (ended_take_isPrefix content k)
  rw [Text.dropEndWhile_concat (by simp), ← leading_eq] at h
  exact h.trans (Text.dropEndWhile_isPrefix _ _)

/-- Lines without the empty ones at the end are lines again. -/
theorem dropEndWhile_ended_cases (h : ∀ l ∈ ls, '\n' ∉ l) :
    Text.dropEndWhile (· = '\n') (ended ls) = [] ∨
      ∃ m, Text.dropEndWhile (· = '\n') (ended ls) ++ ['\n'] = ended (ls.take m) := by
  induction ls using List.reverseRecOn with
  | nil => exact .inl rfl
  | append_singleton ls l ih =>
    rw [ended_concat, Text.dropEndWhile_concat (by simp)]
    by_cases hl : l = []
    · subst hl
      rw [List.append_nil]
      refine (ih fun l hl => h l (by simp [hl])).imp_right fun ⟨m, hm⟩ => ⟨min m ls.length, ?_⟩
      rw [hm, List.take_append_of_le_length (by omega), ← List.take_eq_take_min]
    · refine .inr ⟨ls.length + 1, ?_⟩
      have hlast : Text.dropEndWhile (· = '\n') (ended ls ++ l) = ended ls ++ l := by
        refine List.rdropWhile_eq_self_iff.2 fun hne => ?_
        rw [List.getLast_append_of_ne_nil hne hl]
        have : l.getLast hl ≠ '\n' := fun hc => h l (by simp) (hc ▸ List.getLast_mem hl)
        simpa using this
      rw [hlast, ← ended_concat, List.take_of_length_le (by simp)]

theorem leading_cases (content : List Char) (k : Nat) : leading content k = [] ∨
    ∃ m, leading content k ++ ['\n'] = ended ((Text.splitOn '\n' content).take m) := by
  rw [leading_eq]
  refine (dropEndWhile_ended_cases fun l hl =>
    Text.not_mem_of_mem_splitOn (List.mem_of_mem_take hl)).imp_right ?_
  rintro ⟨m, hm⟩
  exact ⟨min m k, by rw [hm, List.take_take]⟩

theorem exists_splitOn_eq (content : List Char) :
    ∃ rest, Text.splitOn '\n' content = firstLine content :: rest := by
  induction content with
  | nil => exact ⟨[], rfl⟩
  | cons c cs ih =>
    obtain ⟨rest, ih⟩ := ih
    rw [Text.splitOn, ih]
    by_cases hc : c = '\n'
    · exact ⟨firstLine cs :: rest, by simp [firstLine, hc]⟩
    · exact ⟨rest, by simp [firstLine, hc]⟩

theorem not_mem_firstLine (content : List Char) : '\n' ∉ firstLine content := fun h => by
  simpa using List.mem_takeWhile_imp h

/-- The first line is the longest prefix without a line break. -/
theorem prefix_firstLine_iff {q : List Char} :
    q <+: firstLine content ↔ q <+: content ∧ '\n' ∉ q := by
  constructor
  · intro h
    exact ⟨h.trans (List.takeWhile_prefix _), fun hq => not_mem_firstLine content (h.subset hq)⟩
  · rintro ⟨⟨rest, rfl⟩, hq⟩
    have hall : ∀ c ∈ q, decide (c ≠ '\n') = true := fun c hc => by
      simpa using fun h : c = '\n' => hq (h ▸ hc)
    rw [firstLine, List.takeWhile_append_of_pos hall]
    exact List.prefix_append _ _

theorem take_prefix_firstLine (h : budget ≤ (firstLine content).length) :
    content.take budget <+: firstLine content := by
  refine List.prefix_of_prefix_length_le (List.take_prefix _ _) (List.takeWhile_prefix _) ?_
  rw [List.length_take]
  exact (min_le_left _ _).trans h

theorem leading_one (content : List Char) : leading content 1 = firstLine content := by
  obtain ⟨rest, hsplit⟩ := exists_splitOn_eq content
  rw [leading, hsplit]
  simp only [List.take_succ_cons, List.take_zero, List.intercalate_singleton]
  exact Text.dropEndWhile_eq_self fun c hc => by
    simpa using fun h : c = '\n' => not_mem_firstLine content (h ▸ hc)

/-- A run of lines is longer than the first line if it goes beyond it. -/
theorem newline_mem_leading_iff : '\n' ∈ leading content j ↔
    (firstLine content).length < (leading content j).length := by
  rw [← not_iff_not, Nat.not_lt]
  constructor
  · intro h
    exact (prefix_firstLine_iff.2 ⟨leading_isPrefix content j, h⟩).length_le
  · intro h
    have hpre := List.prefix_of_prefix_length_le (leading_isPrefix content j)
      (List.takeWhile_prefix _) h
    exact (prefix_firstLine_iff.1 hpre).2

/-! ## Whole lines within a budget -/

/-- What is kept are the first lines, and no more of them fit. -/
theorem wholeLines_eq (budget : Nat) (ls : List (List Char)) :
    ∃ k, wholeLines budget ls = ended (ls.take k) ∧ (ended (ls.take k)).length ≤ budget ∧
      ∀ j, (ended (ls.take j)).length ≤ budget → ended (ls.take j) <+: ended (ls.take k) := by
  induction ls generalizing budget with
  | nil => exact ⟨0, rfl, Nat.zero_le _, fun j _ => by simp⟩
  | cons l ls ih =>
    rw [wholeLines]
    split
    · next hl =>
      obtain ⟨k, hk, hlen, hmax⟩ := ih (budget - (l.length + 1))
      refine ⟨k + 1, ?_, ?_, fun j hj => ?_⟩
      · rw [hk, List.take_succ_cons, ended_cons]
      · rw [List.take_succ_cons, ended_cons, List.length_append, List.length_cons]
        omega
      · cases j with
        | zero => exact List.nil_prefix
        | succ j =>
          rw [List.take_succ_cons, ended_cons, List.length_append, List.length_cons] at hj
          rw [List.take_succ_cons, List.take_succ_cons, ended_cons, ended_cons,
            List.prefix_append_right_inj, List.cons_prefix_cons]
          exact ⟨rfl, hmax j (by omega)⟩
    · next hl =>
      refine ⟨0, rfl, Nat.zero_le _, fun j hj => ?_⟩
      cases j with
      | zero => exact List.prefix_rfl
      | succ j =>
        rw [List.take_succ_cons, ended_cons, List.length_append, List.length_cons] at hj
        omega

theorem wholeLines_eq_nil_iff :
    wholeLines budget (Text.splitOn '\n' content) = [] ↔ budget ≤ (firstLine content).length := by
  obtain ⟨rest, hsplit⟩ := exists_splitOn_eq content
  rw [hsplit, wholeLines]
  split
  · next h => simpa using by omega
  · next h => simpa using by omega

/-- What stands in front of the marker, if the marker leaves room for `budget` characters. -/
def kept (content : List Char) (budget : Nat) : List Char :=
  let lines := wholeLines budget (Text.splitOn '\n' content)
  Text.dropEndWhile (· = '\n') (if lines = [] then content.take budget else lines)

/-- A first line that fills the budget is cut. -/
theorem kept_of_le (h : budget ≤ (firstLine content).length) :
    kept content budget = content.take budget := by
  rw [kept, if_pos (wholeLines_eq_nil_iff.2 h)]
  have hmem := (prefix_firstLine_iff.1 (take_prefix_firstLine h)).2
  exact Text.dropEndWhile_eq_self fun c hc => by simpa using fun h : c = '\n' => hmem (h ▸ hc)

/-- If the first line leaves room, a run of whole lines is kept that a line break follows; each
longer run fills the budget. -/
theorem kept_of_lt (h : (firstLine content).length < budget) :
    (∃ k, kept content budget = leading content k) ∧
      (∃ lines, kept content budget ++ ['\n'] <+: lines ∧ lines.length ≤ budget ∧
        lines <+: content ++ ['\n']) ∧
      ∀ j, (leading content j).length < budget →
        (leading content j).length ≤ (kept content budget).length := by
  have hne : wholeLines budget (Text.splitOn '\n' content) ≠ [] :=
    wholeLines_eq_nil_iff.not.2 (by omega)
  obtain ⟨k, hk, hlen, hmax⟩ := wholeLines_eq budget (Text.splitOn '\n' content)
  have hkept : kept content budget = leading content k := by
    rw [kept, if_neg hne, hk, leading_eq]
  refine ⟨⟨k, hkept⟩, ⟨_, ?_, hlen, ended_take_isPrefix content k⟩, fun j hj => ?_⟩
  · rw [hkept, leading_eq]
    refine Text.dropEndWhile_append_isPrefix fun hself => ?_
    rw [hk] at hne
    have hnil : (Text.splitOn '\n' content).take k ≠ [] := fun h0 => hne (by rw [h0]; rfl)
    rw [ended_eq_intercalate hnil, Text.dropEndWhile_concat (by simp)] at hself
    have := congrArg List.length hself ▸ (Text.dropEndWhile_isPrefix _ _).length_le
    simp at this
  · rcases leading_cases content j with hj' | ⟨m, hm⟩
    · rw [hj']
      exact Nat.zero_le _
    · have hlong : (ended ((Text.splitOn '\n' content).take m)).length ≤ budget := by
        rw [← hm]
        simpa using hj
      have hmono := Text.dropEndWhile_mono (p := (· = '\n')) (hm ▸ hmax m hlong)
      rw [Text.dropEndWhile_concat (by simp), ← leading_eq, leading,
        Text.dropEndWhile_eq _ (Text.dropEndWhile _ _), Text.dropEndWhile_eq,
        List.rdropWhile_idempotent] at hmono
      rw [hkept]
      exact hmono.length_le

theorem length_kept_le (content : List Char) (budget : Nat) :
    (kept content budget).length ≤ budget := by
  rcases Nat.lt_or_ge (firstLine content).length budget with h | h
  · obtain ⟨-, ⟨lines, hpre, hlen, -⟩, -⟩ := kept_of_lt h
    have := hpre.length_le
    rw [List.length_append] at this
    omega
  · rw [kept_of_le h, List.length_take]
    exact min_le_left _ _

theorem kept_of_eq (h : (firstLine content).length = budget) :
    kept content budget = leading content 1 := by
  rw [kept_of_le h.ge, leading_one]
  refine (take_prefix_firstLine h.ge).eq_of_length_le ?_
  have := (List.takeWhile_prefix (l := content) (· ≠ '\n')).length_le
  rw [List.length_take, h]
  exact le_min le_rfl (h ▸ this)

/-- Of the runs that fit, the longest is kept unless one that goes beyond the first line fits
exactly. -/
theorem kept_longest_iff (h : (firstLine content).length ≤ budget) :
    ∃ k, kept content budget = leading content k ∧
      (∀ j, (leading content j).length < budget →
        (leading content j).length ≤ (leading content k).length) ∧
      ((∀ j, (leading content j).length ≤ budget →
          (leading content j).length ≤ (leading content k).length) ↔
        ∀ j, '\n' ∈ leading content j → (leading content j).length ≠ budget) := by
  simp only [newline_mem_leading_iff]
  rcases h.eq_or_lt with heq | hlt
  · -- The first line fills the budget.
    refine ⟨1, kept_of_eq heq, ?_⟩
    rw [leading_one, heq]
    exact ⟨fun j hj => hj.le, fun _ j hmore => hmore.ne', fun _ j hj => hj⟩
  · obtain ⟨⟨k, hk⟩, ⟨lines, hpre, hlen, -⟩, hmax⟩ := kept_of_lt hlt
    rw [hk] at hpre hmax
    have hroom : (leading content k).length < budget := by
      have := hpre.length_le
      rw [List.length_append, List.length_singleton] at this
      omega
    refine ⟨k, hk, hmax, fun hlongest j _ hj => ?_, fun hexact j hj => ?_⟩
    · have := hlongest j hj.le
      omega
    · rcases hj.eq_or_lt with hj | hj
      · exact absurd hj (hexact j (hj ▸ hlt))
      · exact hmax j hj

/-! ## Truncation -/

theorem truncateChars_of_le (h : (content.length : Int) ≤ limit) :
    truncateChars content limit = content := if_pos h

theorem truncateChars_of_le_marker (h : limit < content.length) (hm : limit ≤ marker.length) :
    truncateChars content limit = marker.drop (marker.length - limit.toNat) := by
  rw [truncateChars, if_neg (by omega), if_pos hm]

theorem truncateChars_of_marker_le (h : limit < content.length) (hm : marker.length ≤ limit) :
    truncateChars content limit = kept content (limit.toNat - marker.length) ++ marker := by
  rcases eq_or_lt_of_le hm with heq | hlt
  · have hzero : limit.toNat - marker.length = 0 := by omega
    rw [truncateChars_of_le_marker h heq.ge, hzero, kept_of_le (Nat.zero_le _)]
    simp [← heq]
  · rw [truncateChars, if_neg (by omega), if_neg (by omega)]
    rfl

/-- A text and what is left of it when it is cut to a number of characters. -/
structure IsTruncation (content : List Char) (limit : Int) (result : List Char) : Prop where
  /-- A text that fits is left alone. -/
  whole : content.length ≤ limit → result = content
  bounded : limit < content.length → result.length ≤ max limit 0
  /-- In front of the marker stands the text up to a line break, or as much of its first line as
  fits. -/
  cut : limit < content.length → marker.length < limit → ∃ q, result = q ++ marker ∧ q <+: content ∧
    (q ++ ['\n'] <+: content ∨ limit - marker.length ≤ (firstLine content).length ∧
      q = content.take (limit - marker.length).toNat)
  /-- Where there is no room for the text, the end of the marker stands for it. -/
  rest : limit < content.length → 0 < limit → limit ≤ marker.length →
    result <:+ marker ∧ result.length = limit

/-- **Truncation is bounded and faithful, and cuts at lines.** -/
theorem truncate_isTruncation (content : String) (limit : Int) :
    IsTruncation content.toList limit (truncate content limit).toList := by
  rw [truncate, String.toList_ofList]
  generalize content.toList = content
  refine ⟨truncateChars_of_le, fun h => ?_, fun h hm => ?_, fun h hpos hm => ?_⟩
  · rcases le_total limit marker.length with hm | hm
    · rw [truncateChars_of_le_marker h hm, List.length_drop]
      omega
    · rw [truncateChars_of_marker_le h hm, List.length_append]
      have := length_kept_le content (limit.toNat - marker.length)
      omega
  · refine ⟨_, truncateChars_of_marker_le h hm.le, ?_⟩
    have hbudget : (limit - marker.length).toNat = limit.toNat - marker.length := by omega
    rw [hbudget]
    rcases Nat.lt_or_ge (firstLine content).length (limit.toNat - marker.length) with hf | hf
    · obtain ⟨-, ⟨lines, hpre, hlen, hlines⟩, -⟩ := kept_of_lt hf
      have hlines : lines <+: content := by
        refine (List.prefix_concat_iff.1 hlines).resolve_left fun heq => ?_
        rw [heq, List.length_append] at hlen
        omega
      exact ⟨(List.prefix_append _ _).trans (hpre.trans hlines), .inl (hpre.trans hlines)⟩
    · rw [kept_of_le hf]
      exact ⟨List.take_prefix _ _, .inr ⟨by omega, rfl⟩⟩
  · rw [truncateChars_of_le_marker h hm]
    refine ⟨List.drop_suffix _ _, ?_⟩
    rw [List.length_drop]
    omega

/-- **Which whole lines are kept.** Of a text that is too long, but whose first line fits, a run of
whole lines is kept. It is not shorter than any run that leaves room for one character more, and it
is the longest run that fits unless one of several lines fits exactly. -/
theorem truncate_longest_iff {content : String} {limit : Int} (hlong : limit < content.length)
    (hfirst : (firstLine content.toList).length + marker.length ≤ limit) :
    ∃ k, (truncate content limit).toList = leading content.toList k ++ marker ∧
      (∀ j, (leading content.toList j).length + marker.length < limit →
        (leading content.toList j).length ≤ (leading content.toList k).length) ∧
      ((∀ j, (leading content.toList j).length + marker.length ≤ limit →
          (leading content.toList j).length ≤ (leading content.toList k).length) ↔
        ∀ j, '\n' ∈ leading content.toList j →
          (leading content.toList j).length + marker.length ≠ limit) := by
  rw [truncate, String.toList_ofList]
  rw [← String.length_toList] at hlong
  generalize content.toList = content at *
  obtain ⟨budget, rfl⟩ : ∃ budget : Nat, limit = budget + marker.length :=
    ⟨limit.toNat - marker.length, by omega⟩
  obtain ⟨k, hk, hmax, hiff⟩ := kept_longest_iff (by omega : (firstLine content).length ≤ budget)
  have hbudget : ((budget : Int) + marker.length).toNat - marker.length = budget := by omega
  have hle (j : Nat) : (leading content j).length + marker.length ≤ (budget : Int) + marker.length ↔
      (leading content j).length ≤ budget := by omega
  have hne (j : Nat) : (leading content j).length + marker.length ≠ (budget : Int) + marker.length ↔
      (leading content j).length ≠ budget := by omega
  refine ⟨k, ?_, fun j hj => hmax j (by omega), ?_⟩
  · rw [truncateChars_of_marker_le hlong (by omega), hbudget, hk]
  · simpa only [hle, hne] using hiff

/-- A text whose last line is long. -/
def threeLines : String := "a\nb\ncccccccccccccccccccccccccccccccc"

/-- Two of its lines fit, and room is left. -/
theorem truncate_threeLines : 33 < (threeLines.length : Int) ∧
    ((firstLine threeLines.toList).length : Int) + marker.length ≤ 33 ∧
      (truncate threeLines 33).toList = leading threeLines.toList 2 ++ marker ∧
        ∀ j, ((leading threeLines.toList j).length : Int) + marker.length < 33 →
          (leading threeLines.toList j).length ≤ (leading threeLines.toList 2).length := by
  have hlong : 33 < (threeLines.length : Int) := by decide +kernel
  have hfirst : ((firstLine threeLines.toList).length : Int) + marker.length ≤ 33 := by
    decide +kernel
  have hresult : (truncate threeLines 33).toList = leading threeLines.toList 2 ++ marker := by
    decide +kernel
  obtain ⟨k, hk, hmax, -⟩ := truncate_longest_iff hlong hfirst
  rw [List.append_cancel_right (hk.symm.trans hresult)] at hmax
  exact ⟨hlong, hfirst, hresult, hmax⟩

/-- Two of its lines fit exactly, but only one is kept. -/
theorem truncate_threeLines_short : 32 < threeLines.length ∧
    (firstLine threeLines.toList).length + marker.length ≤ 32 ∧
      (leading threeLines.toList 2).length + marker.length = 32 ∧
        (truncate threeLines 32).toList = leading threeLines.toList 1 ++ marker ∧
          (leading threeLines.toList 1).length < (leading threeLines.toList 2).length := by
  decide +kernel

end Context
end CodeAtlas
