import CodeAtlas.Offside.Literal
import CodeAtlas.Proofs.Source.Places

/-!
# Fields lie in their format strings

The replacement fields of a format string stand in its text, one behind the other, also those that
stand in the format specification of another one: `Pieced p cs ps` says so of the pieces `ps` of a
text `cs` that starts at the place `p` (`Literal.pieced_pieces`).
-/

namespace CodeAtlas.Offside

/-- Pieces of a text from a place on. What stands behind a fault does not count. -/
inductive Pieced : Place → List Char → List Literal.Piece → Prop
  | done {p : Place} {cs : List Char} : Pieced p cs []
  | fault {p : Place} {cs : List Char} {ps : List Literal.Piece} : Pieced p cs (.fault :: ps)
  | plain {p : Place} {c : Char} {cs : List Char} {ps : List Literal.Piece} :
    Pieced (p.after c) cs ps → Pieced p (c :: cs) ps
  | field {p : Place} {chars cs : List Char} {ps : List Literal.Piece} :
    Pieced (p.afterAll ('\x7b' :: chars)) cs ps →
      Pieced p ('\x7b' :: chars ++ cs) (.field chars p :: ps)

/-- Pieces of the front of a text; from the place `q` on, `left` is left of it. -/
def Passes (p : Place) (cs : List Char) (ps : List Literal.Piece) (q : Place) (left : List Char) :
    Prop :=
  (∃ front, cs = front ++ left ∧ q = p.afterAll front) ∧
    ∀ more, Pieced q left more → Pieced p cs (ps ++ more)

namespace Passes

variable {p q r : Place} {cs mid left : List Char} {ps qs : List Literal.Piece}

theorem trans (h : Passes p cs ps q mid) (h' : Passes q mid qs r left) :
    Passes p cs (ps ++ qs) r left := by
  obtain ⟨⟨front, rfl, rfl⟩, hps⟩ := h
  obtain ⟨⟨front', rfl, rfl⟩, hqs⟩ := h'
  refine ⟨⟨front ++ front', by simp, (p.afterAll_append front front').symm⟩, fun more hmore => ?_⟩
  rw [List.append_assoc]
  exact hps _ (hqs more hmore)

theorem plain (p : Place) (as cs : List Char) : Passes p (as ++ cs) [] (p.afterAll as) cs := by
  refine ⟨⟨as, rfl, rfl⟩, fun more hmore => ?_⟩
  induction as generalizing p with
  | nil => exact hmore
  | cons a as ih => exact .plain (ih _ hmore)

theorem all (p : Place) (cs : List Char) : Passes p cs [] (p.afterAll cs) [] := by
  simpa using plain p cs []

theorem field (p : Place) (chars cs : List Char) :
    Passes p ('\x7b' :: chars ++ cs) [.field chars p] (p.afterAll ('\x7b' :: chars)) cs :=
  ⟨⟨_, rfl, rfl⟩, fun _ hmore => .field hmore⟩

theorem fault (p : Place) (cs : List Char) : Passes p cs [.fault] (p.afterAll cs) [] :=
  ⟨⟨cs, by simp, rfl⟩, fun _ _ => .fault⟩

/-- The place of what is left tells how much of the text has been passed. -/
theorem place_eq (h : Passes p cs ps q left) : q = p.afterAll (cs.take (cs.length - left.length)) := by
  obtain ⟨⟨front, rfl, rfl⟩, -⟩ := h
  simp

/-- Behind a field, at the place that the rest of the text tells. -/
theorem field_suffix {chars after rest : List Char} (p : Place) (h : rest <:+ after) :
    Passes p ('\x7b' :: (chars ++ after)) [.field chars p]
      (p.afterAll (('\x7b' :: (chars ++ after)).take ((chars ++ after).length + 1 - rest.length)))
      rest := by
  obtain ⟨mid, rfl⟩ := h
  have hpass := (Passes.field p chars (mid ++ rest)).trans (.plain _ mid rest)
  rw [hpass.place_eq] at hpass
  exact hpass

end Passes

namespace Literal

theorem splitField?_append {s : FieldScan} {cs chars left : List Char}
    (h : splitField? s cs = some (chars, left)) : cs = chars ++ left := by
  fun_induction splitField? s cs generalizing chars left <;> grind [Option.map_eq_some_iff]

theorem skipConversion?_suffix {cs left : List Char} (h : skipConversion? cs = some left) :
    left <:+ cs := by
  have hblanks : (if cs.head? = some '=' then
      cs.tail.dropWhile fun c => c = ' ' || (9 ≤ c.toNat && c.toNat ≤ 13) else cs) <:+ cs := by
    split
    · exact (List.dropWhile_suffix _).trans (List.tail_suffix cs)
    · exact List.suffix_rfl
  simp only [skipConversion?] at h
  refine List.IsSuffix.trans ?_ hblanks
  split at h
  · next c rest heq =>
    rw [heq]
    split at h
    · cases h
      exact (List.suffix_cons c left).trans (List.suffix_cons '!' _)
    · cases h
  · cases h
  · cases h
    exact List.suffix_rfl

/-- What stands behind a literal part of a format string, by its end. -/
def PlainEnd.Follows (plain cs : List Char) : PlainEnd → Prop
  | .finish | .stray => True
  | .doubled rest => ∃ c, cs = plain ++ c :: rest ∧ (c = '\x7b' ∨ c = '\x7d')
  | .brace rest => ∃ c more, rest = c :: more ∧ cs = plain ++ rest ∧ (c = '\x7b' ∨ c = '\x7d')

theorem PlainEnd.Follows.cons {plain cs : List Char} {e : PlainEnd} (h : e.Follows plain cs)
    (c : Char) : e.Follows (c :: plain) (c :: cs) := by
  cases e with
  | finish => trivial
  | stray => trivial
  | doubled rest =>
    obtain ⟨d, rfl, hd⟩ := h
    exact ⟨d, rfl, hd⟩
  | brace rest =>
    obtain ⟨d, more, rfl, rfl, hd⟩ := h
    exact ⟨d, more, rfl, rfl, hd⟩

theorem follows_splitPlain {isRaw top named : Bool} {cs plain : List Char} {e : PlainEnd}
    (h : splitPlain isRaw top named cs = (plain, e)) : e.Follows plain cs := by
  fun_induction splitPlain isRaw top named cs generalizing plain e with
  | case1 | case4 | case9 =>
    cases h
    trivial
  | case2 c cs plain e hx ih | case6 c cs hc hplain plain e hx ih =>
    cases h
    exact (ih hx).cons c
  | case3 c cs hc htop =>
    cases h
    simp only [Bool.and_eq_true, Bool.or_eq_true, decide_eq_true_eq] at hc htop
    obtain ⟨more, rfl⟩ := List.head?_eq_some_iff.1 htop.2
    exact ⟨c, rfl, hc⟩
  | case5 c cs hc =>
    cases h
    exact ⟨c, cs, rfl, rfl, by simpa using hc⟩
  | case7 c hc d rest plain e hx hplain ih =>
    cases h
    exact (((ih hx).cons d).cons 'N').cons c
  | case8 c hc d rest hnot plain e hx hplain ih =>
    cases h
    exact ((ih hx).cons d).cons c

/-- The pieces that a scan gives from a place on are those of the text in front of what it leaves. -/
def Passed (p : Place) (cs : List Char) (r : List Piece × Option (List Char)) : Prop :=
  ∃ q, Passes p cs r.1 q (r.2.getD [])

namespace Passed

variable {p q : Place} {cs mid : List Char} {ps : List Piece} {r : List Piece × Option (List Char)}

theorem fault (p : Place) (cs : List Char) : Passed p cs ([.fault], none) := ⟨_, .fault p cs⟩

theorem behind (h : Passes p cs ps q mid) (hr : Passed q mid r) : Passed p cs (ps ++ r.1, r.2) := by
  obtain ⟨q', hq'⟩ := hr
  exact ⟨q', h.trans hq'⟩

end Passed

/-- The pieces from somewhere on are those of the text in front of what is left. -/
theorem passed_piecesFrom (isRaw : Bool) (fuel : Nat) (top : Bool) (cs : List Char) (place : Place)
    (depth : Nat) : Passed place cs (piecesFrom isRaw fuel top cs place depth) := by
  fun_induction piecesFrom isRaw fuel top cs place depth with
  | case1 | case2 | case4 | case8 | case9 | case10 => exact .fault _ _
  | case3 => exact ⟨_, .all _ _⟩
  | case5 fuel top cs place depth plain here _ rest hends ih =>
    obtain ⟨c, rfl, hc⟩ := follows_splitPlain hends
    have hafter : here.afterAll [c] = here.after '\x7b' := by
      rcases hc with rfl | rfl <;> rfl
    have hplain := (Passes.plain place plain (c :: rest)).trans (.plain here [c] rest)
    rw [hafter] at hplain
    exact .behind hplain ih
  | case6 fuel top cs place depth plain _ hends =>
    obtain ⟨c, more, hrest, -⟩ := follows_splitPlain hends
    cases hrest
  | case7 fuel top cs place depth plain _ inner hends =>
    obtain ⟨c, more, hrest, rfl, -⟩ := follows_splitPlain hends
    exact ⟨_, .plain place plain _⟩
  | case11 fuel top cs place depth plain here _ c inner hopen _ chars after hsplit _ placeOf pieces
      left hpieces hends ihSpec ihRest =>
    obtain ⟨d, more, heq, rfl, hd⟩ := follows_splitPlain hends
    obtain ⟨rfl, rfl⟩ := List.cons.inj heq
    obtain rfl : c = '\x7b' := hd.resolve_right hopen
    obtain rfl := splitField?_append hsplit
    have hreach : ∀ rest, rest <:+ after →
        Passes here ('\x7b' :: (chars ++ after)) [.field chars here] (placeOf rest) rest :=
      fun rest hrest => .field_suffix here hrest
    refine .behind (.plain place plain _) (r := (.field chars here :: pieces, left)) ?_
    split at hpieces
    · cases hpieces
      exact .behind (hreach after List.suffix_rfl) (.fault _ _)
    · next spec hconv =>
      have hspec := (List.suffix_cons ':' spec).trans (skipConversion?_suffix hconv)
      obtain ⟨r, hnested⟩ := ihSpec spec
      split at hpieces
      next nested left hnestedEq =>
      rw [hnestedEq] at hnested
      have hinner := (hreach spec hspec).trans hnested
      split at hpieces
      · next rest =>
        -- A format specification with its closing brace, and what follows.
        have hclosed := hinner.trans (.plain r ['\x7d'] rest)
        have hplace : r.afterAll ['\x7d'] = placeOf rest := hclosed.place_eq
        rw [hplace, List.append_nil] at hclosed
        cases hpieces
        exact .behind hclosed (ihRest rest)
      · cases hpieces
        exact .behind hinner (.fault r _)
      · cases hpieces
        exact ⟨r, hinner⟩
    · next rest hconv =>
      have hrest := (List.suffix_cons '\x7d' rest).trans (skipConversion?_suffix hconv)
      have hmore := ihRest rest
      rw [hpieces] at hmore
      exact .behind (hreach rest hrest) hmore
    · cases hpieces
      exact .behind (hreach after List.suffix_rfl) (.fault _ _)

/-- The pieces of a format string lie in its text. -/
theorem pieced_pieces (l : Literal) : Pieced l.place l.body l.pieces := by
  obtain ⟨q, -, hps⟩ := passed_piecesFrom l.isRaw (l.body.length + 1) true l.body l.place 2
  rw [pieces]
  split
  · next ps c rest heq =>
    rw [heq] at hps
    exact hps _ .fault
  · next ps left? _ heq =>
    rw [heq] at hps
    simpa using hps [] .done

/-- The body of a literal is a part of its text. -/
theorem ofText_body (cs : List Char) (start : Place) :
    ∃ front back, cs = front ++ (ofText cs start).body ++ back ∧
      (ofText cs start).place = start.afterAll front := by
  let letters := cs.takeWhile fun c => !(decide (c = '"') || decide (c = '\x27'))
  let quoted := cs.drop letters.length
  have hcs : letters ++ quoted = cs := by
    obtain ⟨rest, hrest⟩ := List.takeWhile_prefix
      (fun c => !(decide (c = '"') || decide (c = '\x27'))) (l := cs)
    have hquoted : quoted = rest := by
      simp only [quoted]
      rw [← hrest]
      exact List.drop_left
    rw [hquoted]
    exact hrest
  -- The quotes are cut off at both ends.
  have hcut : ∀ m n : Nat, ∃ front back, cs = front ++ (quoted.drop m).take n ++ back ∧
      start.afterAll (letters ++ quoted.take m) = start.afterAll front := by
    intro m n
    refine ⟨letters ++ quoted.take m, (quoted.drop m).drop n, ?_, rfl⟩
    rw [List.append_assoc, List.take_append_drop, List.append_assoc, List.take_append_drop, hcs]
  exact hcut _ _

end Literal
end CodeAtlas.Offside
