import CodeAtlas.Offside.Lexer
import CodeAtlas.Proofs.Source.Excerpts

/-!
# Tokens lie in their text

`Lexes p cs ts` says that `ts` are tokens of a text `cs` which starts at the place `p`: one behind the
other, each with the characters and the places of a piece of the text, and layout in between. The
lexer gives such tokens (`lexes_run`), so tokens are in order and none overlaps another
(`Lexes.ordered`).

The text that the lexer reads has every line ended by a line feed. Its places are places of the text
as it is written, where carriage returns end lines too (`Located.exists_cut`). Only behind the line
feed that may be added at the end there is nothing written, and no excerpt reaches there
(`Located.isPlace`).
-/

namespace CodeAtlas.Offside

/-- A token that stands for the characters of `lexeme`, which start at `p`. -/
structure Token.Spells (t : Token) (p : Place) (lexeme : List Char) : Prop where
  solid : t.isLayout = false
  nonempty : lexeme ≠ []
  text : t.text = String.ofList lexeme
  start : t.start = p
  stop : t.stop = p.afterAll lexeme
  word : t.kind = .word → ∀ c ∈ lexeme, isWordCharacter c = true

/-- Tokens of a text from a place on. Layout stands where the next token could start; at the end of
the text its place does not count. -/
inductive Lexes : Place → List Char → List Token → Prop
  | done {p : Place} {cs : List Char} : Lexes p cs []
  | blank {p : Place} {c : Char} {cs : List Char} {ts : List Token} :
    Lexes (p.after c) cs ts → Lexes p (c :: cs) ts
  | layout {p : Place} {cs : List Char} {t : Token} {ts : List Token} :
    t.isLayout = true → (t.start = p ∨ cs = []) → Lexes p cs ts → Lexes p cs (t :: ts)
  | token {p : Place} {lexeme cs : List Char} {t : Token} {ts : List Token} :
    t.Spells p lexeme → Lexes t.stop cs ts → Lexes p (lexeme ++ cs) (t :: ts)

theorem Lexes.blanks {p : Place} {as cs : List Char} {ts : List Token}
    (h : Lexes (p.afterAll as) cs ts) : Lexes p (as ++ cs) ts := by
  induction as generalizing p with
  | nil => exact h
  | cons a as ih => exact .blank (ih h)

theorem Lexes.of_drop {p : Place} {cs : List Char} {ts : List Token} (n : Nat)
    (h : Lexes (p.afterAll (cs.take n)) (cs.drop n) ts) : Lexes p cs ts := by
  rw [← List.take_append_drop n cs]
  exact h.blanks

/-! ## Lengths of literals -/

theorem skipDigits?_length {p : Char → Bool} {cs rest : List Char}
    (h : skipDigits? p cs = some rest) : rest.length ≤ cs.length := by
  fun_induction skipDigits? p cs <;> grind

theorem skipImaginary?_length {cs rest : List Char} (h : skipImaginary? cs = some rest) :
    rest.length ≤ cs.length := by
  cases cs <;> grind [skipImaginary?]

theorem skipExponent?_length {cs rest : List Char} (h : skipExponent? cs = some rest) :
    rest.length ≤ cs.length := by
  -- Digits with an imaginary mark behind them.
  have hdigits : ∀ ds : List Char, (skipDigits? isDigit ds).bind skipImaginary? = some rest →
      rest.length ≤ ds.length := by
    intro ds hds
    obtain ⟨more, hmore, hrest⟩ := Option.bind_eq_some_iff.1 hds
    exact (skipImaginary?_length hrest).trans (skipDigits?_length hmore)
  rcases cs with _ | ⟨c, _ | ⟨s, ds⟩⟩ <;> grind [skipExponent?, skipImaginary?_length]

theorem skipFraction?_length {cs rest : List Char} (h : skipFraction? cs = some rest) :
    rest.length ≤ cs.length := by
  rw [skipFraction?] at h
  split at h
  · obtain ⟨more, hmore, hrest⟩ := Option.bind_eq_some_iff.1 h
    exact (skipExponent?_length hrest).trans (skipDigits?_length hmore)
  · exact skipExponent?_length h

theorem skipBased?_length {p : Char → Bool} {cs rest : List Char}
    (h : skipBased? p cs = some rest) : rest.length ≤ cs.length := by
  rw [skipBased?] at h
  generalize hds : (if cs.head? = some '_' then cs.tail else cs) = ds at h
  have hle : ds.length ≤ cs.length := by
    rw [← hds]
    split <;> simp
  split at h
  · obtain ⟨more, hmore, hrest⟩ := Option.bind_eq_some_iff.1 h
    have hdigits := skipDigits?_length hmore
    obtain rfl : more = rest := by grind
    exact hdigits.trans hle
  · cases h

theorem numberEnd?_length {c : Char} {cs rest : List Char} (h : numberEnd? c cs = some rest) :
    rest.length ≤ cs.length := by
  have htail : cs.tail.length ≤ cs.length := by simp
  simp only [numberEnd?] at h
  split at h
  · exact (skipBased?_length h).trans htail
  split at h
  · exact (skipBased?_length h).trans htail
  split at h
  · exact (skipBased?_length h).trans htail
  · obtain ⟨more, hmore, hrest⟩ := Option.bind_eq_some_iff.1 h
    have hdigits := skipDigits?_length hmore
    cases more with
    | nil => grind
    | cons d more =>
      simp only at hrest
      rw [List.length_cons] at hdigits
      split at hrest
      · have hle := skipFraction?_length hrest
        omega
      split at hrest
      · cases hrest
      · have hle := skipExponent?_length hrest
        rw [List.length_cons] at hle
        omega

namespace Lexer

theorem numberLength?_pos {cs : List Char} {n : Nat} (h : numberLength? cs = some n) : 0 < n := by
  obtain ⟨rest, hrest, rfl⟩ := Option.map_eq_some_iff.1 h
  generalize cs.takeWhile (fun c => isWordCharacter c || c = '.' || c = '+' || c = '-') = run at hrest
  cases run with
  | nil => simp at hrest
  | cons c more =>
    have hle : rest.length ≤ more.length := by
      split at hrest
      · next heq =>
        obtain ⟨-, rfl⟩ := List.cons.inj heq
        exact skipFraction?_length hrest
      · next heq =>
        obtain ⟨rfl, rfl⟩ := List.cons.inj heq
        exact numberEnd?_length hrest
      · cases hrest
    simp only [List.length_cons]
    omega

theorem shortTextLength?_pos {q : Char} {cs : List Char} {n m : Nat}
    (h : shortTextLength? q cs n = some m) : 0 < m := by
  fun_induction shortTextLength? q cs n <;> grind

theorem longTextLength?_pos {q : Char} {cs : List Char} {k n m : Nat}
    (h : longTextLength? q cs k n = some m) : 0 < m := by
  fun_induction longTextLength? q cs k n <;> grind

theorem textLength?_pos {cs : List Char} {n : Nat} (h : textLength? cs = some n) : 0 < n := by
  rw [textLength?.eq_def] at h
  split at h
  · split at h
    · split at h
      · exact longTextLength?_pos h
      · grind
    · exact shortTextLength?_pos h
  · grind
  · cases h

theorem markLength_pos (cs : List Char) : 0 < markLength cs := by
  rw [markLength]
  split
  · next m hm =>
    have hlong : ∀ m ∈ longMarks, 0 < m.length := by decide
    exact hlong m (List.mem_of_find?_eq_some hm)
  · exact Nat.one_pos

/-! ## Steps of the lexer -/

/-- Whatever stands from `y` on stands from `x` on, behind the tokens that `y` has more. -/
def Onward (x y : Lexer) : Prop :=
  ∀ ts, Lexes y.place y.rest ts →
    ∃ ts', y.tokens.reverse ++ ts = x.tokens.reverse ++ ts' ∧ Lexes x.place x.rest ts'

variable {x y z : Lexer}

theorem Onward.trans (h : x.Onward y) (h' : y.Onward z) : x.Onward z := by
  intro ts hts
  obtain ⟨ts', heq', hts'⟩ := h' ts hts
  obtain ⟨ts'', heq'', hts''⟩ := h ts' hts'
  exact ⟨ts'', heq'.trans heq'', hts''⟩

/-- What the lexer knows beside the text and the tokens does not matter. -/
theorem Onward.of_eq (hp : y.place = x.place) (hr : y.rest = x.rest) (ht : y.tokens = x.tokens) :
    x.Onward y := by
  intro ts hts
  rw [hp, hr] at hts
  exact ⟨ts, by rw [ht], hts⟩

theorem onward_skip (x : Lexer) (n : Nat) : x.Onward (x.skip n) := by
  intro ts hts
  exact ⟨ts, rfl, hts.of_drop n⟩

theorem mark_start (x : Lexer) : (⟨x.line, x.place.column⟩ : Place) = x.place ∨ x.rest = [] := by
  rw [line]
  split
  · next h =>
    simp only [Bool.and_eq_true, List.isEmpty_iff] at h
    exact .inr h.1.1
  · exact .inl rfl

theorem onward_mark (x : Lexer) {kind : TokenKind}
    (hk : kind = .indent ∨ kind = .dedent ∨ kind = .finish ∨ kind = .fault) :
    x.Onward (x.mark kind) := by
  intro ts hts
  refine ⟨_, by simp only [mark, List.reverse_cons, List.append_assoc]; rfl, ?_⟩
  refine .layout ?_ x.mark_start hts
  rcases hk with rfl | rfl | rfl | rfl <;> rfl

theorem onward_newline (x : Lexer) : x.Onward (x.take .newline 1) := by
  intro ts hts
  refine ⟨_, by simp only [take, takeWith, List.reverse_cons, List.append_assoc]; rfl, ?_⟩
  exact .layout rfl (.inl rfl) (Lexes.of_drop 1 hts)

theorem onward_takeWith {x : Lexer} {kind : TokenKind} {brackets : List (Char × Nat)} {n : Nat}
    (hk : kind = .word ∨ kind = .keyword ∨ kind = .number ∨ kind = .text ∨ kind = .mark)
    (hn : x.rest.take n ≠ [])
    (hw : kind = .word → ∀ c ∈ x.rest.take n, isWordCharacter c = true) :
    x.Onward (x.takeWith kind brackets n) := by
  intro ts hts
  refine ⟨_, by simp only [takeWith, List.reverse_cons, List.append_assoc]; rfl, ?_⟩
  have htoken : Token.Spells ⟨kind, String.ofList (x.rest.take n), brackets.length, x.place,
      x.place.afterAll (x.rest.take n)⟩ x.place (x.rest.take n) :=
    ⟨by rcases hk with rfl | rfl | rfl | rfl | rfl <;> rfl, hn, rfl, rfl, rfl, hw⟩
  have h : Lexes x.place (x.rest.take n ++ x.rest.drop n) _ := .token htoken hts
  rwa [List.take_append_drop] at h

/-- What is read as a token is one. -/
theorem onward_readToken {x y : Lexer} {c : Char} {cs : List Char} (hr : x.rest = c :: cs)
    (h : x.readToken c cs = .ok y) : x.Onward y := by
  have hpos : ∀ n, 0 < n → x.rest.take n ≠ [] := by
    intro n hn
    simp [hr, Nat.pos_iff_ne_zero.1 hn]
  have hword : ∀ p : Char → Bool, x.rest.take ((c :: cs).takeWhile p).length =
      (c :: cs).takeWhile p := by
    intro p
    rw [hr]
    exact (List.prefix_iff_eq_take.1 (List.takeWhile_prefix p)).symm
  rw [readToken] at h
  split at h
  · split at h
    · next n m hm =>
      cases h
      have hm' := textLength?_pos hm
      exact onward_takeWith (by simp) (hpos _ (by omega)) (by simp)
    · cases h
  split at h
  · next hc =>
    have hne : x.rest.take ((c :: cs).takeWhile isWordCharacter).length ≠ [] := by
      rw [hword]
      simp only [Bool.and_eq_true] at hc
      simp [hc.1]
    dsimp only at h
    split at h
    · cases h
      exact onward_takeWith (by simp) hne (by simp)
    split at h
    · cases h
      refine onward_takeWith (by simp) hne fun _ d hd => ?_
      rw [hword] at hd
      exact List.all_eq_true.1 List.all_takeWhile d hd
    · cases h
  split at h
  · split at h
    · next n hn =>
      cases h
      exact onward_takeWith (by simp) (hpos n (numberLength?_pos hn)) (by simp)
    · cases h
  split at h
  · cases h
  split at h
  · split at h
    · cases h
    · cases h
      exact onward_takeWith (by simp) (hpos 1 Nat.one_pos) (by simp)
  split at h
  · split at h
    · cases h
    split at h
    · cases h
      exact onward_takeWith (by simp) (hpos 1 Nat.one_pos) (by simp)
    · cases h
  · cases h
    exact onward_takeWith (by simp) (hpos _ (markLength_pos _)) (by simp)

/-- Measuring the margin of a line takes no text. -/
theorem layout_same {x y : Lexer} {m : Margin} (h : x.layout m = .ok y) :
    y.place = x.place ∧ y.rest = x.rest ∧ y.tokens = x.tokens := by
  simp only [layout] at h
  repeat' split at h
  all_goals cases h
  all_goals exact ⟨rfl, rfl, rfl⟩

/-- The tokens that the lexer reads from some point on are tokens of the text from there on. -/
theorem lexes_run (fuel : Nat) (x : Lexer) :
    ∃ ts, (x.run fuel).tokens = x.tokens.reverse ++ ts ∧ Lexes x.place x.rest ts := by
  induction fuel generalizing x with
  | zero => exact ⟨[], by simp [run], .done⟩
  | succ fuel ih =>
    -- It is enough to go on to some point from which the rest is read.
    have hgo : ∀ y : Lexer, x.Onward y → ∃ ts, (y.run fuel).tokens = x.tokens.reverse ++ ts ∧
        Lexes x.place x.rest ts := by
      intro y hy
      obtain ⟨ts, heq, hts⟩ := ih y
      obtain ⟨ts', heq', hts'⟩ := hy ts hts
      exact ⟨ts', heq.trans heq', hts'⟩
    have hfail : ∀ (y : Lexer) (f : Fault), x.Onward y → ∃ ts, (y.fail f).tokens =
        x.tokens.reverse ++ ts ∧ Lexes x.place x.rest ts := by
      intro y f hy
      obtain ⟨ts, heq, hts⟩ := (hy.trans (y.onward_mark (.inr (.inr (.inr rfl))))) [] .done
      exact ⟨ts, by simpa [fail] using heq, hts⟩
    rw [run]
    split
    · exact hgo _ ((x.onward_mark (by simp)).trans (.of_eq rfl rfl rfl))
    split
    · exact hgo _ ((x.onward_mark (by simp)).trans (.of_eq rfl rfl rfl))
    split
    · -- At the start of a line.
      split
      · exact hfail x _ (.of_eq rfl rfl rfl)
      · next m n hm =>
        dsimp only
        generalize (if (x.skip n).rest.head? = some '#' then lineLength (x.skip n).rest else 0) = k
        split
        · exact hgo _ ((x.onward_skip n).trans (.of_eq rfl rfl rfl))
        split
        · exact hgo _ ((x.onward_skip n).trans ((x.skip n).onward_skip _))
        split
        · next z hz =>
          obtain ⟨hp, hrest, ht⟩ := layout_same hz
          exact hgo _ ((x.onward_skip n).trans (.of_eq hp hrest ht))
        · exact hfail _ _ (x.onward_skip n)
    split
    · split
      · exact hfail x _ (.of_eq rfl rfl rfl)
      · obtain ⟨ts, heq, hts⟩ := x.onward_mark (.inr (.inr (.inl rfl))) [] .done
        exact ⟨ts, by simpa using heq, hts⟩
    · split
      · exact hfail x _ (.of_eq rfl rfl rfl)
      · exact hgo _ (x.onward_skip 2)
    · next c cs hnot hrest =>
      split
      · exact hgo _ (x.onward_skip 1)
      split
      · exact hgo _ (x.onward_skip _)
      split
      · split
        · exact hgo _ (x.onward_newline.trans (.of_eq rfl rfl rfl))
        · exact hgo _ ((x.onward_skip 1).trans (.of_eq rfl rfl rfl))
      split
      · exact hfail x _ (.of_eq rfl rfl rfl)
      split
      · next y hy => exact hgo y (onward_readToken hrest hy)
      · exact hfail x _ (.of_eq rfl rfl rfl)

end Lexer

/-! ## Tokens in their order -/

/-- A place in a text that starts at `p`. -/
def Located (p : Place) (cs : List Char) (q : Place) : Prop :=
  ∃ as bs, cs = as ++ bs ∧ q = p.afterAll as

namespace Located

variable {p q : Place} {cs : List Char}

theorem self (p : Place) (cs : List Char) : Located p cs p := ⟨[], cs, rfl, rfl⟩

theorem append (as : List Char) (h : Located (p.afterAll as) cs q) : Located p (as ++ cs) q := by
  obtain ⟨bs, ds, rfl, rfl⟩ := h
  exact ⟨as ++ bs, ds, by simp, (p.afterAll_append as bs).symm⟩

end Located

namespace Lexes

variable {p : Place} {cs : List Char} {ts : List Token}

/-- A token stands for a piece of the text. -/
theorem exists_spells (h : Lexes p cs ts) {t : Token} (ht : t ∈ ts) (hs : t.isLayout = false) :
    ∃ as lexeme bs, cs = as ++ lexeme ++ bs ∧ t.Spells (p.afterAll as) lexeme := by
  induction h with
  | done => cases ht
  | blank h ih =>
    obtain ⟨as, lexeme, bs, rfl, hsp⟩ := ih ht
    exact ⟨_ :: as, lexeme, bs, by simp, hsp⟩
  | layout hl hp h ih =>
    rcases List.mem_cons.1 ht with rfl | ht
    · rw [hl] at hs
      cases hs
    · exact ih ht
  | token hsp h ih =>
    rcases List.mem_cons.1 ht with rfl | ht
    · exact ⟨[], _, _, by simp; rfl, hsp⟩
    · obtain ⟨as, lexeme, bs, rfl, hsp'⟩ := ih ht
      rw [hsp.stop, ← Place.afterAll_append] at hsp'
      exact ⟨_ ++ as, lexeme, bs, by simp, hsp'⟩

theorem le_start (h : Lexes p cs ts) {t : Token} (ht : t ∈ ts) (hs : t.isLayout = false) :
    p ≤ t.start := by
  obtain ⟨as, lexeme, bs, -, hsp⟩ := h.exists_spells ht hs
  rw [hsp.start]
  exact p.le_afterAll as

/-- No token overlaps a later one. -/
theorem ordered (h : Lexes p cs ts) :
    ts.Pairwise fun t u => t.isLayout = false → u.isLayout = false → t.stop ≤ u.start := by
  induction h with
  | done => exact .nil
  | blank h ih => exact ih
  | layout hl hp h ih =>
    refine .cons (fun u hu hs => ?_) ih
    rw [hl] at hs
    cases hs
  | token hsp h ih => exact .cons (fun u hu _ hu' => h.le_start hu hu') ih

/-- What has a token behind it starts in the text, and not behind the token. -/
theorem started (h : Lexes p cs ts) :
    ts.Pairwise fun t u => u.isLayout = false → Located p cs t.start ∧ t.start ≤ u.start := by
  induction h with
  | done => exact .nil
  | blank h ih => exact ih.imp fun hr hu => ⟨(hr hu).1.append [_], (hr hu).2⟩
  | layout hl hp h ih =>
    refine .cons (fun u hu hs => ?_) ih
    rcases hp with hp | rfl
    · rw [hp]
      exact ⟨.self _ _, h.le_start hu hs⟩
    · -- Behind the end of the text there is no token.
      obtain ⟨as, lexeme, bs, heq, hsp⟩ := h.exists_spells hu hs
      exact absurd heq (by simp [hsp.nonempty])
  | token hsp h ih =>
    refine .cons (fun u hu hs => ?_) (ih.imp fun hr hu => ?_)
    · rw [hsp.start]
      refine ⟨.self _ _, ?_⟩
      have hle := h.le_start hu hs
      rw [hsp.stop] at hle
      exact (Place.le_afterAll _ _).trans hle
    · rw [hsp.stop] at hr
      exact ⟨(hr hu).1.append _, (hr hu).2⟩

end Lexes

namespace TokenList

/-- The tokens of a source lie in it. -/
theorem lexes_ofText (content : String) :
    Lexes ⟨1, 0⟩ (endLastLine (unifyLineEnds content.toList)) (ofText content).tokens := by
  obtain ⟨ts, heq, hts⟩ := Lexer.lexes_run
    (3 * (endLastLine (unifyLineEnds content.toList)).length + 3)
    (Lexer.start (endLastLine (unifyLineEnds content.toList)))
  rw [ofText, heq]
  exact hts

end TokenList

/-! ## Places of the text as it is written -/

section

open Text

theorem Located.cons_cases {p q : Place} {c : Char} {cs : List Char} (h : Located p (c :: cs) q) :
    q = p ∨ Located (p.after c) cs q := by
  obtain ⟨as, bs, heq, rfl⟩ := h
  cases as with
  | nil => exact .inl rfl
  | cons a as =>
    obtain ⟨rfl, rfl⟩ := List.cons.inj heq
    exact .inr ⟨as, bs, rfl, rfl⟩

/-- No line feed belongs to the character. -/
theorem head?_ne_of_single {c : Char} {cs : List Char}
    (h : ∀ rest, c = '\r' → cs = '\n' :: rest → False) (hc : c = '\r') : cs.head? ≠ some '\n' := by
  intro hn
  obtain ⟨rest, hrest⟩ := List.head?_eq_some_iff.1 hn
  exact h rest hc hrest

theorem next_of_single {p : Place} {c : Char} {cs : List Char}
    (h : ∀ rest, c = '\r' → cs = '\n' :: rest → False) :
    p.next true c cs = p.after (if c = '\r' then '\n' else c) := by
  by_cases hc : c = '\r'
  · rw [Place.next, if_pos (by simp [hc]), if_neg (head?_ne_of_single h hc), if_pos hc]
    rfl
  · simp [Place.next, hc]

/-- A place of the text that the lexer reads is one of the text as it is written. -/
theorem Located.exists_cut {p q : Place} {cs : List Char} (h : Located p (unifyLineEnds cs) q) :
    ∃ as bs, cs = as ++ bs ∧ Unsplit true as bs ∧ q = p.pass true as bs := by
  induction cs using unifyLineEnds.induct generalizing p with
  | case1 =>
    obtain ⟨as, bs, heq, rfl⟩ := h
    obtain ⟨rfl, rfl⟩ := List.append_eq_nil_iff.1 heq.symm
    exact ⟨[], [], rfl, unsplit_nil [], rfl⟩
  | case2 cs ih =>
    rw [unifyLineEnds] at h
    rcases h.cons_cases with rfl | h
    · exact ⟨[], _, rfl, unsplit_nil _, rfl⟩
    · obtain ⟨as, bs, rfl, hu, rfl⟩ := ih h
      have hfeed : Unsplit true ('\n' :: as) bs := hu.cons fun _ hc => absurd hc (by decide)
      exact ⟨'\r' :: '\n' :: as, bs, rfl, hfeed.cons (fun hnil => nomatch hnil), rfl⟩
  | case3 c cs hnot ih =>
    rw [unifyLineEnds.eq_3 c cs hnot] at h
    rcases h.cons_cases with rfl | h
    · exact ⟨[], _, rfl, unsplit_nil _, rfl⟩
    · obtain ⟨as, bs, rfl, hu, rfl⟩ := ih h
      refine ⟨c :: as, bs, rfl, hu.cons fun hnil hc => ?_, ?_⟩
      · simpa [hnil] using head?_ne_of_single hnot hc
      · rw [Place.pass, next_of_single hnot]

theorem pass_unifyLineEnds (p : Place) (cs : List Char) :
    p.pass true cs [] = p.afterAll (unifyLineEnds cs) := by
  induction cs using unifyLineEnds.induct generalizing p with
  | case1 => rfl
  | case2 cs ih => exact ih (p.after '\n')
  | case3 c cs hnot ih =>
    rw [unifyLineEnds.eq_3 c cs hnot, Place.pass, List.append_nil, next_of_single hnot, ih]
    rfl

/-- Where an excerpt may start or stop, a place of the text that the lexer reads is one of the text as
it is written. -/
theorem Located.isPlace {q : Place} {content : List Char}
    (h : Located origin (endLastLine (unifyLineEnds content)) q) (hq : Agrees true content q) :
    IsPlace true content q := by
  have hwritten : Located origin (unifyLineEnds content) q → IsPlace true content q :=
    fun h => h.exists_cut
  rw [endLastLine] at h
  split at h
  · exact hwritten h
  · obtain ⟨as, bs, heq, rfl⟩ := h
    rcases List.append_eq_append_iff.1 heq with ⟨ms, has, hbs⟩ | ⟨ms, hcs, hbs⟩
    · cases ms with
      | nil => exact hwritten ⟨as, [], by simp [has], rfl⟩
      | cons m ms =>
        -- Behind the added line feed: all that is written stands before, and no line is there.
        obtain ⟨rfl, hnil⟩ := List.cons.inj hbs
        obtain ⟨rfl, rfl⟩ := List.append_eq_nil_iff.1 hnil.symm
        have hafter : origin.afterAll as = (origin.pass true content []).after '\n' := by
          rw [has, Place.afterAll_append, pass_unifyLineEnds]
          rfl
        have hall : before true content (origin.afterAll as) = content := by
          have hu : Unsplit true content [] := fun _ _ => by simp
          have hlt : ∀ x ∈ placed true origin content [], x.1 < origin.afterAll as := by
            intro x hx
            rw [hafter]
            exact (lt_of_mem_placed hu hx).trans (Place.lt_after _ _)
          rw [before, List.filter_eq_self.2 (by simpa using hlt), placed_snd]
        exact absurd hall (hq.2 (by rw [hafter]; rfl))
    · exact hwritten ⟨as, ms, hcs, rfl⟩

end

end CodeAtlas.Offside
