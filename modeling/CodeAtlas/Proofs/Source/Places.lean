import Mathlib.Data.Prod.Lex
import CodeAtlas.Source.Span

/-!
# Places in a text

Places are ordered by line and column, and each character of a text stands at a place of its own
behind those of the characters before it. Where carriage returns end lines too, one before a line
feed has no width, so both stand at the same place.

`Text.between` is the text from one place to another. It is read off the places of the characters, so
that it does not depend on how a text breaks into lines for any other purpose.
-/

namespace CodeAtlas

namespace Place

instance : LinearOrder Place :=
  LinearOrder.lift' (fun p => toLex (p.line, p.column)) fun p q h => by
    obtain ⟨hl, hc⟩ := Prod.mk.inj (toLex.injective h)
    cases p
    cases q
    simp_all

theorem lt_def {p q : Place} :
    p < q ↔ p.line < q.line ∨ (p.line = q.line ∧ p.column < q.column) := Prod.Lex.lt_iff

theorem le_def {p q : Place} :
    p ≤ q ↔ p.line < q.line ∨ (p.line = q.line ∧ p.column ≤ q.column) := Prod.Lex.le_iff

/-! ## Behind characters -/

theorem lt_after (p : Place) (c : Char) : p < p.after c := by
  rw [after, lt_def]
  split
  · exact .inl (Nat.lt_succ_self _)
  · exact .inr ⟨rfl, Nat.lt_add_of_pos_right c.utf8Size_pos⟩

theorem afterAll_append (p : Place) (as bs : List Char) :
    p.afterAll (as ++ bs) = (p.afterAll as).afterAll bs := List.foldl_append

theorem le_afterAll (p : Place) (cs : List Char) : p ≤ p.afterAll cs := by
  induction cs generalizing p with
  | nil => exact le_rfl
  | cons c cs ih => exact (p.lt_after c).le.trans (ih _)

theorem lt_afterAll (p : Place) {cs : List Char} (h : cs ≠ []) : p < p.afterAll cs := by
  cases cs with
  | nil => exact absurd rfl h
  | cons c cs => exact (p.lt_after c).trans_le (le_afterAll _ cs)

theorem afterAll_le_of_prefix (p : Place) {as bs : List Char} (h : as <+: bs) :
    p.afterAll as ≤ p.afterAll bs := by
  obtain ⟨cs, rfl⟩ := h
  rw [afterAll_append]
  exact le_afterAll _ cs

/-- The place behind a character that has `rest` behind it. If `cr` holds, carriage returns end lines
too, and one before a line feed has no width. -/
def next (cr : Bool) (p : Place) (c : Char) (rest : List Char) : Place :=
  if cr && c = '\r' then (if rest.head? = some '\n' then p else ⟨p.line + 1, 0⟩) else p.after c

/-- The place behind a run of characters that has `rest` behind it. -/
def pass (cr : Bool) (p : Place) : List Char → List Char → Place
  | [], _ => p
  | c :: cs, rest => pass cr (p.next cr c (cs ++ rest)) cs rest

variable {cr : Bool}

theorem pass_append (p : Place) (as bs rest : List Char) :
    p.pass cr (as ++ bs) rest = (p.pass cr as (bs ++ rest)).pass cr bs rest := by
  induction as generalizing p with
  | nil => rfl
  | cons a as ih =>
    rw [List.cons_append, pass, ih, pass, List.append_assoc]

theorem pass_false (p : Place) (cs rest : List Char) : p.pass false cs rest = p.afterAll cs := by
  induction cs generalizing p with
  | nil => rfl
  | cons c cs ih =>
    rw [pass, ih]
    rfl

theorem le_next (p : Place) (c : Char) (rest : List Char) : p ≤ p.next cr c rest := by
  simp only [next]
  split
  · split
    · exact le_rfl
    · exact (lt_def.2 (.inl (Nat.lt_succ_self _))).le
  · exact (p.lt_after c).le

end Place

namespace Text

/-- A cut of a text that does not part a carriage return from the line feed that it belongs to. -/
def Unsplit (cr : Bool) (as bs : List Char) : Prop :=
  cr = true → as.getLast? = some '\r' → bs.head? ≠ some '\n'

variable {cr : Bool}

theorem Unsplit.of_append (as : List Char) {bs rest : List Char}
    (h : Unsplit cr (as ++ bs) rest) : Unsplit cr bs rest := by
  intro hcr hlast
  exact h hcr (by rw [List.getLast?_append, hlast]; rfl)

theorem Unsplit.cons {as bs : List Char} (h : Unsplit cr as bs) {c : Char}
    (hc : as = [] → c = '\r' → bs.head? ≠ some '\n') : Unsplit cr (c :: as) bs := by
  intro hcr hlast
  cases as with
  | nil => exact hc rfl (by simpa using hlast)
  | cons a as => exact h hcr (by simpa using hlast)

theorem unsplit_false (as bs : List Char) : Unsplit false as bs := fun h => nomatch h

theorem unsplit_nil (bs : List Char) : Unsplit cr [] bs := fun _ h => nomatch h

/-- Some characters take one further, unless they are the front of a line end that is parted. -/
theorem lt_pass (p : Place) {cs rest : List Char} (h : Unsplit cr cs rest) (hc : cs ≠ []) :
    p < p.pass cr cs rest := by
  induction cs generalizing p with
  | nil => exact absurd rfl hc
  | cons c cs ih =>
    cases cs with
    | cons d ds => exact (p.le_next c _).trans_lt (ih _ (Unsplit.of_append [c] h) (by simp))
    | nil =>
      simp only [Place.pass, Place.next, List.nil_append]
      split
      · next hcr =>
        simp only [Bool.and_eq_true, decide_eq_true_eq] at hcr
        rw [if_neg (h hcr.1 (by simp [hcr.2]))]
        exact Place.lt_def.2 (.inl (Nat.lt_succ_self _))
      · exact p.lt_after c

/-- The characters of a text that has `rest` behind it, each with its place. -/
def placed (cr : Bool) (p : Place) : List Char → List Char → List (Place × Char)
  | [], _ => []
  | c :: cs, rest => (p, c) :: placed cr (p.next cr c (cs ++ rest)) cs rest

theorem placed_append (cr : Bool) (p : Place) (as bs rest : List Char) :
    placed cr p (as ++ bs) rest =
      placed cr p as (bs ++ rest) ++ placed cr (p.pass cr as (bs ++ rest)) bs rest := by
  induction as generalizing p with
  | nil => rfl
  | cons a as ih => rw [List.cons_append, placed, ih, placed, List.append_assoc, Place.pass]; rfl

theorem placed_snd (p : Place) (cs rest : List Char) :
    (placed cr p cs rest).map Prod.snd = cs := by
  induction cs generalizing p with
  | nil => rfl
  | cons c cs ih => rw [placed, List.map_cons, ih]

theorem le_of_mem_placed {p : Place} {cs rest : List Char} {x : Place × Char}
    (hx : x ∈ placed cr p cs rest) : p ≤ x.1 := by
  induction cs generalizing p with
  | nil => cases hx
  | cons c cs ih =>
    rcases List.mem_cons.1 hx with rfl | hx
    · exact le_rfl
    · exact (p.le_next c _).trans (ih hx)

theorem lt_of_mem_placed {p : Place} {cs rest : List Char} (h : Unsplit cr cs rest)
    {x : Place × Char} (hx : x ∈ placed cr p cs rest) : x.1 < p.pass cr cs rest := by
  induction cs generalizing p with
  | nil => cases hx
  | cons c cs ih =>
    rcases List.mem_cons.1 hx with rfl | hx
    · exact lt_pass p h (by simp)
    · exact ih (Unsplit.of_append [c] h) hx

/-- The place at which a text starts. -/
def origin : Place := ⟨1, 0⟩

/-- The text before a place. -/
def before (cr : Bool) (content : List Char) (q : Place) : List Char :=
  ((placed cr origin content []).filter fun x => x.1 < q).map Prod.snd

/-- The text from the start of a span to its stop. -/
def between (cr : Bool) (content : List Char) (s : Span) : List Char :=
  ((placed cr origin content []).filter fun x => s.start ≤ x.1 ∧ x.1 < s.stop).map Prod.snd

/-- What stands in front of a cut is what stands before the place of the cut. -/
theorem before_pass {as bs : List Char} (h : Unsplit cr as bs) :
    before cr (as ++ bs) (origin.pass cr as bs) = as := by
  have ha : (placed cr origin as bs).filter (fun x => x.1 < origin.pass cr as bs) =
      placed cr origin as bs :=
    List.filter_eq_self.2 fun x hx => by simpa using lt_of_mem_placed h hx
  have hb : (placed cr (origin.pass cr as bs) bs []).filter
      (fun x => x.1 < origin.pass cr as bs) = [] :=
    List.filter_eq_nil_iff.2 fun x hx => by simpa using le_of_mem_placed hx
  have happ := placed_append cr origin as bs []
  rw [List.append_nil] at happ
  rw [before, happ, List.filter_append, ha, hb, List.append_nil, placed_snd]

/-- What stands between two cuts is what stands between their places. -/
theorem between_pass {as ms bs : List Char} (ha : Unsplit cr as (ms ++ bs))
    (hm : Unsplit cr (as ++ ms) bs) :
    between cr (as ++ ms ++ bs) ⟨origin.pass cr as (ms ++ bs), origin.pass cr (as ++ ms) bs⟩ =
      ms := by
  let p := origin.pass cr as (ms ++ bs)
  have hstop : origin.pass cr (as ++ ms) bs = p.pass cr ms bs := Place.pass_append origin as ms bs
  have hmid : Unsplit cr ms bs := hm.of_append as
  have has : (placed cr origin as (ms ++ bs)).filter (fun x => p ≤ x.1 ∧ x.1 < p.pass cr ms bs) =
      [] :=
    List.filter_eq_nil_iff.2 fun x hx => by simp [p, (lt_of_mem_placed ha hx).not_ge]
  have hms : (placed cr p ms bs).filter (fun x => p ≤ x.1 ∧ x.1 < p.pass cr ms bs) =
      placed cr p ms bs :=
    List.filter_eq_self.2 fun x hx => by simp [le_of_mem_placed hx, lt_of_mem_placed hmid hx]
  have hbs : (placed cr (p.pass cr ms bs) bs []).filter
      (fun x => p ≤ x.1 ∧ x.1 < p.pass cr ms bs) = [] :=
    List.filter_eq_nil_iff.2 fun x hx => by simp [(le_of_mem_placed hx).not_gt]
  have hfront := placed_append cr origin as (ms ++ bs) []
  have hback := placed_append cr p ms bs []
  rw [List.append_nil] at hfront hback
  rw [between, List.append_assoc, hfront, hback, hstop, List.filter_append, List.filter_append, has,
    hms, hbs, List.nil_append, List.append_nil, placed_snd]

/-! ## Places of a text -/

/-- A place of a text is that of a cut. -/
def IsPlace (cr : Bool) (content : List Char) (q : Place) : Prop :=
  ∃ as bs, content = as ++ bs ∧ Unsplit cr as bs ∧ q = origin.pass cr as bs

/-- Two places of a text, one not behind the other, cut it into three. -/
theorem IsPlace.exists_cuts {content : List Char} {p q : Place} (hp : IsPlace cr content p)
    (hq : IsPlace cr content q) (hpq : p ≤ q) :
    ∃ as ms bs, content = as ++ ms ++ bs ∧ Unsplit cr as (ms ++ bs) ∧ Unsplit cr (as ++ ms) bs ∧
      p = origin.pass cr as (ms ++ bs) ∧ q = origin.pass cr (as ++ ms) bs := by
  obtain ⟨as, bs, rfl, ha, rfl⟩ := hp
  obtain ⟨cs, ds, heq, hc, rfl⟩ := hq
  rcases List.append_eq_append_iff.1 heq with ⟨ms, rfl, rfl⟩ | ⟨ms, rfl, rfl⟩
  · exact ⟨as, ms, ds, by simp, ha, hc, rfl, rfl⟩
  · cases ms with
    | nil => exact ⟨cs, [], bs, by simp, by simpa using ha, by simpa using hc, by simp, by simp⟩
    | cons m ms =>
      -- The first cut would be behind the second one.
      rw [Place.pass_append] at hpq
      exact absurd hpq (lt_pass _ (ha.of_append cs) (by simp)).not_ge

end Text
end CodeAtlas
