import Mathlib.Data.List.Induction
import Mathlib.Data.List.Nodup
import CodeAtlas.Proofs.Index.Sound

/-!
# The symbol around a position

Of the symbols around a position the one that starts last is found, and of several that start there
the first one (`Entry.innermost?_eq_some_iff`). If ranges are nested or apart and no two symbols
start at one position, it lies within every symbol around the position (`Entry.Innermost.within`).
-/

namespace CodeAtlas

namespace Position

variable {a b c : Position}

theorem not_lt : ¬ a < b ↔ b ≤ a := by
  rw [lt_def, le_def]
  omega

theorem lt_of_le_of_lt (h : a ≤ b) (h' : b < c) : a < c := by
  rw [le_def] at h
  rw [lt_def] at h' ⊢
  omega

theorem le_refl (a : Position) : a ≤ a := by
  rw [le_def]
  omega

theorem le_of_lt (h : a < b) : a ≤ b := by
  rw [lt_def] at h
  rw [le_def]
  omega

theorem le_antisymm (h : a ≤ b) (h' : b ≤ a) : a = b := by
  rw [le_def] at h h'
  have hline : a.line = b.line := by omega
  have hcharacter : a.character = b.character := by omega
  cases a
  cases b
  simp_all

theorem lt_of_le_of_ne (h : a ≤ b) (hne : a ≠ b) : a < b := by
  refine Decidable.byContradiction fun hlt => hne ?_
  exact le_antisymm h (not_lt.1 hlt)

theorem ne_of_lt (h : a < b) : a ≠ b := by
  rintro rfl
  exact not_lt.2 (le_refl a) h

end Position

namespace Range

variable {a b : Range}

/-- The position lies in the range, ends included. -/
def Around (r : Range) (p : Position) : Prop := r.start ≤ p ∧ p ≤ r.stop

instance (r : Range) (p : Position) : Decidable (r.Around p) :=
  inferInstanceAs (Decidable (r.start ≤ p ∧ p ≤ r.stop))

theorem contains_iff {r : Range} {p : Position} : r.contains p = true ↔ r.Around p := by
  simp [contains, Around]

/-- The range lies in the other one. -/
def Within (a b : Range) : Prop := b.start ≤ a.start ∧ a.stop ≤ b.stop

/-- One of the ranges lies in the other one, or they share no position. -/
def Nested (a b : Range) : Prop :=
  a.Within b ∨ b.Within a ∨ ∀ p, ¬ (a.Around p ∧ b.Around p)

theorem Within.refl (a : Range) : a.Within a := ⟨Position.le_refl _, Position.le_refl _⟩

end Range

namespace Entry

variable {e : Entry} {p : Position} {s x : Symbol}

/-- The symbol is around the position and starts last of those that are, and none before it in the
entry starts where it does. -/
structure Innermost (e : Entry) (p : Position) (s : Symbol) : Prop where
  around : s.range.Around p
  last : ∀ x ∈ e.symbols, x.range.Around p → x.range.start ≤ s.range.start
  first : ∃ before after, e.symbols = before ++ s :: after ∧
    ∀ x ∈ before, x.range.Around p → x.range.start ≠ s.range.start

/-! ## The fold -/

theorem inner_isSome (best : Option Symbol) (s : Symbol) : (inner best s).isSome = true := by
  fun_cases inner <;> rfl

theorem foldl_inner_eq_none_iff {xs : List Symbol} : xs.foldl inner none = none ↔ xs = [] := by
  cases xs using List.reverseRecOn with
  | nil => simp
  | append_singleton xs x =>
    have hsome := inner_isSome (xs.foldl inner none) x
    simp [List.foldl_append, Option.isSome_iff_ne_none.1 hsome]

/-- The symbol `s` starts later than those before it, and no earlier than those behind it. -/
def Leads (s : Symbol) (xs : List Symbol) : Prop :=
  ∃ before after, xs = before ++ s :: after ∧
    (∀ x ∈ before, x.range.start < s.range.start) ∧ ∀ x ∈ after, x.range.start ≤ s.range.start

/-- The symbol that leads is the last one, or it leads the others and the last one changes
nothing. -/
theorem leads_concat_iff {xs : List Symbol} :
    Leads s (xs ++ [x]) ↔ (x = s ∧ ∀ y ∈ xs, y.range.start < x.range.start) ∨
      (Leads s xs ∧ x.range.start ≤ s.range.start) := by
  constructor
  · rintro ⟨before, after, heq, hbefore, hafter⟩
    rcases List.eq_nil_or_concat after with rfl | ⟨after, y, rfl⟩
    · obtain ⟨rfl, rfl⟩ : xs = before ∧ x = s := by simpa using heq
      exact .inl ⟨rfl, hbefore⟩
    · obtain ⟨rfl, rfl⟩ : xs = before ++ s :: after ∧ x = y := by
        rw [List.concat_eq_append, ← List.cons_append, ← List.append_assoc] at heq
        simpa using List.append_inj' heq rfl
      refine .inr ⟨⟨before, after, rfl, hbefore, fun z hz => hafter z ?_⟩, hafter x ?_⟩
      · simp [hz]
      · simp
  · rintro (⟨rfl, hall⟩ | ⟨⟨before, after, rfl, hbefore, hafter⟩, hx⟩)
    · exact ⟨xs, [], rfl, hall, nofun⟩
    · refine ⟨before, after ++ [x], by simp, hbefore, fun y hy => ?_⟩
      rcases List.mem_append.1 hy with hy | hy
      · exact hafter y hy
      · exact List.mem_singleton.1 hy ▸ hx

theorem Leads.start_le {xs : List Symbol} (h : Leads s xs) (hx : x ∈ xs) :
    x.range.start ≤ s.range.start := by
  obtain ⟨before, after, rfl, hbefore, hafter⟩ := h
  rcases List.mem_append.1 hx with hx | hx
  · exact Position.le_of_lt (hbefore x hx)
  · rcases List.mem_cons.1 hx with rfl | hx
    · exact Position.le_refl _
    · exact hafter x hx

theorem Leads.mem {xs : List Symbol} (h : Leads s xs) : s ∈ xs := by
  obtain ⟨before, after, rfl, -, -⟩ := h
  simp

theorem foldl_inner_eq_some_iff {xs : List Symbol} : xs.foldl inner none = some s ↔ Leads s xs := by
  induction xs using List.reverseRecOn generalizing s with
  | nil => simp [Leads]
  | append_singleton xs x ih =>
    rw [leads_concat_iff, List.foldl_append, List.foldl_cons, List.foldl_nil, ← ih]
    cases hb : xs.foldl inner none with
    | none => simp [inner, foldl_inner_eq_none_iff.1 hb]
    | some b =>
      have hlead : Leads b xs := ih.1 hb
      rw [inner]
      split
      · next hlt =>
        constructor
        · rintro ⟨⟩
          exact .inl ⟨rfl, fun y hy => Position.lt_of_le_of_lt (hlead.start_le hy) hlt⟩
        · rintro (⟨rfl, -⟩ | ⟨hs, hx⟩)
          · rfl
          · cases hs
            exact absurd hlt (Position.not_lt.2 hx)
      · next hlt =>
        constructor
        · intro hs
          exact .inr ⟨hs, Option.some.inj hs ▸ Position.not_lt.1 hlt⟩
        · rintro (⟨rfl, hall⟩ | ⟨hs, -⟩)
          · exact absurd (hall b hlead.mem) hlt
          · exact hs

/-! ## The lookup -/

theorem innermost?_eq_none_iff :
    e.innermost? p = none ↔ ∀ x ∈ e.symbols, ¬ x.range.Around p := by
  rw [innermost?, foldl_inner_eq_none_iff, List.filter_eq_nil_iff]
  simp only [Range.contains_iff]

theorem mem_filter_iff {xs : List Symbol} :
    x ∈ xs.filter (fun x => x.range.contains p) ↔ x ∈ xs ∧ x.range.Around p := by
  rw [List.mem_filter, Range.contains_iff]

/-- A symbol leads those around a position if and only if it is the innermost one there. -/
theorem leads_filter_iff :
    Leads s (e.symbols.filter fun x => x.range.contains p) ↔ e.Innermost p s := by
  constructor
  · intro h
    have hs := mem_filter_iff.1 h.mem
    obtain ⟨before, after, heq, hbefore, hafter⟩ := id h
    obtain ⟨left, rest, hsplit, rfl, hrest⟩ := List.filter_eq_append_iff.1 heq
    obtain ⟨skipped, right, rfl, hskipped, -, rfl⟩ := List.filter_eq_cons_iff.1 hrest
    refine ⟨hs.2, fun x hx hp => h.start_le (mem_filter_iff.2 ⟨hx, hp⟩),
      left ++ skipped, right, by simp [hsplit], fun x hx hp => ?_⟩
    rcases List.mem_append.1 hx with hx | hx
    · exact Position.ne_of_lt (hbefore x (mem_filter_iff.2 ⟨hx, hp⟩))
    · exact absurd hp (mt Range.contains_iff.2 (hskipped x hx))
  · rintro ⟨haround, hlast, before, after, heq, hfirst⟩
    refine ⟨before.filter fun x => x.range.contains p, after.filter fun x => x.range.contains p,
      ?_, fun x hx => ?_, fun x hx => ?_⟩
    · simp [heq, Range.contains_iff.2 haround]
    · obtain ⟨hx, hp⟩ := mem_filter_iff.1 hx
      exact Position.lt_of_le_of_ne (hlast x (by simp [heq, hx]) hp) (hfirst x hx hp)
    · obtain ⟨hx, hp⟩ := mem_filter_iff.1 hx
      exact hlast x (by simp [heq, hx]) hp

theorem innermost?_eq_some_iff : e.innermost? p = some s ↔ e.Innermost p s := by
  rw [innermost?, foldl_inner_eq_some_iff, leads_filter_iff]

namespace Innermost

theorem mem (h : e.Innermost p s) : s ∈ e.symbols := by
  obtain ⟨before, after, heq, -⟩ := h.first
  simp [heq]

/-- Where slots ascend along the symbols, none that starts there too has a smaller one. -/
theorem slot_le (h : e.Innermost p s) (hslot : e.symbols.Pairwise fun a b => a.slot ≤ b.slot)
    (hx : x ∈ e.symbols) (hp : x.range.Around p)
    (hstart : x.range.start = s.range.start) : s.slot ≤ x.slot := by
  obtain ⟨before, after, heq, hfirst⟩ := h.first
  rw [heq, List.mem_append, List.mem_cons] at hx
  rw [heq, List.pairwise_append, List.pairwise_cons] at hslot
  rcases hx with hx | rfl | hx
  · exact absurd hstart (hfirst x hx hp)
  · exact Int.le_refl _
  · exact hslot.2.1.1 x hx

/-- Among nested ranges with starts of their own, the one that starts last lies in all others. -/
theorem within (h : e.Innermost p s)
    (hnested : ∀ a ∈ e.symbols, ∀ b ∈ e.symbols, a.range.Nested b.range)
    (hstarts : (e.symbols.map fun a => a.range.start).Nodup)
    (hx : x ∈ e.symbols) (hp : x.range.Around p) : s.range.Within x.range := by
  rcases hnested s h.mem x hx with hw | hw | hapart
  · exact hw
  · have hstart : s.range.start = x.range.start :=
      Position.le_antisymm hw.1 (h.last x hx hp)
    exact List.inj_on_of_nodup_map hstarts h.mem hx hstart ▸ Range.Within.refl _
  · exact absurd ⟨h.around, hp⟩ (hapart p)

end Innermost
end Entry

namespace Store

variable {st : Store} {path : String} {e : Entry}

/-- No symbol is found at a position if and only if none is around it. What is found is the first
of those that start last of the ones around it; so its slot is the least of theirs where slots
ascend, and it lies in all of them where ranges are nested or apart and start at different
places. -/
theorem symbolAt?_iff_innermost (he : st.get? path = some e) (p : Position) :
    (st.symbolAt? path p = none ↔ ∀ x ∈ e.symbols, ¬ x.range.Around p) ∧
      (∀ s, st.symbolAt? path p = some s ↔ e.Innermost p s) ∧
      ∀ s, st.symbolAt? path p = some s →
        ((e.symbols.Pairwise fun a b => a.slot ≤ b.slot) →
          ∀ x ∈ e.symbols, x.range.Around p → x.range.start = s.range.start → s.slot ≤ x.slot) ∧
        ((∀ a ∈ e.symbols, ∀ b ∈ e.symbols, a.range.Nested b.range) →
          (e.symbols.map fun a => a.range.start).Nodup →
            ∀ x ∈ e.symbols, x.range.Around p → s.range.Within x.range) := by
  have hfind : st.symbolAt? path p = e.innermost? p := by rw [symbolAt?, he, Option.bind_some]
  rw [hfind]
  refine ⟨Entry.innermost?_eq_none_iff, fun s => Entry.innermost?_eq_some_iff, fun s hs => ?_⟩
  have hin : e.Innermost p s := Entry.innermost?_eq_some_iff.1 hs
  constructor
  · intro hslot x hx hp hstart
    exact hin.slot_le hslot hx hp hstart
  · intro hnested hstarts x hx hp
    exact hin.within hnested hstarts hx hp

/-- A class, and a method whose range ends where that of the class does. -/
def nest : Entry :=
  { path := "/a.py", language := "python"
    symbols := [
      { name := "C", kind := .class_, file := "/a.py", range := .ofCoords 0 0 3 4, slot := 0 },
      { name := "m", kind := .method, file := "/a.py", range := .ofCoords 1 2 3 4, slot := 1 }] }

theorem symbolAt?_nest :
    ∃ (st : Store) (s : Symbol), st.get? "/a.py" = some nest ∧
      st.symbolAt? "/a.py" ⟨3, 4⟩ = some s ∧ s.name = "m" ∧
      (∀ x ∈ nest.symbols, x.range.Around ⟨3, 4⟩ → x.range.start = s.range.start →
        s.slot ≤ x.slot) ∧
      (∀ x ∈ nest.symbols, x.range.Around ⟨3, 4⟩ → s.range.Within x.range) ∧
      st.symbolAt? "/a.py" ⟨4, 0⟩ = none := by
  have he : (Store.empty.put nest).get? "/a.py" = some nest := by rfl
  obtain ⟨-, -, hfound⟩ := symbolAt?_iff_innermost he ⟨3, 4⟩
  obtain ⟨hnone, -⟩ := symbolAt?_iff_innermost he ⟨4, 0⟩
  obtain ⟨hslot, hwithin⟩ := hfound _ rfl
  refine ⟨_, _, he, rfl, rfl, hslot (by decide), hwithin ?_ (by decide), hnone.2 (by decide)⟩
  simp [nest, Range.Nested, Range.Within, Range.ofCoords, Position.le_def]

/-- Two functions at one place, with slots that descend. -/
def swapped : Entry :=
  { path := "/a.py", language := "python"
    symbols := [
      { name := "f", kind := .function, file := "/a.py", range := .ofCoords 0 0 1 0, slot := 1 },
      { name := "g", kind := .function, file := "/a.py", range := .ofCoords 0 0 1 0, slot := 0 }] }

/-- Where slots descend, the symbol that is found need not have the least one. -/
theorem exists_symbolAt?_slot_lt :
    ∃ (st : Store) (s : Symbol), st.get? "/a.py" = some swapped ∧
      st.symbolAt? "/a.py" ⟨0, 0⟩ = some s ∧
      ∃ x ∈ swapped.symbols, x.range.Around ⟨0, 0⟩ ∧ x.range.start = s.range.start ∧
        x.slot < s.slot := by
  refine ⟨Store.empty.put swapped, _, rfl, rfl, _, List.mem_cons_of_mem _ (.head _), ?_⟩
  decide

end Store
end CodeAtlas
