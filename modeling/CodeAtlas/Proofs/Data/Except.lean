import Mathlib.Data.List.Forall2

/-!
# Computations that may fail

When a step, a sequence of steps or a walk through a list comes to a result, and what may be said
of its error if it comes to none.
-/

namespace Except

variable {ε α β : Type}

theorem map_eq_ok_iff {r : Except ε α} {f : α → β} {b : β} :
    r.map f = .ok b ↔ ∃ a, r = .ok a ∧ f a = b := by
  cases r <;> simp [Except.map]

theorem toOption_eq_some_iff {r : Except ε α} {a : α} : r.toOption = some a ↔ r = .ok a := by
  cases r <;> simp [Except.toOption]

theorem bind_eq_ok_iff {r : Except ε α} {f : α → Except ε β} {b : β} :
    r >>= f = .ok b ↔ ∃ a, r = .ok a ∧ f a = .ok b := by
  cases r <;> simp [bind, Except.bind]

theorem bind_eq_error_iff {r : Except ε α} {f : α → Except ε β} {e : ε} :
    r >>= f = .error e ↔ r = .error e ∨ ∃ a, r = .ok a ∧ f a = .error e := by
  cases r <;> simp [bind, Except.bind]

/-- A walk through a list that comes to a result has come to one at each element. -/
theorem mapM_eq_ok {f : α → Except ε β} {as : List α} {bs : List β} (h : as.mapM f = .ok bs) :
    (∀ b, b ∈ bs ↔ ∃ a ∈ as, f a = .ok b) ∧ ∀ a ∈ as, ∃ b, f a = .ok b := by
  induction as generalizing bs with
  | nil =>
    cases h
    simp
  | cons a as ih =>
    rw [List.mapM_cons] at h
    obtain ⟨b, hb, h⟩ := bind_eq_ok_iff.1 h
    obtain ⟨cs, hcs, h⟩ := bind_eq_ok_iff.1 h
    cases h
    obtain ⟨hmem, hall⟩ := ih hcs
    refine ⟨fun c => ?_, fun x hx => ?_⟩
    · rw [List.mem_cons, hmem]
      constructor
      · rintro (rfl | ⟨x, hx, hc⟩)
        · exact ⟨a, List.mem_cons_self, hb⟩
        · exact ⟨x, List.mem_cons_of_mem _ hx, hc⟩
      · rintro ⟨x, hx, hc⟩
        rcases List.mem_cons.1 hx with rfl | hx
        · exact .inl (Except.ok.inj (hc.symm.trans hb))
        · exact .inr ⟨x, hx, hc⟩
    · rcases List.mem_cons.1 hx with rfl | hx
      · exact ⟨b, hb⟩
      · exact hall x hx

/-- A walk through a list comes to a result if it comes to one at each element. -/
theorem mapM_ok_iff {f : α → Except ε β} {as : List α} :
    (∃ bs, as.mapM f = .ok bs) ↔ ∀ a ∈ as, ∃ b, f a = .ok b := by
  constructor
  · rintro ⟨bs, h⟩
    exact (mapM_eq_ok h).2
  · intro h
    induction as with
    | nil => exact ⟨[], rfl⟩
    | cons a as ih =>
      obtain ⟨b, hb⟩ := h a List.mem_cons_self
      obtain ⟨bs, hbs⟩ := ih fun x hx => h x (List.mem_cons_of_mem _ hx)
      refine ⟨b :: bs, ?_⟩
      rw [List.mapM_cons, hb, hbs]
      rfl

/-- A walk through a list comes to what it comes to at each element. -/
theorem mapM_eq_ok_iff {f : α → Except ε β} {as : List α} {bs : List β} :
    as.mapM f = .ok bs ↔ List.Forall₂ (fun a b => f a = .ok b) as bs := by
  induction as generalizing bs with
  | nil => cases bs <;> simp [pure, Except.pure]
  | cons a as ih =>
    rw [List.mapM_cons, bind_eq_ok_iff]
    constructor
    · rintro ⟨b, hb, h⟩
      obtain ⟨cs, hcs, h⟩ := bind_eq_ok_iff.1 h
      cases h
      exact .cons hb (ih.1 hcs)
    · rintro (_ | ⟨hb, h⟩)
      exact ⟨_, hb, bind_eq_ok_iff.2 ⟨_, ih.2 h, rfl⟩⟩

/-- A walk through a list fails as it does at the first element at which it fails. -/
theorem mapM_eq_error_iff {f : α → Except ε β} {as : List α} {e : ε} :
    as.mapM f = .error e ↔ ∃ before a after, as = before ++ a :: after ∧
      (∀ x ∈ before, ∃ b, f x = .ok b) ∧ f a = .error e := by
  induction as with
  | nil => simp [pure, Except.pure]
  | cons a as ih =>
    rw [List.mapM_cons]
    cases ha : f a with
    | error e' =>
      constructor
      · rintro ⟨⟩
        exact ⟨[], a, as, rfl, nofun, ha⟩
      · rintro ⟨before, x, after, h, hbefore, hx⟩
        cases before with
        | nil =>
          cases h
          exact congrArg _ (Except.error.inj (ha.symm.trans hx))
        | cons y before =>
          cases h
          obtain ⟨b, hb⟩ := hbefore _ List.mem_cons_self
          cases ha.symm.trans hb
    | ok b =>
      have hstep : (do let b ← Except.ok b; let bs ← as.mapM f; pure (b :: bs)) = .error e ↔
          as.mapM f = .error e := by
        cases as.mapM f <;> simp [bind, Except.bind, pure, Except.pure]
      rw [hstep, ih]
      constructor
      · rintro ⟨before, x, after, rfl, hbefore, hx⟩
        refine ⟨a :: before, x, after, rfl, fun y hy => ?_, hx⟩
        rcases List.mem_cons.1 hy with rfl | hy
        · exact ⟨b, ha⟩
        · exact hbefore y hy
      · rintro ⟨before, x, after, h, hbefore, hx⟩
        cases before with
        | nil =>
          cases h
          cases ha.symm.trans hx
        | cons y before =>
          cases h
          exact ⟨before, x, after, rfl, fun z hz => hbefore z (List.mem_cons_of_mem _ hz), hx⟩

/-- If the computation fails, then with an error of the given kind. -/
def FailsWith (r : Except ε α) (Q : ε → Prop) : Prop := ∀ e, r = .error e → Q e

namespace FailsWith

variable {Q : ε → Prop}

theorem ok (a : α) : (Except.ok a : Except ε α).FailsWith Q := fun _ h => by cases h

theorem error {e : ε} (h : Q e) : (Except.error e : Except ε α).FailsWith Q := by
  rintro _ ⟨⟩
  exact h

theorem map {r : Except ε α} (h : r.FailsWith Q) (f : α → β) : (r.map f).FailsWith Q := by
  cases r with
  | ok a => exact .ok _
  | error e => exact .error (h e rfl)

theorem bind {r : Except ε α} {f : α → Except ε β} (h : r.FailsWith Q)
    (hf : ∀ a, r = .ok a → (f a).FailsWith Q) : (r >>= f).FailsWith Q := by
  cases r with
  | ok a => exact hf a rfl
  | error e => exact .error (h e rfl)

theorem ite {c : Prop} [Decidable c] {r r' : Except ε α} (h : r.FailsWith Q)
    (h' : r'.FailsWith Q) : (if c then r else r').FailsWith Q := by
  split
  · exact h
  · exact h'

theorem mapM {f : α → Except ε β} {as : List α} (h : ∀ a ∈ as, (f a).FailsWith Q) :
    (as.mapM f).FailsWith Q := by
  induction as with
  | nil => exact .ok _
  | cons a as ih =>
    rw [List.mapM_cons]
    refine (h a List.mem_cons_self).bind fun b _ => ?_
    exact (ih fun x hx => h x (List.mem_cons_of_mem _ hx)).bind fun bs _ => .ok _

end FailsWith
end Except
