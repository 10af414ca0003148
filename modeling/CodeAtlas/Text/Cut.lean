/-!
# Cutting a list by signed indices

`cut xs start stop` keeps the elements from `start` up to, not including, `stop`. A negative index
counts from the end, and an index beyond an end means that end, so a cut never fails.
-/

namespace CodeAtlas

/-- The place a signed index means in a list of `n` elements. -/
def placeOf (n : Nat) (i : Int) : Nat :=
  if i < 0 then (i + n).toNat else min i.toNat n

/-- The elements from `start` on. -/
def cutFrom {α : Type} (xs : List α) (start : Int) : List α := xs.drop (placeOf xs.length start)

/-- The elements before `stop`. -/
def cutTo {α : Type} (xs : List α) (stop : Int) : List α := xs.take (placeOf xs.length stop)

/-- The elements from `start` up to `stop`. -/
def cut {α : Type} (xs : List α) (start stop : Int) : List α :=
  (xs.take (placeOf xs.length stop)).drop (placeOf xs.length start)

theorem placeOf_le (n : Nat) (i : Int) : placeOf n i ≤ n := by
  unfold placeOf; split <;> omega

theorem placeOf_natCast {n k : Nat} (h : k ≤ n) : placeOf n k = k := by
  unfold placeOf; split <;> omega

end CodeAtlas
