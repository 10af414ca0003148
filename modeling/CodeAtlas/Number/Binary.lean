/-!
# Exact values of floating-point numbers

A finite floating-point number is a whole number times a power of two. `Binary` says which, so that
its text can be found in exact arithmetic.
-/

namespace CodeAtlas.Number

/-- The power of two with this exponent. -/
def twoTo (n : Nat) : Nat := Nat.pow 2 n

/-- The power of ten with this exponent. -/
def tenTo (n : Nat) : Nat := Nat.pow 10 n

/-- The number `mantissa * 2 ^ exponent`, negated if the sign says so. -/
structure Binary where
  negative : Bool
  mantissa : Nat
  exponent : Int
deriving DecidableEq, Repr

namespace Binary

/-- The exact value of a finite number. -/
def ofFloat (x : Float) : Binary :=
  let n : Nat := x.toBits.toNat
  let field : Nat := n / twoTo 52 % twoTo 11
  let fraction : Nat := n % twoTo 52
  { negative := n / twoTo 63 = 1
    mantissa := if field = 0 then fraction else fraction + twoTo 52
    exponent := ((if field = 0 then 1 else field : Nat) : Int) - 1075 }

/-- The mantissa times the positive power of two in the value. -/
def numerator (b : Binary) : Nat := b.mantissa * twoTo b.exponent.toNat

/-- The power of two that the numerator is divided by. -/
def denominator (b : Binary) : Nat := twoTo (-b.exponent).toNat

/-- How far the lower end of the numbers that round to this one is below it, in quarters of the last
place: below a power of two, numbers lie twice as close. -/
def quartersBelow (b : Binary) : Nat :=
  if b.mantissa = twoTo 52 ∧ -1074 < b.exponent then 1 else 2

end Binary
end CodeAtlas.Number
