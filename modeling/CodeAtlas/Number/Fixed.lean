import CodeAtlas.Number.Binary

/-!
# Decimals with a fixed number of places

A number is rounded to the nearest decimal with the given number of places, a tie going to the even
neighbour, and written with all of its places.
-/

namespace CodeAtlas.Number.Fixed

/-- The quotient rounded to the nearest whole number, a tie to the even one. -/
def roundDiv (numerator denominator : Nat) : Nat :=
  let q := numerator / denominator
  let r := numerator % denominator
  if 2 * r < denominator || (2 * r = denominator && q % 2 = 0) then q else q + 1

/-- The text of a number with `places` places, of which there is at least one. -/
def text (places : Nat) (x : Float) : String :=
  if x.isNaN then "nan"
  else if x.isInf then if x < 0.0 then "-inf" else "inf"
  else
    let b := Binary.ofFloat x
    let ds := Nat.toDigits 10 (roundDiv (b.numerator * tenTo places) b.denominator)
    let filled := List.replicate (places + 1 - ds.length) '0' ++ ds
    let whole := filled.take (filled.length - places)
    let all := whole ++ '.' :: filled.drop (filled.length - places)
    String.ofList (if b.negative then '-' :: all else all)

end CodeAtlas.Number.Fixed
