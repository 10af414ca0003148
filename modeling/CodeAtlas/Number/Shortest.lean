import CodeAtlas.Number.Binary

/-!
# The shortest decimal that reads back

Of the decimals that read back as a number, those with the fewest digits count, and of these the
one nearest to the number. `text` writes it in positions if its first digit stands between 10⁻⁴ and
10¹⁵, and with an exponent otherwise.
-/

namespace CodeAtlas.Number

/-- A decimal: `digits * 10 ^ exponent`. -/
structure Decimal where
  digits : Nat
  exponent : Int
deriving DecidableEq, Repr

namespace Shortest

/-- The place of the first digit of a positive fraction: the greatest `e` with `10 ^ e` at most the
fraction. -/
def leadingPlace (numerator denominator : Nat) : Int :=
  if denominator ≤ numerator then (Nat.toDigits 10 (numerator / denominator)).length - 1
  else
    match (List.range 400).find? fun j => denominator ≤ numerator * tenTo j with
    | some j => -j
    | none => -400

/-- The numbers that round to a positive number, with the ends written as fractions over one
denominator. -/
structure Interval where
  low : Nat
  value : Nat
  high : Nat
  denominator : Nat
  /-- Whether the ends belong to it. -/
  closed : Bool

/-- The numbers that round to the given one. -/
def Interval.around (b : Binary) : Interval :=
  let unit := twoTo b.exponent.toNat
  { low := (4 * b.mantissa - b.quartersBelow) * unit
    value := 4 * b.mantissa * unit
    high := (4 * b.mantissa + 2) * unit
    denominator := 4 * b.denominator
    closed := b.mantissa % 2 = 0 }

/-- A decimal as a fraction over the same denominator, both sides scaled by the second part. -/
def scaled (d : Decimal) (denominator : Nat) : Nat × Nat :=
  (d.digits * tenTo d.exponent.toNat * denominator, tenTo (-d.exponent).toNat)

/-- Whether a decimal reads back. -/
def Interval.contains (i : Interval) (d : Decimal) : Bool :=
  let (n, s) := scaled d i.denominator
  if i.closed then i.low * s ≤ n && n ≤ i.high * s else i.low * s < n && n < i.high * s

/-- The decimals with a last digit at a place that lie next to the number, the nearer one first and
of two equally near ones the even one. -/
def neighbours (i : Interval) (place : Int) : List Decimal :=
  let up := tenTo place.toNat * i.denominator
  let value := i.value * tenTo (-place).toNat
  let below := value / up
  let rest := value % up
  let lower : Decimal := ⟨below, place⟩
  let upper : Decimal := ⟨below + 1, place⟩
  if 2 * rest < up || (2 * rest = up && below % 2 = 0) then [lower, upper] else [upper, lower]

/-- The shortest decimal that reads back as a positive number. -/
def ofPositive (b : Binary) : Decimal :=
  let i := Interval.around b
  let top := leadingPlace b.numerator b.denominator
  let found := (List.range 17).findSome? fun k : Nat => (neighbours i (top - k)).find? i.contains
  found.getD ⟨b.numerator / b.denominator, 0⟩

/-- The digits without zeros at the end, and how many of those there were. -/
def trimZeros (ds : List Char) : List Char × Nat :=
  let kept := (ds.reverse.dropWhile (· = '0')).reverse
  (kept, ds.length - kept.length)

/-- A decimal in positions: the point stands behind the first `point` digits. -/
def positional (ds : List Char) (point : Int) : List Char :=
  if point ≤ 0 then '0' :: '.' :: List.replicate (-point).toNat '0' ++ ds
  else
    let n := point.toNat
    let whole := ds.take n ++ List.replicate (n - ds.length) '0'
    let rest := ds.drop n
    whole ++ '.' :: if rest = [] then ['0'] else rest

/-- A decimal with an exponent, of at least two digits. -/
def withExponent (ds : List Char) (exponent : Int) : List Char :=
  let mantissa := ds.take 1 ++ if ds.length = 1 then [] else '.' :: ds.drop 1
  let es := Nat.toDigits 10 exponent.natAbs
  mantissa ++ 'e' :: (if exponent < 0 then '-' else '+') ::
    List.replicate (2 - es.length) '0' ++ es

/-- The text of a positive number. -/
def positiveText (b : Binary) : List Char :=
  let d := ofPositive b
  let ds := Nat.toDigits 10 d.digits
  let point := ds.length + d.exponent
  let (kept, _) := trimZeros ds
  if -4 < point && point ≤ 16 then positional kept point else withExponent kept (point - 1)

/-- The text of a number. -/
def text (x : Float) : String :=
  if x.isNaN then "nan"
  else if x.isInf then if x < 0.0 then "-inf" else "inf"
  else
    let b := Binary.ofFloat x
    let digits := if b.mantissa = 0 then ['0', '.', '0'] else positiveText b
    String.ofList (if b.negative then '-' :: digits else digits)

end Shortest
end CodeAtlas.Number
