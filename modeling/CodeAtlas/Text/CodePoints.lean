import CodeAtlas.Text.Hexadecimal

/-!
# Sets of characters given by ranges

A `CodePoints` is a list of ranges of code points. It is written as the ranges in hexadecimal,
separated by blanks: `41-5a` is a range and `5f` a single code point.
-/

namespace CodeAtlas.Text

/-- A set of code points, as a list of closed ranges. -/
structure CodePoints where
  ranges : List (Nat × Nat)

namespace CodePoints

/-- Reads ranges; `low` is the lower end of a range whose upper end `n` is being read. -/
def readRanges : List Char → Option Nat → Nat → List (Nat × Nat)
  | [], low, n => [(low.getD n, n)]
  | c :: cs, low, n =>
    match hexDigit? c with
    | some d => readRanges cs low (16 * n + d)
    | none => if c = '-' then readRanges cs (some n) 0 else (low.getD n, n) :: readRanges cs none 0

/-- The set that lines of hexadecimal ranges describe. -/
def ofLines (ls : List String) : CodePoints := ⟨ls.flatMap fun l => readRanges l.toList none 0⟩

/-- Whether the character lies in one of the ranges. -/
def contains (s : CodePoints) (c : Char) : Bool :=
  s.ranges.any fun r => r.1 ≤ c.toNat && c.toNat ≤ r.2

end CodePoints
end CodeAtlas.Text
