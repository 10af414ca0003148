import CodeAtlas.Text.Hexadecimal
import CodeAtlas.Text.Split

/-!
# Maps on characters given by ranges

A `CodeMap` gives each of some characters a list of numbers. It is written as entries in hexadecimal
that are separated by blanks: `132=49+4a` is one for a single character, `300-314=e6` one for a range
of them.
-/

namespace CodeAtlas.Text

/-- What the characters of a closed range are mapped to. -/
structure CodeEntry where
  low : Nat
  high : Nat
  values : List Nat

/-- A map on characters, by the ranges on which it is defined. -/
structure CodeMap where
  entries : List CodeEntry

namespace CodeMap

/-- Reads an entry. -/
def readEntry? (cs : List Char) : Option CodeEntry := do
  let (range, values) ← cutFirst? '=' cs
  let (low, high) := (cutFirst? '-' range).getD (range, range)
  return ⟨← hexNumber? low, ← hexNumber? high, ← (splitOn '+' values).mapM hexNumber?⟩

/-- The map that lines of entries describe. -/
def ofLines (ls : List String) : CodeMap :=
  ⟨ls.flatMap fun l => (splitOn ' ' l.toList).filterMap readEntry?⟩

/-- The entry of a character. -/
def find? (m : CodeMap) (c : Char) : Option CodeEntry :=
  m.entries.find? fun e => e.low ≤ c.toNat && c.toNat ≤ e.high

end CodeMap
end CodeAtlas.Text
