/-!
# Positions and ranges

A position is a line and a character in it, both counted from zero; positions are ordered by line,
then by character. A range contains both of its ends.
-/

namespace CodeAtlas

/-- A line and a character in it, from zero. -/
structure Position where
  line : Int
  character : Int
deriving DecidableEq, Repr, Inhabited

namespace Position

/-- Strictly before: on an earlier line, or earlier on the same one. -/
protected def Lt (a b : Position) : Prop :=
  a.line < b.line ∨ (a.line = b.line ∧ a.character < b.character)

/-- Before or equal. -/
protected def Le (a b : Position) : Prop :=
  a.line < b.line ∨ (a.line = b.line ∧ a.character ≤ b.character)

instance : LT Position := ⟨Position.Lt⟩
instance : LE Position := ⟨Position.Le⟩

theorem lt_def {a b : Position} :
    a < b ↔ a.line < b.line ∨ (a.line = b.line ∧ a.character < b.character) := Iff.rfl

theorem le_def {a b : Position} :
    a ≤ b ↔ a.line < b.line ∨ (a.line = b.line ∧ a.character ≤ b.character) := Iff.rfl

instance (a b : Position) : Decidable (a < b) := decidable_of_iff _ lt_def.symm
instance (a b : Position) : Decidable (a ≤ b) := decidable_of_iff _ le_def.symm

end Position

/-- A span of a file, from `start` to `stop`. -/
structure Range where
  start : Position
  stop : Position
deriving DecidableEq, Repr, Inhabited

namespace Range

/-- The range with the given coordinates. -/
def ofCoords (startLine startChar endLine endChar : Int) : Range :=
  ⟨⟨startLine, startChar⟩, ⟨endLine, endChar⟩⟩

/-- Whether the position lies in the range, ends included. -/
def contains (r : Range) (p : Position) : Bool := decide (r.start ≤ p) && decide (p ≤ r.stop)

end Range
end CodeAtlas
