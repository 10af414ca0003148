import CodeAtlas.Data.Value
import CodeAtlas.Error

/-!
# Models

A model turns texts into vectors. It is asked for one text at a time, and may remember what it was
asked; what it answers with need not be a vector.
-/

namespace CodeAtlas

/-- What comes back when a model is asked for the vector of a text. -/
inductive Reply
  | answered (value : Value)
  /-- A value of a type of the model's own: the numbers that it gives when it is gone through, or its
  words for why it gives none; without words it has no numbers. -/
  | object (numbers : Except (Option String) (List Float))
  | failed (cause : Error)
  /-- Nothing comes back in time. -/
  | late

/-- A model that answers with vectors of a dimension, and has states in `σ`. -/
structure Model (σ : Type) where
  dimension : Int
  ask : String → σ → Reply × σ

end CodeAtlas
