/-!
# Patterns of tokens

A pattern describes a set of texts. `Pattern.derive c p` describes what is left of the texts of `p`
that begin with `c`, and `Pattern.nullable p` says whether the empty text is one of them; reading a
text character by character needs no more.
-/

namespace CodeAtlas.Grammar

/-- A set of characters: those in one of the ranges, or all others. -/
structure CharSet where
  ranges : List (Char × Char)
  inverted : Bool
deriving DecidableEq, Repr

namespace CharSet

/-- Whether a character is in the set. -/
def contains (s : CharSet) (c : Char) : Bool :=
  (s.ranges.any fun r => r.1 ≤ c && c ≤ r.2) != s.inverted

/-- The characters of some ranges. -/
def ofRanges (rs : List (Char × Char)) : CharSet := ⟨rs, false⟩

/-- The characters of a text. -/
def ofText (s : String) : CharSet := ⟨s.toList.map fun c => (c, c), false⟩

/-- The characters of either set; meant for sets that are given by what is in them. -/
def union (a b : CharSet) : CharSet := ⟨a.ranges ++ b.ranges, a.inverted⟩

/-- The characters that are not in the set. -/
def complement (s : CharSet) : CharSet := ⟨s.ranges, !s.inverted⟩

theorem contains_complement (s : CharSet) (c : Char) :
    s.complement.contains c = !s.contains c := by
  simp only [contains, complement]
  cases s.ranges.any fun r => decide (r.1 ≤ c) && decide (c ≤ r.2) <;> cases s.inverted <;> rfl

end CharSet

/-- A set of texts. -/
inductive Pattern
  /-- No text. -/
  | never
  /-- One text. -/
  | text (cs : List Char)
  /-- A single character of a set. -/
  | one (s : CharSet)
  | seq (a b : Pattern)
  | either (a b : Pattern)
  /-- Any number of texts after each other, none included. -/
  | many (a : Pattern)
deriving DecidableEq, Repr, Inhabited

namespace Pattern

/-- Whether the empty text is in the pattern. -/
def nullable : Pattern → Bool
  | never => false
  | text cs => cs.isEmpty
  | one _ => false
  | seq a b => a.nullable && b.nullable
  | either a b => a.nullable || b.nullable
  | many _ => true

/-- A sequence, in a shorter form if one of its parts is trivial. -/
def after (a b : Pattern) : Pattern :=
  match a with
  | never => never
  | text [] => b
  | _ => seq a b

/-- An alternative, in a shorter form if one of its parts is trivial. -/
def or (a b : Pattern) : Pattern :=
  match a, b with
  | never, b => b
  | a, never => a
  | a, b => either a b

/-- What is left of the texts that begin with a character. -/
def derive (c : Char) : Pattern → Pattern
  | never => never
  | text [] => never
  | text (d :: ds) => if c = d then text ds else never
  | one s => if s.contains c then text [] else never
  | seq a b =>
    if a.nullable then or (after (a.derive c) b) (b.derive c) else after (a.derive c) b
  | either a b => or (a.derive c) (b.derive c)
  | many a => after (a.derive c) (many a)

/-- Whether no text is in the pattern; patterns that derivatives make show it by their form. -/
def isNever : Pattern → Bool
  | never => true
  | _ => false

/-- Whether a text is in the pattern. -/
def accepts (p : Pattern) (cs : List Char) : Bool := (cs.foldl (fun p c => p.derive c) p).nullable

/-- Any number of texts of a pattern, but at least one. -/
def manyOne (a : Pattern) : Pattern := seq a (many a)

/-- A text of the pattern or the empty text. -/
def optional (a : Pattern) : Pattern := either a (text [])

/-- Texts of the patterns, one after the other. -/
def concat (ps : List Pattern) : Pattern := ps.foldr seq (text [])

/-- A text of one of the patterns. -/
def anyOf (ps : List Pattern) : Pattern := ps.foldr either never

/-- From `low` to `low + more` texts of a pattern. -/
def times (a : Pattern) (low more : Nat) : Pattern :=
  seq (concat (List.replicate low a))
    ((List.range more).foldl (fun p _ => optional (seq a p)) (text []))

/-- The text of a string. -/
def ofString (s : String) : Pattern := text s.toList

end Pattern
end CodeAtlas.Grammar
