import CodeAtlas.Text.Composite
import CodeAtlas.Text.Variant

/-!
# Normal forms of identifiers

Two identifiers are the same if they differ only in variants of characters (ligatures, widths, fonts)
and in whether a base and its marks are one character or several. `normalForm` picks one spelling: it
replaces variants, takes composite characters apart, puts marks into the order of their classes and
composes again what can be composed.
-/

namespace CodeAtlas.Text

/-- The first syllable of the Korean script. -/
def syllableBase : Nat := 0xac00

/-- The number of Korean syllables. -/
def syllableCount : Nat := 11172

/-- The letters of a Korean syllable. -/
def syllableLetters (c : Char) : List Char :=
  let n := c.toNat - syllableBase
  let trailing := n % 28
  [Char.ofNat (0x1100 + n / 588), Char.ofNat (0x1161 + n % 588 / 28)] ++
    if trailing = 0 then [] else [Char.ofNat (0x11a7 + trailing)]

/-- Whether the character is a Korean syllable. -/
def isSyllable (c : Char) : Bool :=
  syllableBase ≤ c.toNat && c.toNat < syllableBase + syllableCount

/-- The Korean syllable that two letters, or a syllable and a trailing letter, make up. -/
def composeSyllable? (a b : Char) : Option Char :=
  let l := a.toNat - 0x1100
  let v := b.toNat - 0x1161
  let t := b.toNat - 0x11a7
  if 0x1100 ≤ a.toNat && l < 19 && 0x1161 ≤ b.toNat && v < 21 then
    some (Char.ofNat (syllableBase + (l * 21 + v) * 28))
  else if isSyllable a && (a.toNat - syllableBase) % 28 = 0 && 0x11a7 < b.toNat && t < 28 then
    some (Char.ofNat (a.toNat + t))
  else none

/-- The characters that a character stands for when all that can be is taken apart. A composite of a
composite is taken apart as often as `fuel` says. -/
def takeApart : (fuel : Nat) → Char → List Char
  | 0, c => [c]
  | fuel + 1, c =>
    if c.toNat < 128 then [c]
    else if isSyllable c then syllableLetters c
    else match composites.find? c with
      | some e => e.values.flatMap fun n => takeApart fuel (Char.ofNat n)
      | none => (variantOf? c).getD [c]

/-- The composite of two characters. -/
def compose? (a b : Char) : Option Char :=
  match composites.entries.find? fun e => e.values == [a.toNat, b.toNat] with
  | some e => some (Char.ofNat e.low)
  | none => composeSyllable? a b

/-- Puts a mark behind those of the marks in front of `cs` that have the same or a lower class. -/
def insertMark (c : Char) : List Char → List Char
  | [] => [c]
  | d :: cs =>
    if markClass d != 0 && markClass d < markClass c then d :: insertMark c cs else c :: d :: cs

/-- The characters with every run of marks in the order of their classes. -/
def orderMarks : List Char → List Char
  | [] => []
  | c :: cs => if markClass c = 0 then c :: orderMarks cs else insertMark c (orderMarks cs)

/-- Composes `base` with what follows. A mark reaches the base if it stands next to it (`kept` is
empty) or has a higher class than the last mark that was kept in between. -/
def composeFrom (base : Char) (kept : List Char) : List Char → List Char
  | [] => base :: kept.reverse
  | c :: cs =>
    let reaches :=
      match kept with
      | [] => true
      | k :: _ => markClass k < markClass c
    match if reaches then compose? base c else none with
    | some d => composeFrom d kept cs
    | none =>
      if markClass c = 0 then base :: kept.reverse ++ composeFrom c [] cs
      else composeFrom base (c :: kept) cs

/-- The normal form of an identifier. -/
def normalForm (name : String) : String :=
  let cs := name.toList
  if cs.all fun c => c.toNat < 128 then name
  else
    match orderMarks (cs.flatMap (takeApart 4)) with
    | [] => name
    | c :: cs => String.ofList (composeFrom c [] cs)

end CodeAtlas.Text
