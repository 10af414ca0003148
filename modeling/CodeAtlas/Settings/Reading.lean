import CodeAtlas.Data.Value
import CodeAtlas.Error
import CodeAtlas.Number.Binary
import CodeAtlas.Number.Numeral

/-!
# Reading settings from values

Settings are read from values of a data format with some tolerance: numbers may be given as texts or
truth values, truth values as words or as one and zero. `Checked` collects what is wrong with all
parts of a value, each complaint with the place of the part.
-/

namespace CodeAtlas

/-- A value, or all complaints about what it was to be read from. -/
inductive Checked (α : Type) where
  | ok (value : α)
  | wrong (complaints : List Complaint)

namespace Checked

/-- Applies a function; the complaints of both sides are kept, in order. -/
def apply {α β : Type} : Checked (α → β) → Checked α → Checked β
  | ok f, ok a => ok (f a)
  | ok _, wrong cs => wrong cs
  | wrong cs, ok _ => wrong cs
  | wrong cs, wrong ds => wrong (cs ++ ds)

instance : Applicative Checked where
  pure := ok
  seq f a := apply f (a ())

/-- The complaints in a part, seen from the whole. -/
def inside {α : Type} (step : Step) : Checked α → Checked α
  | ok a => ok a
  | wrong cs => wrong (cs.map fun c => { c with place := step :: c.place })

/-- A complaint about the whole. -/
def fault {α : Type} (f : Fault) : Checked α := wrong [⟨[], f⟩]

/-- All values of a list, or all complaints. -/
def all {α : Type} : List (Checked α) → Checked (List α)
  | [] => ok []
  | c :: cs => (List.cons <$> c) <*> all cs

end Checked

namespace Settings

/-- Reads a field of a mapping, unless it is absent. -/
def field {α : Type} (v : Value) (name : String) (fallback : α) (read : Value → Checked α) :
    Checked α :=
  match v.field? name with
  | none => .ok fallback
  | some x => (read x).inside (.field name)

/-- Reads a mapping. -/
def mapping {α : Type} (read : Value → Checked α) (v : Value) : Checked α :=
  match v with
  | .mapping _ => read v
  | _ => .fault .notMapping

/-- The text that bytes are, if they are one. -/
def textOfBytes? (bs : List UInt8) : Option String := String.fromUTF8? ⟨bs.toArray⟩

/-- Reads a text, which may be given by its bytes. -/
def text : Value → Checked String
  | .text s => .ok s
  | .bytes bs => match textOfBytes? bs with
    | some s => .ok s
    | none => .fault .brokenText
  | _ => .fault .notText

/-- Reads a text, or nothing. -/
def textOrNull : Value → Checked (Option String)
  | .null => .ok none
  | v => some <$> text v

/-- Reads a list of texts, which may be given as a set. -/
def texts : Value → Checked (List String)
  | .list items => allTexts items
  | .set items => allTexts items
  | _ => .fault .notList
where
  /-- Reads texts one by one. -/
  allTexts (items : List Value) : Checked (List String) :=
    .all (items.zipIdx.map fun (v, i) => (text v).inside (.element i))

/-- Removes underscores, unless one stands at an end or beside another. -/
def joined? (cs : List Char) : Option (List Char) :=
  let loose := cs.head? = some '_' || cs.getLast? = some '_' ||
    (cs.zip (cs.drop 1)).any (· = ('_', '_'))
  if loose then none else some (cs.filter (· ≠ '_'))

/-- The words for truth and falsehood. -/
def truthWords : List (String × Bool) :=
  [("0", false), ("off", false), ("f", false), ("false", false), ("n", false), ("no", false),
   ("1", true), ("on", true), ("t", true), ("true", true), ("y", true), ("yes", true)]

/-- The whole number that a real number is, in the range of 64-bit numbers. -/
def wholeOf (x : Float) : Except Fault Int :=
  if x.isNaN || x.isInf then .error .infiniteInt
  else
    let b := Number.Binary.ofFloat x
    if b.numerator % b.denominator ≠ 0 then .error .fractionalInt
    else
      let n := b.numerator / b.denominator
      if Number.twoTo 63 ≤ n then .error .oversizedInt else .ok (if b.negative then -n else n)

/-- Reads something from a text, which may be given by its bytes; `f` says that they are none. -/
def fromBytes {α : Type} (f : Fault) (read : String → Checked α) (bs : List UInt8) : Checked α :=
  match textOfBytes? bs with
  | some s => read s
  | none => .fault f

/-- Reads a truth value from a word. -/
def boolOfText (s : String) : Checked Bool :=
  match truthWords.lookup (s.map Char.toLower) with
  | some b => .ok b
  | none => .fault .unreadableBool

/-- Reads a truth value. -/
def bool : Value → Checked Bool
  | .bool b => .ok b
  | .text s => boolOfText s
  | .bytes bs => fromBytes .unreadableBool boolOfText bs
  | .int i => ofInt i
  | .real x => match wholeOf x with
    | .ok i => ofInt i
    | .error _ => .fault .notBool
  | _ => .fault .notBool
where
  /-- One and zero stand for truth and falsehood. -/
  ofInt (i : Int) : Checked Bool :=
    if i = 0 then .ok false
    else if i = 1 then .ok true
    else if -(Number.twoTo 63 : Int) ≤ i ∧ i < Number.twoTo 63 then .fault .unreadableBool
    else .fault .notBool

/-- Drops a plus sign, behind which there must be no minus. -/
def dropPlus? : List Char → Option (List Char)
  | '+' :: '-' :: _ => none
  | '+' :: cs => some cs
  | cs => some cs

/-- Drops what is left of a run of zeros and underscores at the front: all but the last of them at
the end or in front of a point, and all of them in front of another digit. -/
def dropZerosFrom (last : Char) : List Char → Option (List Char)
  | [] => some [last]
  | c :: cs =>
    if c = '0' || c = '_' then dropZerosFrom c cs
    else if c.isDigit then some (c :: cs)
    else if c = '.' then some (last :: c :: cs)
    else none

/-- Drops zeros at the front. A text without one starts with another digit or a minus. -/
def dropZeros? : List Char → Option (List Char)
  | [] => none
  | c :: cs =>
    if c = '0' then dropZerosFrom c cs
    else if c.isDigit || c = '-' then some (c :: cs)
    else none

/-- Drops a fraction of zeros. -/
def dropFraction (cs : List Char) : List Char :=
  let whole := cs.takeWhile (· ≠ '.')
  let fraction := cs.drop (whole.length + 1)
  if fraction ≠ [] && fraction.all (· = '0') then whole else cs

/-- Reads a whole number of digits that does not start with a zero unless it is one. -/
def intOfDigits (negative : Bool) (cs : List Char) : Checked Int :=
  let run := cs.takeWhile Char.isDigit
  let length := run.length + (if negative then 1 else 0)
  if run = [] || (run.head? = some '0' && run ≠ ['0']) then .fault .unreadableInt
  else if Number.digitLimit < length then .fault .oversizedInt
  else if run ≠ cs then .fault .unreadableInt
  else .ok (if negative then -(Number.ofDigits run : Int) else Number.ofDigits run)

/-- Reads a whole number from a text: blanks at its ends, a sign, zeros in front, underscores between
digits and a fraction of zeros are allowed. -/
def intOfText (s : String) : Checked Int :=
  let trimmed := Text.trimWhile Text.isUnicodeSpace s.toList
  match (dropPlus? trimmed).bind dropZeros? with
  | none => .fault .unreadableInt
  | some cs =>
    let cs := dropFraction cs
    match (joined? cs).getD cs with
    | '-' :: ds => intOfDigits true ds
    | ds => intOfDigits false ds

/-- Reads a whole number. -/
def int : Value → Checked Int
  | .int i => .ok i
  | .bool b => .ok (if b then 1 else 0)
  | .text s => intOfText s
  | .bytes bs => fromBytes .unreadableInt intOfText bs
  | .real x => match wholeOf x with
    | .ok i => .ok i
    | .error f => .fault f
  | _ => .fault .notInt

/-- Reads a real number from a text. -/
def realOfText (s : String) : Checked Float :=
  let cs := s.toList
  match Number.float? (Text.trimWhile Text.isUnicodeSpace cs) with
  | some x => .ok x
  | none =>
    match (joined? cs).bind Number.float? with
    | some x => .ok x
    | none => .fault .unreadableReal

/-- Reads a real number. -/
def real : Value → Checked Float
  | .real x => .ok x
  | .int i =>
    let x := Float.ofInt i
    if x.isInf then .fault .notReal else .ok x
  | .bool b => .ok (if b then 1.0 else 0.0)
  | .text s => realOfText s
  | .bytes bs => fromBytes .unreadableReal realOfText bs
  | _ => .fault .notReal

end Settings
end CodeAtlas
