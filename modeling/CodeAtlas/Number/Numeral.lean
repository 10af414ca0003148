import CodeAtlas.Text.Blank
import CodeAtlas.Text.Digit

/-!
# Reading numerals

A numeral is a number in decimal, with an optional sign, fraction and exponent, or one of the words
for infinity and for what is no number. The nearest floating-point number is what it means. A whole
number may not be written with arbitrarily many decimal digits.
-/

namespace CodeAtlas.Number

/-- The most digits that a whole number may be written with. -/
def digitLimit : Nat := 4300

/-- What is said about a number with so many digits, if they are too many. -/
def lengthFault? (digits : Nat) : Option String :=
  if digits ≤ digitLimit then none
  else some ("Exceeds the limit (" ++ toString digitLimit ++
    " digits) for integer string conversion: value has " ++ toString digits ++
    " digits; use sys.set_int_max_str_digits() to increase the limit")

/-- The floating-point number nearest to `mantissa * 10 ^ scale`. -/
def ofScale (mantissa : Nat) (scale : Int) : Float :=
  if scale < 0 then Float.ofScientific mantissa true (min (-scale).toNat 100000)
  else Float.ofScientific mantissa false (min scale.toNat 100000)

/-- The value of a run of digits. -/
def ofDigits (ds : List Char) : Nat := ds.foldl (fun n c => 10 * n + (c.toNat - '0'.toNat)) 0

/-- The digits at the front of a text, and what follows them. -/
def spanDigits (cs : List Char) : List Char × List Char :=
  (cs.takeWhile Char.isDigit, cs.dropWhile Char.isDigit)

/-- Takes a sign off the front; the first part tells whether it is a minus. -/
def splitSign : List Char → Bool × List Char
  | '-' :: cs => (true, cs)
  | '+' :: cs => (false, cs)
  | cs => (false, cs)

/-- Reads an exponent, which may be absent, up to the end. -/
def exponent? : List Char → Option Int
  | [] => some 0
  | e :: cs =>
    if e = 'e' || e = 'E' then
      let (negative, ds) := splitSign cs
      if ds = [] || !ds.all Char.isDigit then none
      else some (if negative then -(ofDigits ds : Int) else ofDigits ds)
    else none

/-- Reads a number without sign. -/
def unsigned? (cs : List Char) : Option Float :=
  let word := cs.map Char.toLower
  if word = "inf".toList || word = "infinity".toList then some (1.0 / 0.0)
  else if word = "nan".toList then some (0.0 / 0.0)
  else
    let (whole, rest) := spanDigits cs
    let (places, rest) := match rest with
      | '.' :: rest => spanDigits rest
      | rest => ([], rest)
    if whole = [] && places = [] then none
    else (exponent? rest).map fun e => ofScale (ofDigits (whole ++ places)) (e - places.length)

/-- Reads a numeral that fills the whole text. -/
def float? (cs : List Char) : Option Float :=
  let (negative, rest) := splitSign cs
  (unsigned? rest).map fun x => if negative then -x else x

/-- Removes underscores, each of which must stand between two digits. `behindDigit` tells whether a
digit stands in front. -/
def joinDigits? (behindDigit : Bool) : List Char → Option (List Char)
  | [] => some []
  | '_' :: c :: cs =>
    if behindDigit && c.isDigit then (joinDigits? true cs).map (c :: ·) else none
  | c :: cs => if c = '_' then none else (joinDigits? c.isDigit cs).map (c :: ·)

/-- Takes a text as ASCII, as far as numerals go: decimal digits of all scripts become ASCII digits
and other white space becomes a blank. -/
def asPlain (c : Char) : Char :=
  if c.toNat < 128 then c else if Text.isBlank c then ' ' else Text.plainDigit c

/-- ASCII white space. -/
def isPlainSpace (c : Char) : Bool := c = ' ' || (0x09 ≤ c.toNat && c.toNat ≤ 0x0d)

/-- Reads a numeral with white space around it and underscores between its digits. -/
def ofText? (s : String) : Option Float :=
  (joinDigits? false (Text.trimWhile isPlainSpace (s.toList.map asPlain))).bind float?

end CodeAtlas.Number
