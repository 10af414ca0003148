import CodeAtlas.Text.Identifier

/-!
# Number literals of an indented source

`numberEnd?` finds where a number literal ends. Digits may be separated by single low lines; a
number with leading zeros must have a fraction, an exponent or an imaginary part; and no letter may
follow a number, except that certain keywords may stand directly behind it.
-/

namespace CodeAtlas.Offside

/-- A decimal digit. -/
def isDigit (c : Char) : Bool := '0' ≤ c && c ≤ '9'

/-- A hexadecimal digit. -/
def isHexDigit (c : Char) : Bool := isDigit c || ('a' ≤ c && c ≤ 'f') || ('A' ≤ c && c ≤ 'F')

/-- An octal digit. -/
def isOctalDigit (c : Char) : Bool := '0' ≤ c && c ≤ '7'

/-- A binary digit. -/
def isBinaryDigit (c : Char) : Bool := c = '0' || c = '1'

/-- A character that is read as part of a word, whether or not it may stand there. -/
def isWordCharacter (c : Char) : Bool := Text.isAsciiWord c || 128 ≤ c.toNat

/-- Whether a text has one of the given beginnings. -/
def startsWithAny (beginnings : List (List Char)) (cs : List Char) : Bool :=
  beginnings.any fun b => b.isPrefixOf cs

/-- Whether a number may end before `cs`: at a keyword that can follow a number, or before anything
that is no ASCII letter, digit or low line. -/
def mayEndNumber (cs : List Char) : Bool :=
  startsWithAny [['a', 'n', 'd'], ['e', 'l', 's', 'e'], ['f', 'o', 'r'], ['i', 'f'], ['i', 'n'],
    ['i', 's'], ['o', 'r'], ['n', 'o', 't']] cs ||
  match cs with
  | [] => true
  | c :: _ => !Text.isAsciiWord c

/-- Skips digits, which single low lines may separate. -/
def skipDigits? (p : Char → Bool) : List Char → Option (List Char)
  | [] => some []
  | '_' :: d :: cs => if p d then skipDigits? p cs else none
  | c :: cs => if p c then skipDigits? p cs else if c = '_' then none else some (c :: cs)

/-- The end of a number, after an imaginary mark if there is one. -/
def skipImaginary? : List Char → Option (List Char)
  | [] => some []
  | c :: cs =>
    let rest := if c = 'j' || c = 'J' then cs else c :: cs
    if mayEndNumber rest then some rest else none

/-- The end of a number, after an exponent if there is one. -/
def skipExponent? : List Char → Option (List Char)
  | [] => some []
  | c :: cs =>
    if c = 'e' || c = 'E' then
      match cs with
      | s :: ds =>
        if s = '+' || s = '-' then
          if (ds.head?.map isDigit).getD false then (skipDigits? isDigit ds).bind skipImaginary?
          else none
        else if isDigit s then (skipDigits? isDigit cs).bind skipImaginary?
        else if mayEndNumber (c :: cs) then some (c :: cs) else none
      | [] => none
    else skipImaginary? (c :: cs)

/-- The end of a number, from behind its point. -/
def skipFraction? (cs : List Char) : Option (List Char) :=
  if (cs.head?.map isDigit).getD false then (skipDigits? isDigit cs).bind skipExponent?
  else skipExponent? cs

/-- The end of a number with a base mark, from behind the mark. -/
def skipBased? (p : Char → Bool) (cs : List Char) : Option (List Char) :=
  let digits := if cs.head? = some '_' then cs.tail else cs
  if (digits.head?.map p).getD false then
    (skipDigits? p digits).bind fun rest =>
      if (rest.head?.map isDigit).getD false then none
      else if mayEndNumber rest then some rest else none
  else none

/-- What follows the number that starts with the digit `first`, or `none` for a malformed one. -/
def numberEnd? (first : Char) (cs : List Char) : Option (List Char) :=
  let base := cs.head?
  if first = '0' && (base = some 'x' || base = some 'X') then skipBased? isHexDigit cs.tail
  else if first = '0' && (base = some 'o' || base = some 'O') then skipBased? isOctalDigit cs.tail
  else if first = '0' && (base = some 'b' || base = some 'B') then skipBased? isBinaryDigit cs.tail
  else
    (skipDigits? isDigit cs).bind fun rest =>
      let digits := cs.take (cs.length - rest.length)
      let leadingZero := first = '0' && digits.any fun c => c != '0' && c != '_'
      match rest with
      | [] => if leadingZero then none else some []
      | c :: more =>
        if c = '.' then skipFraction? more
        else if leadingZero && !(c = 'e' || c = 'E' || c = 'j' || c = 'J') then none
        else skipExponent? rest

end CodeAtlas.Offside
