import CodeAtlas.Text.Digit
import CodeAtlas.Text.Identifier
import CodeAtlas.Text.Normal
import CodeAtlas.Text.Punycode
import CodeAtlas.Text.Split

/-!
# Names of hosts in any script

The name of a host consists of labels between dots. A label with characters other than ASCII letters,
digits and hyphens is sent in Punycode, if it is a name in lower case and in normal form.
-/

namespace CodeAtlas.Web

/-- Characters of identifiers that do not stand in labels: old letters, fillers, marks for repeating
and for symbols, and letters that are only variants of others. -/
def unnamed : Text.CodePoints := .ofLines [
  "345 34f 640 7fa 1100-11ff 1369-1371 13f8-13fd 16ee-16f0 17b4-17b5 180b-180d 180f 19da",
  "1c80-1c88 1f80-1f87 1f90-1f97 1fa0-1fa7 1fb2-1fb4 1fb7 1fc2-1fc4 1fc7 1ff2-1ff4 1ff7 203f-2040",
  "2054 20d0-20dc 20e1 20e5-20f0 2118 212e 2180-2182 2185-2188 3021-3029 302e-302f 3031-3035 303b",
  "a6e6-a6ef a960-a97c ab70-abbf d7b0-d7c6 d7cb-d7fb fe00-fe0f 10140-10174 10341 1034a",
  "103d1-103d5 12400-1246e 1d165-1d169 1d16d-1d172 1d17b-1d182 1d185-1d18b 1d1aa-1d1ad",
  "1d242-1d244 e0100-e01ef"]

/-- The characters that stand in labels. -/
def isLabelChar (c : Char) : Bool :=
  if c.toNat < 128 then c.isLower || c.isDigit || c = '-'
  else c = '\u06fd' || c = '\u06fe' || c = '\u0f0b' || c = '\u2e2f' ||
    (Text.isIdentifierPart c && !unnamed.contains c)

/-- Whether a character is a mark that needs another one in front. -/
def isMark (c : Char) : Bool :=
  Text.isIdentifierPart c && !Text.isIdentifierStart c && (Text.decimalValue? c).isNone

/-- Whether a character lies in a range of ten digits. -/
def isDigitFrom (first : Nat) (c : Char) : Bool := first ≤ c.toNat && c.toNat < first + 10

/-- Whether middle dots stand between two letters l only; `before` is the character in front. -/
def dotsFit (before : Option Char) : List Char → Bool
  | [] => true
  | c :: cs => (c ≠ '\u00b7' || (before = some 'l' && cs.head? = some 'l')) && dotsFit (some c) cs

/-- Whether a text is a label. -/
def isLabel (cs : List Char) : Bool :=
  cs ≠ [] && Text.normalForm (String.ofList cs) = String.ofList cs &&
    (cs.drop 2).take 2 ≠ ['-', '-'] && cs.head? ≠ some '-' && cs.getLast? ≠ some '-' &&
    !cs.head?.any isMark && cs.all (fun c => c = '\u00b7' || isLabelChar c) && dotsFit none cs &&
    !(cs.any (isDigitFrom 0x660) && cs.any (isDigitFrom 0x6f0))

/-- The mark in front of a label in Punycode. -/
def punycodeMark : List Char := "xn--".toList

/-- The form in which a label is sent. -/
def sentLabel? (cs : List Char) : Option (List Char) :=
  let isAscii := cs.all fun c => c.toNat < 128
  let sent := if isAscii then cs else punycodeMark ++ Text.Punycode.encode cs
  let fits := isLabel cs || (isAscii && punycodeMark.isPrefixOf cs && 4 < cs.length)
  if fits && sent.length ≤ 63 then some sent else none

/-- Full stops of several scripts. -/
def asDot (c : Char) : Char := if c = '\u3002' || c = '\uff0e' || c = '\uff61' then '.' else c

/-- The form in which the name of a host is sent. It may end in a dot. -/
def sentName? (name : List Char) : Option (List Char) := do
  let labels := Text.splitOn '.' (name.map asDot)
  let ended := labels.getLast? = some []
  let sent ← (if ended then labels.dropLast else labels).mapM sentLabel?
  let whole := ['.'].intercalate (if ended then sent ++ [[]] else sent)
  if sent ≠ [] && whole.length ≤ (if ended then 254 else 253) then some whole else none

end CodeAtlas.Web
