/-!
# Surrogates

Code points that are given by number may be surrogates, which are no characters. A high one with a
low one behind it stands for one character, and any other becomes the replacement character.
-/

namespace CodeAtlas.Text

/-- Whether the code point is a surrogate that comes first in a pair. -/
def isHighSurrogate (n : Nat) : Bool := 0xd800 ≤ n && n < 0xdc00

/-- Whether the code point is a surrogate that comes last in a pair. -/
def isLowSurrogate (n : Nat) : Bool := 0xdc00 ≤ n && n < 0xe000

/-- The character of a code point. -/
def ofCodePoint (n : Nat) : Char :=
  if isHighSurrogate n || isLowSurrogate n then '\ufffd' else Char.ofNat n

/-- The characters of code points. -/
def ofCodePoints : List Nat → List Char
  | [] => []
  | [n] => [ofCodePoint n]
  | m :: n :: ns =>
    if isHighSurrogate m && isLowSurrogate n then
      Char.ofNat (0x10000 + (m - 0xd800) * 0x400 + (n - 0xdc00)) :: ofCodePoints ns
    else ofCodePoint m :: ofCodePoints (n :: ns)

end CodeAtlas.Text
