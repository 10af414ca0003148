import CodeAtlas.Text.CodePoints
import CodeAtlas.Text.NameList

/-!
# Whether a text names a character

Most characters have names in a list, which are known in any case. The names of Chinese characters
are made up from their numbers, and those of Korean syllables from their letters; these are known in
capital letters only.
-/

namespace CodeAtlas.Text

/-! ## Names in the list -/

/-- Looks for a name in the rest of the list. The name that is being read has `length` characters by
now, of which the first `common` are those of the name that is looked for; `complete` tells whether
the last character that was read is one of a name. -/
def isListedFrom (name : Array Char) (length common : Nat) (complete : Bool) : List Char → Bool
  | [] => length = name.size && common = length
  | c :: cs =>
    if c = '\n' then isListedFrom name length common complete cs
    else if c.isUpper then
      if complete && length = name.size && common = length then true
      else
        let length := length - (c.toNat - 'A'.toNat)
        isListedFrom name length (min common length) false cs
    else
      let common := if common = length && name[length]? = some c then common + 1 else common
      isListedFrom name (length + 1) common true cs

/-- Whether a text is a name in the list, in any case. -/
def isListed (name : List Char) : Bool :=
  isListedFrom (name.map Char.toLower).toArray 0 0 false nameList.toList

/-! ## Chinese characters -/

/-- The Chinese characters whose names are made up. -/
def ideographs : CodePoints := .ofLines
  ["3400-4dbf 4e00-9fff 20000-2a6df 2a700-2b738 2b740-2b81d 2b820-2cea1 2ceb0-2ebe0 30000-3134a"]

/-- Whether a text is the number of a Chinese character, in four or five digits. -/
def isIdeographNumber (ds : List Char) : Bool :=
  (ds.length = 4 || ds.length = 5) && ds.all (fun d => d.isDigit || ('A' ≤ d && d ≤ 'F')) &&
    (hexNumber? ds).any fun n => ideographs.contains (Char.ofNat n)

/-! ## Korean syllables -/

/-- The names of letters that syllables start with. -/
def firstLetters : List String :=
  ["G", "GG", "N", "D", "DD", "R", "M", "B", "BB", "S", "SS", "", "J", "JJ", "C", "K", "T", "P",
   "H"]

/-- The names of letters in the middle of syllables. -/
def middleLetters : List String :=
  ["A", "AE", "YA", "YAE", "EO", "E", "YEO", "YE", "O", "WA", "WAE", "OE", "YO", "U", "WEO", "WE",
   "WI", "YU", "EU", "YI", "I"]

/-- The names of letters that syllables end in. -/
def lastLetters : List String :=
  ["", "G", "GG", "GS", "N", "NJ", "NH", "D", "L", "LG", "LM", "LB", "LS", "LT", "LP", "LH", "M",
   "B", "BS", "S", "SS", "NG", "J", "C", "K", "T", "P", "H"]

/-- Drops the longest of some names at the front. -/
def dropLongest? (names : List String) (cs : List Char) : Option (List Char) :=
  let fitting := (names.map String.toList).filter (·.isPrefixOf cs)
  let longest := fitting.foldl (fun best n => max best n.length) 0
  if fitting = [] then none else some (cs.drop longest)

/-- Whether a text consists of the names of the letters of a syllable. -/
def isSyllableName (cs : List Char) : Bool :=
  ((dropLongest? firstLetters cs).bind (dropLongest? middleLetters)).bind
    (dropLongest? lastLetters) = some []

/-! ## All names -/

/-- What is left of a text behind another one. -/
def dropStart? (start : String) (cs : List Char) : Option (List Char) :=
  if start.toList.isPrefixOf cs then some (cs.drop start.length) else none

/-- Whether a text names a character. -/
def isCharacterName (name : List Char) : Bool :=
  match dropStart? "HANGUL SYLLABLE " name, dropStart? "CJK UNIFIED IDEOGRAPH-" name with
  | some rest, _ => isSyllableName rest
  | none, some rest => isIdeographNumber rest
  | none, none => isListed name

end CodeAtlas.Text
