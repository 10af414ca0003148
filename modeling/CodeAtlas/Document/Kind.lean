import CodeAtlas.Document.Time
import CodeAtlas.Text.Hexadecimal
import CodeAtlas.Text.Split

/-!
# Kinds of nodes

What a node of a document is meant to be: its tag says so, or else its form. Plain scalars that look
like truth values, numbers, dates or nothing are just that, and all other scalars are texts.
-/

namespace CodeAtlas.Document

/-- The kinds of nodes that have a meaning. -/
inductive Kind
  | null
  | bool
  | int
  | real
  | text
  | time
  | bytes
  | list
  | mapping
  | set
  /-- Pairs in a list. -/
  | pairs
  /-- The key under which a mapping takes over fields. -/
  | merge
  /-- The key of what stands for a mapping where a scalar is asked for. -/
  | default
  /-- Any other. -/
  | unknown
deriving DecidableEq, Repr

namespace Kind

/-- What the names of standard tags start with. -/
def standardStart : String := "tag:yaml.org,2002:"

/-- The kinds of standard tags. -/
def standard : List (String × Kind) :=
  [("null", null), ("bool", bool), ("int", int), ("float", real), ("str", text),
   ("timestamp", time), ("binary", bytes), ("seq", list), ("map", mapping), ("set", set),
   ("omap", pairs), ("pairs", pairs), ("merge", merge), ("value", default)]

/-- The kind that a tag names. -/
def ofName (name : String) : Kind :=
  ((standard.find? fun s => standardStart ++ s.1 = name).map Prod.snd).getD unknown

/-- The words for truth and falsehood in lower case. -/
def truthWords : List (String × Bool) :=
  [("yes", true), ("no", false), ("true", true), ("false", false), ("on", true), ("off", false)]

/-- Whether the text is a word in lower case, in upper case, or with its first letter in upper
case. -/
def spells (text word : String) : Bool :=
  text = word || text = word.map Char.toUpper || text = word.capitalize

/-- Whether a text is not empty and its characters match. -/
def isRun (p : Char → Bool) (cs : List Char) : Bool := cs ≠ [] && cs.all p

/-- Digits and underscores. -/
def isDigitOrLine (c : Char) : Bool := c.isDigit || c = '_'

/-- Whether a text is a digit with digits and underscores behind it. -/
def isNatural : List Char → Bool
  | [] => false
  | c :: cs => c.isDigit && cs.all isDigitOrLine

/-- Whether a text is a number below sixty in one or two digits. -/
def isSixtieth : List Char → Bool
  | [c] => c.isDigit
  | [c, d] => '0' ≤ c && c ≤ '5' && d.isDigit
  | _ => false

/-- Whether a text without sign is a whole number. -/
def isInt (cs : List Char) : Bool :=
  let fromOne (cs : List Char) := isNatural cs && cs.head? ≠ some '0'
  match cs with
  | '0' :: 'b' :: ds => isRun (fun c => c = '0' || c = '1' || c = '_') ds
  | '0' :: 'x' :: ds => isRun (fun c => (Text.hexDigit? c).isSome || c = '_') ds
  | ['0'] => true
  | '0' :: ds => isRun (fun c => ('0' ≤ c && c ≤ '7') || c = '_') ds
  | cs =>
    match Text.splitOn ':' cs with
    | whole :: parts => fromOne whole && parts.all isSixtieth
    | [] => false

/-- Whether a text is an exponent with a sign, or nothing. -/
def isExponent : List Char → Bool
  | [] => true
  | e :: s :: ds => (e = 'e' || e = 'E') && (s = '-' || s = '+') && isRun Char.isDigit ds
  | _ => false

/-- Whether a text is a real number; those that start with a point have no sign. -/
def isReal (signed : Bool) (cs : List Char) : Bool :=
  let word := String.ofList cs
  let behind (cs : List Char) := isExponent (cs.dropWhile isDigitOrLine)
  if word = ".inf" || word = ".Inf" || word = ".INF" then true
  else if word = ".nan" || word = ".NaN" || word = ".NAN" then !signed
  else match Text.cutFirst? '.' cs with
    | none => false
    | some ([], d :: ds) => !signed && d.isDigit && behind ds
    | some (whole, rest) =>
      match Text.splitOn ':' whole with
      | [whole] => isNatural whole && behind rest
      | whole :: parts => isNatural whole && parts.all isSixtieth && rest.all isDigitOrLine
      | [] => false

/-- Whether a text starts with a sign, and what follows it. -/
def splitSign : List Char → Bool × List Char
  | '-' :: cs => (true, cs)
  | '+' :: cs => (true, cs)
  | cs => (false, cs)

/-- The kind of a plain scalar. -/
def ofPlain (text : String) : Kind :=
  let cs := text.toList
  let (signed, rest) := splitSign cs
  if truthWords.any fun w => spells text w.1 then bool
  else if isReal signed rest then real
  else if isInt rest then int
  else if text = "<<" then merge
  else if text = "" || text = "~" || spells text "null" then null
  else if (Moment.ofText? cs).any fun m => m.full || m.clock.isSome then time
  else if text = "=" then default
  else if text = "!" || text = "&" || text = "*" then unknown
  else .text

/-- The text without a line break at its end, unless that is all of it. -/
def withoutBreak (text : String) : String :=
  match text.toList.reverse with
  | '\n' :: c :: cs => String.ofList (c :: cs).reverse
  | _ => text

/-- The kind of a scalar whose form decides. Only what is not plain can end in a line break. -/
def ofForm (text : String) : Kind := ofPlain (withoutBreak text)

end Kind
end CodeAtlas.Document
