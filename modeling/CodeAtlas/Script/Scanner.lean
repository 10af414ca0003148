import CodeAtlas.Grammar.Parse
import CodeAtlas.Script.Tree
import CodeAtlas.Text.Identifier

/-!
# Tokens that depend on what is around them

A statement may end at a line end without a semicolon, the text of a template or of an element ends
where something else begins, and a question mark is read with a view to what follows it. These tokens
are found by looking ahead in the text.
-/

namespace CodeAtlas.Script.Scanner

/-- The character at a place; NUL behind the end. -/
def at_ (text : Array Char) (i : Nat) : Char := text.getD i '\x00'

/-- The first place from `i` on whose character does not fulfil a condition. -/
def skipWhile (text : Array Char) (p : Char → Bool) (i : Nat) : Nat :=
  if h : i < text.size then
    if p text[i] then skipWhile text p (i + 1) else i
  else i
termination_by text.size - i

/-- Blanks in the sense of this module; those that no line may be broken at are none. -/
def isSpace (c : Char) : Bool :=
  c = ' ' || ('\t' ≤ c && c ≤ '\r') || c = '\u1680' || ('\u2000' ≤ c && c ≤ '\u2006') ||
    ('\u2008' ≤ c && c ≤ '\u200a') || c = '\u2028' || c = '\u2029' || c = '\u205f' || c = '\u3000'

/-- The ends of lines. -/
def isLineEnd (c : Char) : Bool := c = '\n' || c = '\u2028' || c = '\u2029'

/-- Letters, of which words consist. -/
def isLetter (c : Char) : Bool := c.isAlpha || (127 < c.toNat && Text.isIdentifierStart c)

/-- Decimal digits. -/
def isDigit (c : Char) : Bool := '0' ≤ c && c ≤ '9'

/-- Skips blanks. -/
def skipSpace (text : Array Char) (i : Nat) : Nat := skipWhile text isSpace i

/-- Skips a comment with an end of its own, from behind its opening on: the place behind it, whether
there is a line end in it, and whether it ends at all. -/
def skipBlock (text : Array Char) (i : Nat) (newline : Bool) : Nat × Bool × Bool :=
  if h : i < text.size then
    if text[i] = '\x00' then (i, newline, false)
    else if text[i] = '*' then
      if at_ text (i + 1) = '/' then (i + 2, newline, true) else skipBlock text (i + 1) newline
    else skipBlock text (i + 1) (newline || isLineEnd text[i])
  else (i, newline, false)
termination_by text.size - i

/-- What the blanks and comments at a place say about the end of a statement. -/
inductive Gap
  /-- They may end it. -/
  | mayEnd
  /-- They are a comment without a line end. -/
  | sameLine
  /-- A slash follows that begins no comment. -/
  | goesOn
deriving DecidableEq

/-- Where a look ahead has come to, and whether it has passed a comment. -/
structure Look where
  place : Nat
  comment : Bool

/-- Passes blanks and comments. Unless `all` is set, it stops behind a comment with an end of its own.
In typed scripts only line feeds end lines, and such comments are not noted. -/
def passGap (text : Array Char) (typed all : Bool) : Nat → Look → Bool → Look × Gap
  | 0, l, _ => (l, .mayEnd)
  | fuel + 1, l, newline =>
    let i := skipSpace text l.place
    if at_ text i ≠ '/' then ({ l with place := i }, .mayEnd)
    else if at_ text (i + 1) = '/' then
      let i := skipWhile text (fun c => c ≠ '\x00' && c ≠ '\n' && (typed || !isLineEnd c)) (i + 2)
      passGap text typed all fuel ⟨i, true⟩ newline
    else if at_ text (i + 1) = '*' then
      let (j, newline, closed) := skipBlock text (i + 2) newline
      if closed && at_ text j ≠ '/' && !all then
        (⟨j, true⟩, if newline then .mayEnd else .sameLine)
      else passGap text typed all fuel ⟨j, l.comment || (closed && !typed)⟩ newline
    else ({ l with place := i + 1 }, .goesOn)

/-- Whether the word at a place is no operator between expressions. -/
def isOtherWord (text : Array Char) (i : Nat) : Bool :=
  if at_ text (i + 1) ≠ 'n' then true
  else if !isLetter (at_ text (i + 2)) then false
  else
    let rest := "stanceof".toList.zipIdx
    rest.any (fun c => at_ text (i + 2 + c.2) ≠ c.1) || isLetter (at_ text (i + 2 + rest.length))

/-- Whether a statement may end before a line that begins with the given place; `refused` are
characters that go on with it. -/
def mayEndBefore (text : Array Char) (refused : String) (i : Nat) : Bool :=
  let c := at_ text i
  let next := at_ text (i + 1)
  if c = '\x00' then true
  else if refused.toList.contains c then false
  else if c = '.' then isDigit next
  else if c = '+' || c = '-' then next = c
  else if c = '!' then next ≠ '='
  else if c = 'i' then isOtherWord text i
  else true

/-- The place behind the first of the lines that end at or after a place, or whether the statement ends
or goes on before. -/
def toLineEnd (text : Array Char) (operatorMayFollow : Bool) : Nat → Look → Look × Option Bool
  | 0, l => (l, some false)
  | fuel + 1, l =>
    if at_ text l.place = '\x00' then (l, some true)
    else
      let (l, gap) :=
        if at_ text l.place = '/' then passGap text false false (text.size + 1) l false
        else (l, .sameLine)
      let c := at_ text l.place
      if gap = .goesOn then (l, some false)
      else if gap = .mayEnd && !operatorMayFollow && c ≠ ',' && c ≠ '=' then (l, some true)
      else if c = '}' then (l, some true)
      else if isLineEnd c then ({ l with place := l.place + 1 }, none)
      else if !isSpace c then (l, some false)
      else toLineEnd text operatorMayFollow fuel { l with place := l.place + 1 }

/-- Whether a statement ends at a place without a semicolon, in a plain script. -/
def endsPlain (text : Array Char) (makesSense : String → Bool) (i : Nat) : Bool × Look :=
  match toLineEnd text (makesSense "||") (text.size + 2) ⟨i, false⟩ with
  | (l, some b) => (b, l)
  | (l, none) =>
    let (l, gap) := passGap text false true (text.size + 1) l false
    if gap = .goesOn then (false, l)
    else (mayEndBefore text "\x60,:;*%><=[(?^|&/" l.place, l)

/-- Whether a statement ends at a place without a semicolon, in a typed script. -/
def endsTyped (text : Array Char) (makesSense : String → Bool) (i : Nat) : Bool × Look :=
  let j := skipWhile text (fun c => isSpace c && c ≠ '\n') i
  let c := at_ text j
  if c = '\x00' then (true, ⟨j, false⟩)
  else if c = '}' then
    let k := skipSpace text (j + 1)
    (if at_ text k = ':' then makesSense "_questionMark" else true, ⟨k, false⟩)
  else if c ≠ '\n' then (false, ⟨j, false⟩)
  else
    let (l, gap) := passGap text true true (text.size + 1) ⟨j + 1, false⟩ false
    let c := at_ text l.place
    if gap = .goesOn then (false, l)
    else if c = '{' then (!makesSense "_functionSignatureAutomaticSemicolon", l)
    else if c = '(' || c = '[' then (!makesSense "||", l)
    else (mayEndBefore text "\x60,.;*%><=?^|&/:" l.place, l)

/-- A question mark that asks between two expressions, at a place or behind blanks. -/
def questionMark (text : Array Char) (typed : Bool) (i : Nat) : Option (String × Nat × Nat) :=
  let i := skipSpace text i
  let next := at_ text (i + 1)
  if at_ text i ≠ '?' || next = '?' || (typed && next = '.') then none
  else
    let j := if typed then skipSpace text (i + 1) else i + 1
    let c := at_ text j
    if typed && (c = ':' || c = ')' || c = ',') then none
    else if c = '.' && !isDigit (at_ text (j + 1)) then none
    else some ("_questionMark", i, i + 1)

/-- The text of a template up to its end, an escape or an expression. -/
def templateText (text : Array Char) (start i : Nat) : Option (String × Nat × Nat) :=
  if h : i < text.size then
    let c := text[i]
    if c = '\x00' then none
    else if c = '\x60' || c = '\\' || (c = '$' && at_ text (i + 1) = '{') then
      if start < i then some ("_templateText", start, i) else none
    else templateText text start (i + 1)
  else none
termination_by text.size - i

/-- The text of an element: where it ends, and whether it is more than blanks with a line end. -/
def elementText (text : Array Char) (i : Nat) : Nat × Bool :=
  let j := skipWhile text (fun c => !"\x00<>\x7b\x7d&".toList.contains c) i
  let seen := (text.extract i j).toList.foldl (fun (s : Bool × Bool) c =>
    if c = '\n' then (s.1, true)
    else
      let afterNewline := s.2 && isSpace c
      (s.1 || !afterNewline, afterNewline)) (false, false)
  (j, seen.1)

/-- A comment to the end of the line that begins or ends like one of markup. -/
def markupComment (text : Array Char) (i : Nat) : Option (String × Nat × Nat) :=
  let i := skipSpace text i
  let starts (s : String) : Bool := s.toList.zipIdx.all fun c => at_ text (i + c.2) = c.1
  let stop (n : Nat) : Nat := skipWhile text (fun c => c ≠ '\x00' && !isLineEnd c) (i + n)
  if starts "<!--" then some ("markupComment", i, stop 4)
  else if starts "-->" then some ("markupComment", i, stop 3)
  else none

/-- Finds the tokens of scripts that depend on what is around them. -/
def scan (typed : Bool) : Grammar.Scanner := fun text i names =>
  let makesSense (s : String) : Bool := names.contains s
  let semicolon := makesSense "_automaticSemicolon"
  if makesSense "_templateText" then
    if semicolon then none else templateText text i i
  else
    let (j, isText) := if makesSense "markupText" then elementText text i else (i, false)
    if isText then some ("markupText", i, j)
    else if semicolon || (typed && makesSense "_functionSignatureAutomaticSemicolon") then
      let (ends, l) := if typed then endsTyped text makesSense j else endsPlain text makesSense j
      if ends then some ("_automaticSemicolon", j, j)
      else if !l.comment && makesSense "_questionMark" && at_ text l.place = '?' then
        questionMark text typed l.place
      else none
    else if makesSense "_questionMark" then questionMark text typed j
    else if makesSense "markupComment" && !makesSense "||" && !makesSense "escapeSequence" &&
        !makesSense "regexPattern" then markupComment text j
    else none

end CodeAtlas.Script.Scanner
