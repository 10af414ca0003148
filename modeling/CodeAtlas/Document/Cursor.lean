import CodeAtlas.Error

/-!
# Places in a document

A cursor stands at a place in a document, from where its text is read. Line feeds, the next-line
character and the Unicode line and paragraph separators end a line; a byte-order mark takes no
column.
-/

namespace CodeAtlas.Document

/-- What can be wrong with a document. -/
inductive Trouble
  /-- It does not follow the format. -/
  | malformed
  /-- A scalar cannot be what it is marked as. -/
  | badScalar (reason : String)
  /-- A number is too large. -/
  | tooLarge (reason : String)
  /-- A scalar that is marked as a truth value is none of the known words. -/
  | unknownWord (word : String)
  /-- A scalar that is marked as a number is empty. -/
  | emptyNumber
  /-- A scalar that is marked as a time has not the form of one. -/
  | badTime
  /-- A mapping is marked as a time. -/
  | timeOfMapping
deriving DecidableEq, Repr

/-- Whether the character ends a line. -/
def isBreak (c : Char) : Bool := c = '\n' || c = '\u0085' || c = '\u2028' || c = '\u2029'

/-- Whether a character may stand in a document. -/
def isAllowed (c : Char) : Bool :=
  let n := c.toNat
  n = 9 || n = 10 || n = 13 || (32 ≤ n && n ≤ 126) || n = 0x85 || (0xa0 ≤ n && n < 0xd800) ||
    (0xe000 ≤ n && n ≤ 0xfffd) || 0x10000 ≤ n

/-- The text from a place on, and where that place is. -/
structure Cursor where
  rest : List Char
  index : Nat := 0
  line : Nat := 0
  column : Nat := 0
deriving Repr

namespace Cursor

/-- The character `k` places further on. -/
def peek (c : Cursor) (k : Nat := 0) : Option Char := c.rest[k]?

/-- The place behind a character. -/
def next (c : Cursor) : Cursor :=
  match c.rest with
  | [] => c
  | x :: xs =>
    if isBreak x then ⟨xs, c.index + 1, c.line + 1, 0⟩
    else ⟨xs, c.index + 1, c.line, if x = '\ufeff' then c.column else c.column + 1⟩

/-- The place behind `n` characters. -/
def skip (c : Cursor) : Nat → Cursor
  | 0 => c
  | n + 1 => c.next.skip n

/-- The characters at the front that match, and the place behind them. -/
def takeWhile (p : Char → Bool) (c : Cursor) : List Char × Cursor :=
  let run := c.rest.takeWhile p
  (run, c.skip run.length)

/-- The place behind the characters at the front that match. -/
def skipWhile (p : Char → Bool) (c : Cursor) : Cursor := (c.takeWhile p).2

/-- The place behind spaces. -/
def skipSpaces (c : Cursor) : Cursor := c.skipWhile (· = ' ')

/-- The place behind a comment, if there is one. -/
def skipComment (c : Cursor) : Cursor :=
  if c.peek = some '#' then c.skipWhile fun x => !isBreak x else c

/-- Takes a line break: what it stands for, and the place behind it. -/
def takeBreak (c : Cursor) : List Char × Cursor :=
  match c.peek with
  | some x =>
    if isBreak x then ([if x = '\u0085' then '\n' else x], c.next) else ([], c)
  | none => ([], c)

/-- Whether a character, or the end, is a line break or the end. -/
def endsLine : Option Char → Bool
  | none => true
  | some c => isBreak c

/-- Whether a character, or the end, is a space, a line break or the end. -/
def endsWord : Option Char → Bool
  | none => true
  | some c => c = ' ' || isBreak c

/-- Whether a character, or the end, is blank. -/
def isGap : Option Char → Bool
  | none => true
  | some c => c = ' ' || c = '\t' || isBreak c

/-- Whether three equal characters stand alone at the place. -/
def atMark (c : Cursor) (x : Char) : Bool := c.rest.take 3 = [x, x, x] && isGap (c.peek 3)

/-- Whether a mark between documents stands at the place. -/
def atDocumentMark (c : Cursor) : Bool := c.atMark '-' || c.atMark '.'

end Cursor
end CodeAtlas.Document
