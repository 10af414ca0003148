import CodeAtlas.Document.Cursor
import CodeAtlas.Text.Hexadecimal

/-!
# Scalars in a document

A scalar is written plainly, between quotes, or as a block of indented lines. The functions here
read the text of one from its first character on, or from behind its opening quote or sign, and give
the place behind it.
-/

namespace CodeAtlas.Document

open Cursor

/-! ## Quoted scalars -/

/-- Takes blank lines: what they stand for, and the place of the next text. -/
def foldBreaks : Nat → Cursor → Except Trouble (List Char × Cursor)
  | 0, _ => .error .malformed
  | fuel + 1, c =>
    if c.atDocumentMark then .error .malformed
    else
      let c := c.skipWhile fun x => x = ' ' || x = '\t'
      match c.takeBreak with
      | ([], c) => .ok ([], c)
      | (b, c) => do
        let (more, c) ← foldBreaks fuel c
        return (b ++ more, c)

/-- Takes a run of blanks; line breaks in it are folded. -/
def takeGap (fuel : Nat) (c : Cursor) : Except Trouble (List Char × Cursor) :=
  let (blanks, c) := c.takeWhile fun x => x = ' ' || x = '\t'
  if c.rest = [] then .error .malformed
  else match c.takeBreak with
    | ([], c) => .ok (blanks, c)
    | (b, c) => do
      let (more, c) ← foldBreaks fuel c
      return (if b ≠ ['\n'] then b ++ more else if more = [] then [' '] else more, c)

/-- The characters that a backslash and one more character stand for. -/
def escapes : List (Char × Char) :=
  [('0', '\x00'), ('a', '\x07'), ('b', '\x08'), ('t', '\t'), ('\t', '\t'), ('n', '\n'),
   ('v', '\x0b'), ('f', '\x0c'), ('r', '\r'), ('e', '\x1b'), (' ', ' '), ('"', '"'), ('\\', '\\'),
   ('/', '/'), ('N', '\u0085'), ('_', '\u00a0'), ('L', '\u2028'), ('P', '\u2029')]

/-- The number of hexadecimal digits behind a backslash and this character. -/
def escapeLength? (c : Char) : Option Nat := [('x', 2), ('u', 4), ('U', 8)].lookup c

/-- Refuses numbers that are no code points. -/
def checkCodePoint (n : Nat) : Except Trouble Unit :=
  if 0x7fffffff < n then .error (.tooLarge "Python int too large to convert to C int")
  else if 0x10ffff < n then .error (.badScalar "chr() arg not in range(0x110000)")
  else .ok ()

/-- Takes an escape, from behind its backslash: the code points that it stands for. -/
def takeEscape (fuel : Nat) (c : Cursor) : Except Trouble (List Nat × Cursor) :=
  match c.peek with
  | none => .error .malformed
  | some e =>
    match escapes.lookup e, escapeLength? e with
    | some x, _ => .ok ([x.toNat], c.next)
    | none, some n =>
      let ds := c.next.rest.take n
      match Text.hexNumber? ds with
      | some code => do
        if ds.length < n then .error .malformed
        checkCodePoint code
        return ([code], c.next.skip n)
      | none => .error .malformed
    | none, none =>
      if isBreak e then do
        let (breaks, c) ← foldBreaks fuel c.takeBreak.2
        return (breaks.map Char.toNat, c)
      else .error .malformed

/-- Reads the code points of a quoted scalar, from behind its opening quote. -/
def takeQuoted (quote : Char) : Nat → Cursor → Except Trouble (List Nat × Cursor)
  | 0, _ => .error .malformed
  | fuel + 1, c =>
    let more (found : List Nat × Cursor) := do
      let (tail, c) ← takeQuoted quote fuel found.2
      return (found.1 ++ tail, c)
    match c.peek with
    | none => .error .malformed
    | some x =>
      if isGap (some x) then do
        let (gap, c) ← takeGap fuel c
        more (gap.map Char.toNat, c)
      else if x = quote then
        if quote = '\x27' && c.peek 1 = some quote then more ([quote.toNat], c.skip 2)
        else .ok ([], c.next)
      else if x = '\\' && quote = '"' then do more (← takeEscape fuel c.next)
      else more ([x.toNat], c.next)

/-! ## Plain scalars -/

/-- The characters with a meaning of their own between brackets. -/
def isFlowSign (c : Char) : Bool := c = ',' || c = '[' || c = ']' || c = '\x7b' || c = '\x7d'

/-- The length of the run of a plain scalar at the front. -/
def plainLength (inFlow : Bool) : List Char → Nat
  | [] => 0
  | c :: cs =>
    let stops := isGap (some c) ||
      (c = ':' && (isGap cs.head? || (inFlow && cs.head?.any isFlowSign))) ||
      (inFlow && (c = '?' || isFlowSign c))
    if stops then 0 else plainLength inFlow cs + 1

/-- Takes blank lines in a plain scalar; none if a mark between documents follows. -/
def plainBreaks : Nat → Cursor → Option (List Char) × Cursor
  | 0, c => (some [], c)
  | fuel + 1, c =>
    let c := c.skipSpaces
    match c.takeBreak with
    | ([], c) => (some [], c)
    | (b, c) =>
      if c.atDocumentMark then (none, c)
      else
        let (more, c) := plainBreaks fuel c
        (more.map (b ++ ·), c)

/-- Takes what separates two runs of a plain scalar: what it stands for, empty if the scalar cannot
go on, and whether there is a line break in it. -/
def plainGap (fuel : Nat) (c : Cursor) : List Char × Bool × Cursor :=
  let (spaces, c) := c.takeWhile (· = ' ')
  match c.takeBreak with
  | ([], c) => (spaces, false, c)
  | (b, c) =>
    if c.atDocumentMark then ([], true, c)
    else match plainBreaks fuel c with
      | (none, c) => ([], true, c)
      | (some more, c) =>
        (if b ≠ ['\n'] then b ++ more else if more = [] then [' '] else more, true, c)

/-- Reads a plain scalar. Lines that go on with it are indented by at least `indent`, except between
brackets. The flag tells whether the last thing that was taken holds a line break. -/
def takePlain (inFlow : Bool) (indent : Int) : Nat → Cursor → List Char × Bool × Cursor
  | 0, c => ([], false, c)
  | fuel + 1, c =>
    let n := if c.peek = some '#' then 0 else plainLength inFlow c.rest
    if n = 0 then ([], false, c)
    else
      let run := c.rest.take n
      let (gap, broken, c) := plainGap fuel (c.skip n)
      if gap = [] || c.peek = some '#' || (!inFlow && (c.column : Int) < indent) then (run, broken, c)
      else
        match takePlain inFlow indent fuel c with
        | ([], _, c) => (run, broken, c)
        | (more, broken, c) => (run ++ gap ++ more, broken, c)

/-! ## Block scalars -/

/-- What stands behind the sign of a block scalar: whether line breaks at its end are kept, if that
is said, and how far it is indented, if that is said. -/
structure BlockHeader where
  keep : Option Bool
  indent : Option Nat

/-- Takes a sign for the line breaks at the end. -/
def takeChomping (c : Cursor) : Option Bool × Cursor :=
  match c.peek with
  | some '+' => (some true, c.next)
  | some '-' => (some false, c.next)
  | _ => (none, c)

/-- Takes a digit for the indentation. -/
def takeIncrement (c : Cursor) : Except Trouble (Option Nat × Cursor) :=
  match c.peek with
  | some d =>
    if d = '0' then .error .malformed
    else if d.isDigit then .ok (some (d.toNat - '0'.toNat), c.next) else .ok (none, c)
  | none => .ok (none, c)

/-- Reads the header of a block scalar with the rest of its line. -/
def takeHeader (c : Cursor) : Except Trouble (BlockHeader × Cursor) := do
  let (keep, c) := takeChomping c
  let (indent, c) ← takeIncrement c
  let (keep, c) := if keep.isNone && indent.isSome then takeChomping c else (keep, c)
  if !endsWord c.peek then .error .malformed
  let c := c.skipSpaces.skipComment
  if endsLine c.peek then return (⟨keep, indent⟩, c.takeBreak.2) else .error .malformed

/-- Takes leading blank lines: their breaks, the greatest indentation in them and in front of the
first text, and the place of that text. -/
def leadingBreaks : Nat → Cursor → List Char × Nat × Cursor
  | 0, c => ([], 0, c)
  | fuel + 1, c =>
    let c := c.skipSpaces
    match c.takeBreak with
    | ([], d) => ([], c.column, d)
    | (b, d) =>
      let (more, widest, d) := leadingBreaks fuel d
      (b ++ more, max c.column widest, d)

/-- Skips at most as many spaces as lead to a column. -/
def skipIndent (indent : Nat) (c : Cursor) : Cursor :=
  c.skip (min (indent - c.column) (c.rest.takeWhile (· = ' ')).length)

/-- Takes blank lines between lines that are indented to a column. -/
def blockBreaks (indent : Nat) : Nat → Cursor → List Char × Cursor
  | 0, c => ([], c)
  | fuel + 1, c =>
    let c := skipIndent indent c
    match c.takeBreak with
    | ([], c) => ([], c)
    | (b, c) =>
      let (more, c) := blockBreaks indent fuel c
      (b ++ more, c)

/-- Reads the lines of a block scalar: its text without the breaks at its end, the break behind its
last line, and the breaks of the blank lines behind that. -/
def takeLines (folded : Bool) (indent : Nat) :
    Nat → Cursor → List Char → List Char × List Char × List Char × Cursor
  | 0, c, breaks => ([], [], breaks, c)
  | fuel + 1, c, breaks =>
    if c.column ≠ indent || c.rest = [] then ([], [], breaks, c)
    else
      let solid := c.peek != some ' ' && c.peek != some '\t'
      let (line, c) := c.takeWhile fun x => !isBreak x
      let (b, c) := c.takeBreak
      let (after, c) := blockBreaks indent fuel c
      if c.column = indent && c.rest ≠ [] then
        let joins := folded && b = ['\n'] && solid && c.peek != some ' ' && c.peek != some '\t'
        let joint := if joins then (if after = [] then [' '] else []) else b
        let (more, last, tail, c) := takeLines folded indent fuel c after
        (breaks ++ line ++ joint ++ more, last, tail, c)
      else (breaks ++ line, b, after, c)

/-- Reads a block scalar, from behind its sign; `parent` is the indentation around it. -/
def takeBlock (folded : Bool) (parent : Int) (fuel : Nat) (c : Cursor) :
    Except Trouble (List Char × Cursor) := do
  let (header, c) ← takeHeader c
  let least := max (parent + 1).toNat 1
  let (breaks, indent, c) := match header.indent with
    | some n =>
      let (breaks, c) := blockBreaks (least + n - 1) fuel c
      (breaks, least + n - 1, c)
    | none =>
      let (breaks, widest, c) := leadingBreaks fuel c
      (breaks, max least widest, c)
  let (text, last, tail, c) := takeLines folded indent fuel c breaks
  return (text ++ (if header.keep = some false then [] else last) ++
    (if header.keep = some true then tail else []), c)

end CodeAtlas.Document
