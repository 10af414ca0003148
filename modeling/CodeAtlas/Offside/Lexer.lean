import CodeAtlas.Offside.Token
import CodeAtlas.Offside.Number

/-!
# Reading tokens

`TokenList.ofText` reads the tokens of a source. Carriage returns end lines too, and the last line
counts as ended. Blank lines and lines with only a comment have no tokens. Inside brackets line
ends and indentation mean nothing.

The width of an indentation is measured twice, with tab stops every eight columns and with tabs as
single columns; both measures must agree on which of two lines is deeper.
-/

namespace CodeAtlas.Offside

/-- The text with every line ended by one line feed. -/
def unifyLineEnds : List Char → List Char
  | [] => []
  | '\r' :: '\n' :: cs => '\n' :: unifyLineEnds cs
  | c :: cs => (if c = '\r' then '\n' else c) :: unifyLineEnds cs

/-- The text with a line feed at its end. -/
def endLastLine (cs : List Char) : List Char :=
  if cs.getLast? = some '\n' then cs else cs ++ ['\n']

/-- The two measures of an indentation. -/
structure Margin where
  width : Nat
  narrow : Nat
deriving DecidableEq, Repr, Inhabited

/-- What the lexer knows between two tokens. -/
structure Lexer where
  place : Place
  rest : List Char
  atLineStart : Bool
  /-- Indents (positive) or dedents (negative) that are still to be given out. -/
  pending : Int
  /-- The margins of the open blocks, innermost first. -/
  margins : List Margin
  /-- The open brackets with their lines, innermost first. -/
  brackets : List (Char × Nat)
  /-- The tokens read so far, last first. -/
  tokens : List Token

namespace Lexer

/-- The lexer at the start of a text. -/
def start (cs : List Char) : Lexer := ⟨⟨1, 0⟩, cs, true, 0, [], [], []⟩

/-- The line that was read last. -/
def line (x : Lexer) : Nat :=
  if x.rest.isEmpty && x.place.column = 0 && 1 < x.place.line then x.place.line - 1
  else x.place.line

/-- The line of the innermost open bracket. -/
def openLine? (x : Lexer) : Option Nat := x.brackets.head?.map Prod.snd

/-- Adds a token without text. -/
def mark (x : Lexer) (kind : TokenKind) : Lexer :=
  let here : Place := ⟨x.line, x.place.column⟩
  { x with tokens := ⟨kind, "", x.brackets.length, here, here⟩ :: x.tokens }

/-- Ends the reading at a fault. -/
def fail (x : Lexer) (f : Fault) : TokenList := ⟨(x.mark .fault).tokens.reverse, some f⟩

/-- Passes over `n` characters. -/
def skip (x : Lexer) (n : Nat) : Lexer :=
  { x with place := x.place.afterAll (x.rest.take n), rest := x.rest.drop n }

/-- Takes `n` characters as a token, behind which `brackets` are open. -/
def takeWith (x : Lexer) (kind : TokenKind) (brackets : List (Char × Nat)) (n : Nat) : Lexer :=
  let lexeme := x.rest.take n
  let stop := x.place.afterAll lexeme
  let token : Token := ⟨kind, String.ofList lexeme, brackets.length, x.place, stop⟩
  { x with
    place := stop, rest := x.rest.drop n, brackets := brackets, tokens := token :: x.tokens }

/-- Takes `n` characters as a token that opens and closes no bracket. -/
def take (x : Lexer) (kind : TokenKind) (n : Nat) : Lexer := x.takeWith kind x.brackets n

/-- The margin at a line start, and behind how many characters (counted on from `n`) it ends. A
backslash at a line's end joins it to the next, and the first one fixes the margin (`joined`) unless
it stands in column zero. A backslash that joins nothing is an error; it is not counted if the source
does not end there. -/
def margin? : List Char → Margin → (joined n : Nat) → Except Nat (Margin × Nat)
  | ' ' :: cs, m, joined, n => margin? cs ⟨m.width + 1, m.narrow + 1⟩ joined (n + 1)
  | '\t' :: cs, m, joined, n => margin? cs ⟨(m.width / 8 + 1) * 8, m.narrow + 1⟩ joined (n + 1)
  | '\x0c' :: cs, _, joined, n => margin? cs ⟨0, 0⟩ joined (n + 1)
  | '\\' :: '\n' :: cs, m, joined, n =>
    if cs.isEmpty then .error (n + 2)
    else margin? cs m (if joined = 0 then m.width else joined) (n + 2)
  | '\\' :: _, _, _, n => .error n
  | _, m, joined, n => .ok (if joined = 0 then m else ⟨joined, joined⟩, n)

/-- The fault of a backslash that joins nothing, behind `n` characters; none is left where the source
ends in the joined line. -/
def continuationFault (x : Lexer) (n : Nat) : Fault :=
  let y := x.skip n
  .layout (if y.rest.isEmpty then y.openLine?.getD y.line else y.line) y.openLine?

/-- Compares the margin of a line with those of the open blocks. -/
def layout (x : Lexer) (m : Margin) : Except Fault Lexer :=
  let current := x.margins.head?.getD ⟨0, 0⟩
  if m.width = current.width then
    if m.narrow = current.narrow then .ok x else .error (.layout x.line none)
  else if current.width < m.width then
    if 99 ≤ x.margins.length || m.narrow ≤ current.narrow then .error (.layout x.line none)
    else .ok { x with pending := 1, margins := m :: x.margins }
  else
    let left := x.margins.dropWhile fun n => m.width < n.width
    let closed : Int := x.margins.length - left.length
    if left.head?.getD ⟨0, 0⟩ = m then .ok { x with pending := -closed, margins := left }
    else .error (.layout x.line none)

/-- The length of the prefix and opening quote of a string literal, if one starts here. -/
def textPrefix? (cs : List Char) : Option Nat :=
  let quote (c : Option Char) : Bool := c = some '"' || c = some '\x27'
  let single := ['b', 'B', 'u', 'U', 'r', 'R', 'f', 'F']
  let raw := ['r', 'R']
  let bytesOrFormat := ['b', 'B', 'f', 'F']
  match cs with
  | [] => none
  | a :: r =>
    if quote (some a) then some 0
    else if single.contains a && quote r.head? then some 1
    else match r with
      | b :: t =>
        if quote t.head? &&
            ((raw.contains a && bytesOrFormat.contains b) ||
              (bytesOrFormat.contains a && raw.contains b)) then some 2
        else none
      | [] => none

/-- The length of a string literal on one line, from behind its opening quote, counted on from `n`. -/
def shortTextLength? (quote : Char) : List Char → Nat → Option Nat
  | [], _ => none
  | '\\' :: _ :: cs, n => shortTextLength? quote cs (n + 2)
  | c :: cs, n =>
    if c = quote then some (n + 1)
    else if c = '\n' then none
    else shortTextLength? quote cs (n + 1)

/-- The length of a string literal in triple quotes, after `seen` closing quotes, counted on from
`n`. -/
def longTextLength? (quote : Char) : List Char → (seen n : Nat) → Option Nat
  | [], _, _ => none
  | '\\' :: _ :: cs, _, n => longTextLength? quote cs 0 (n + 2)
  | c :: cs, seen, n =>
    if c = quote then
      if seen = 2 then some (n + 1) else longTextLength? quote cs (seen + 1) (n + 1)
    else longTextLength? quote cs 0 (n + 1)

/-- The length of the string literal that starts with its opening quote. -/
def textLength? : List Char → Option Nat
  | a :: b :: c :: cs =>
    if b = a then (if c = a then longTextLength? a cs 0 3 else some 2)
    else shortTextLength? a (b :: c :: cs) 1
  | [a, b] => if b = a then some 2 else none
  | _ => none

/-- The length of the number that starts here. All of it stands in one run of letters, digits, signs
and points. -/
def numberLength? (cs : List Char) : Option Nat :=
  let run := cs.takeWhile fun c => isWordCharacter c || c = '.' || c = '+' || c = '-'
  let rest? :=
    match run with
    | '.' :: more => skipFraction? more
    | c :: more => numberEnd? c more
    | [] => none
  rest?.map fun rest => run.length - rest.length

/-- The operators of more than one character, longest first. -/
def longMarks : List (List Char) :=
  [['*', '*', '='], ['/', '/', '='], ['>', '>', '='], ['<', '<', '='], ['.', '.', '.'],
   ['!', '='], ['=', '='], ['<', '='], ['>', '='], ['<', '>'], ['*', '*'], ['/', '/'],
   ['>', '>'], ['<', '<'], ['+', '='], ['-', '='], ['*', '='], ['/', '='], ['%', '='],
   ['&', '='], ['|', '='], ['^', '='], ['@', '='], ['-', '>'], [':', '=']]

/-- The number of characters of the operator or delimiter that starts here. -/
def markLength (cs : List Char) : Nat :=
  match longMarks.find? fun m => m.isPrefixOf cs with
  | some m => m.length
  | none => 1

/-- The bracket that a closing bracket closes. -/
def opener? (c : Char) : Option Char :=
  if c = ')' then some '(' else if c = ']' then some '[' else if c = '\x7d' then some '\x7b'
  else none

/-- Reads the token that starts with `c`, which is not blank. -/
def readToken (x : Lexer) (c : Char) (cs : List Char) : Except Fault Lexer :=
  let malformed : Except Fault Lexer := .error (.malformed x.line)
  match textPrefix? (c :: cs) with
  | some n =>
    match textLength? ((c :: cs).drop n) with
    | some m => .ok (x.take .text (n + m))
    | none => malformed
  | none =>
    if isWordCharacter c && !isDigit c then
      let word := (c :: cs).takeWhile isWordCharacter
      if keywords.contains (String.ofList word) then .ok (x.take .keyword word.length)
      else if Text.isIdentifier word then .ok (x.take .word word.length)
      else malformed
    else if isDigit c || (c = '.' && (cs.head?.map isDigit).getD false) then
      match numberLength? (c :: cs) with
      | some n => .ok (x.take .number n)
      | none => malformed
    else if c.toNat < 32 || c.toNat = 127 then malformed
    else if c = '(' || c = '[' || c = '\x7b' then
      if 200 ≤ x.brackets.length then malformed
      else .ok (x.takeWith .mark ((c, x.line) :: x.brackets) 1)
    else match opener? c with
      | some o =>
        match x.brackets with
        | [] => malformed
        | (b, _) :: more => if b = o then .ok (x.takeWith .mark more 1) else malformed
      | none => .ok (x.take .mark (markLength (c :: cs)))

/-- The number of characters up to the end of the line. -/
def lineLength (cs : List Char) : Nat := (cs.takeWhile (· != '\n')).length

/-- Reads on to the end or to a fault. Every round takes a character or gives out a pending
indent or dedent, so the fuel does not run out. -/
def run : Nat → Lexer → TokenList
  | 0, x => ⟨x.tokens.reverse, none⟩
  | fuel + 1, x =>
    if x.pending < 0 then run fuel { x.mark .dedent with pending := x.pending + 1 }
    else if 0 < x.pending then run fuel { x.mark .indent with pending := x.pending - 1 }
    else if x.atLineStart then
      match margin? x.rest ⟨0, 0⟩ 0 0 with
      | .error n => x.fail (x.continuationFault n)
      | .ok (m, n) =>
        let y := x.skip n
        let comment := if y.rest.head? = some '#' then lineLength y.rest else 0
        if !x.brackets.isEmpty then run fuel { y with atLineStart := false }
        else if (y.rest.drop comment).head? = some '\n' then run fuel (y.skip (comment + 1))
        else match y.layout m with
          | .ok z => run fuel { z with atLineStart := false }
          | .error f => y.fail f
    else
      match x.rest with
      | [] =>
        match x.openLine? with
        | some n => x.fail (.layout n (some n))
        | none => ⟨(x.mark .finish).tokens.reverse, none⟩
      | '\\' :: '\n' :: cs =>
        if cs.isEmpty then x.fail (x.continuationFault 2) else run fuel (x.skip 2)
      | c :: cs =>
        if c = ' ' || c = '\t' || c = '\x0c' then run fuel (x.skip 1)
        else if c = '#' then run fuel (x.skip (lineLength x.rest))
        else if c = '\n' then
          if x.brackets.isEmpty then run fuel { x.take .newline 1 with atLineStart := true }
          else run fuel { x.skip 1 with atLineStart := true }
        else if c = '\\' then x.fail (x.continuationFault 0)
        else match x.readToken c cs with
          | .ok y => run fuel y
          | .error f => x.fail f

end Lexer

/-- The tokens of a source. -/
def TokenList.ofText (content : String) : TokenList :=
  let cs := endLastLine (unifyLineEnds content.toList)
  (Lexer.start cs).run (3 * cs.length + 3)

end CodeAtlas.Offside
