import CodeAtlas.Document.Numeral
import CodeAtlas.Document.Scalar
import CodeAtlas.Text.Surrogate

/-!
# Tokens of a document

A document in indented form is read into tokens that say where collections start and end, whether
they are written by indentation or in brackets. What starts a line, or stands between brackets, may
turn out to be a key when a colon follows it on the same line; then a mark is put in front of it,
and, outside of brackets, a start of a mapping if its column is a new indentation.

A trouble stands behind the tokens that were settled before it, which are those in front of all that
may still turn out to be a key; whoever reads the tokens meets what is wrong with them first.
-/

namespace CodeAtlas.Document

open Cursor

/-- The handle of a tag, without one if the tag is written out, and what follows it. -/
structure TagMark where
  handle : Option String
  suffix : String
deriving DecidableEq, Repr

/-- Lines in front of a document that say how it is to be read. -/
inductive Directive
  | version (major : Nat)
  | tag (handle start : String)
  | other
deriving DecidableEq, Repr

/-- A token of a document. -/
inductive Token
  | directive (d : Directive)
  | documentStart
  | documentEnd
  | blockSequence
  | blockMapping
  | blockEnd
  | flowSequence
  | flowSequenceEnd
  | flowMapping
  | flowMappingEnd
  | entry
  | separator
  | key
  | value
  | alias_ (name : String)
  | anchor (name : String)
  | tag (t : TagMark)
  | scalar (text : String) (plain : Bool)
deriving DecidableEq, Repr

/-- A place that may turn out to be a key: in front of which token, and where. -/
structure KeyPlace where
  token : Nat
  index : Nat
  line : Nat
  column : Nat
  /-- Something must follow that makes it a key. -/
  required : Bool
deriving Repr

/-- A reading of tokens that is under way. -/
structure Lexer where
  cursor : Cursor
  /-- The tokens so far, the last one first. -/
  tokens : List Token := []
  count : Nat := 0
  /-- How many brackets are open. -/
  flow : Nat := 0
  indent : Int := -1
  indents : List Int := []
  keyAllowed : Bool := true
  /-- What may turn out to be a key, by the number of open brackets. -/
  keys : List (Nat × KeyPlace) := []

namespace Lexer

/-- Whether brackets are open. -/
def inFlow (l : Lexer) : Bool := l.flow ≠ 0

/-- Appends a token. -/
def push (l : Lexer) (t : Token) : Lexer := { l with tokens := t :: l.tokens, count := l.count + 1 }

/-- Inserts a token in front of the one with a number. -/
def insertAt (l : Lexer) (n : Nat) (t : Token) : Lexer :=
  let behind := l.count - n
  { l with tokens := l.tokens.take behind ++ t :: l.tokens.drop behind, count := l.count + 1 }

/-- Forgets keys that did not end on their line or are too long. -/
def forgetStale (l : Lexer) : Except Trouble Lexer :=
  let stale (k : Nat × KeyPlace) :=
    k.2.line ≠ l.cursor.line || 1024 < l.cursor.index - k.2.index
  if l.keys.any fun k => stale k && k.2.required then .error .malformed
  else .ok { l with keys := l.keys.filter fun k => !stale k }

/-- Forgets the key at the present number of open brackets. -/
def forgetKey (l : Lexer) : Except Trouble Lexer :=
  if l.keys.any fun k => k.1 = l.flow && k.2.required then .error .malformed
  else .ok { l with keys := l.keys.filter fun k => k.1 ≠ l.flow }

/-- Remembers that what follows may be a key. -/
def rememberKey (l : Lexer) : Except Trouble Lexer :=
  if l.keyAllowed then do
    let l ← l.forgetKey
    let required := !l.inFlow && l.indent = l.cursor.column
    let place : KeyPlace :=
      ⟨l.count, l.cursor.index, l.cursor.line, l.cursor.column, required⟩
    return { l with keys := (l.flow, place) :: l.keys }
  else .ok l

/-- Ends the collections that are indented further than a column; `indents` are those around. -/
def unwindFrom (column : Int) : List Int → Lexer → Lexer
  | [], l => l
  | outer :: rest, l =>
    if column < l.indent then
      unwindFrom column rest { l.push .blockEnd with indent := outer, indents := rest }
    else l

/-- Ends the collections that are indented further than a column. -/
def unwind (l : Lexer) (column : Int) : Lexer :=
  if l.inFlow then l else unwindFrom column l.indents l

/-- Starts a collection at a column, in front of the token with a number, unless that column is
indented no further than the collection around it. -/
def indentTo (l : Lexer) (column : Nat) (n : Nat) (start : Token) : Lexer :=
  if l.indent < column then
    { l.insertAt n start with indent := column, indents := l.indent :: l.indents }
  else l

/-- Moves on. -/
def moveTo (l : Lexer) (c : Cursor) : Lexer := { l with cursor := c }

/-- Skips blanks, line breaks and comments. Outside of brackets a key may stand behind a line
break. -/
def skipGaps : Nat → Lexer → Lexer
  | 0, l => l
  | fuel + 1, l =>
    let c := l.cursor.skipSpaces.skipComment
    match c.takeBreak with
    | ([], c) => l.moveTo c
    | (_, c) => skipGaps fuel { l.moveTo c with keyAllowed := l.keyAllowed || !l.inFlow }

/-- The characters of names. -/
def isNameChar (c : Char) : Bool := c.isAlphanum || c = '-' || c = '_'

/-- The characters of tags. -/
def isTagChar (c : Char) : Bool := c.isAlphanum || "-;/?:@&=+$,_.!~*'()[]%".toList.contains c

/-- Takes the name of an anchor, from behind its sign. -/
def takeName (c : Cursor) : Except Trouble (String × Cursor) :=
  let (name, c) := c.takeWhile isNameChar
  let ends := isGap c.peek || c.peek.any fun x => "?:,]\x7d%@\x60".toList.contains x
  if name = [] || !ends then .error .malformed else .ok (String.ofList name, c)

/-- Puts in the bytes that escapes with a percent sign stand for. -/
def unescapeTag (cs : List Char) : Except Trouble (List Char) :=
  let rec bytes : List Char → Option (List UInt8)
    | [] => some []
    | '%' :: a :: b :: cs => do
      let x ← Text.hexDigit? a
      let y ← Text.hexDigit? b
      return (16 * x + y).toUInt8 :: (← bytes cs)
    | '%' :: _ => none
    | c :: cs => (bytes cs).map ((String.singleton c).toUTF8.toList ++ ·)
  match (bytes cs).bind fun bs => String.fromUTF8? (ByteArray.mk bs.toArray) with
  | some s => .ok s.toList
  | none => .error .malformed

/-- Takes what follows the handle of a tag. -/
def takeTagText (c : Cursor) : Except Trouble (String × Cursor) := do
  let (cs, c) := c.takeWhile isTagChar
  if cs = [] then .error .malformed
  return (String.ofList (← unescapeTag cs), c)

/-- Takes the handle of a tag, from its first exclamation mark to the last one. -/
def takeHandle (c : Cursor) : Except Trouble (String × Cursor) :=
  if c.peek = some '!' then
    let (name, d) := c.next.takeWhile isNameChar
    if d.peek = some '!' then .ok (String.ofList ('!' :: name ++ ['!']), d.next)
    else if c.peek 1 = some ' ' then .ok ("!", c.next)
    else .error .malformed
  else .error .malformed

/-- Takes a tag. -/
def takeTag (c : Cursor) : Except Trouble (TagMark × Cursor) := do
  let (mark, c) ←
    if c.peek 1 = some '<' then do
      let (text, c) ← takeTagText (c.skip 2)
      if c.peek ≠ some '>' then .error .malformed
      pure ((⟨none, text⟩ : TagMark), c.next)
    else if isGap (c.peek 1) then pure (⟨none, "!"⟩, c.next)
    else do
      let word := (c.rest.drop 1).takeWhile fun x => !endsWord (some x)
      let (handle, c) ← if word.contains '!' then takeHandle c else pure ("!", c.next)
      let (text, c) ← takeTagText c
      pure (⟨some handle, text⟩, c)
  if endsWord c.peek then return (mark, c) else .error .malformed

/-- Takes a number. -/
def takeNumber (c : Cursor) : Except Trouble (Nat × Cursor) := do
  let (ds, c) := c.takeWhile Char.isDigit
  if ds = [] then .error .malformed
  checkLength ds.length
  return (Number.ofDigits ds, c)

/-- Takes a directive with the rest of its line. -/
def takeDirective (c : Cursor) : Except Trouble (Directive × Cursor) := do
  let (name, c) := c.next.takeWhile isNameChar
  if name = [] || !endsWord c.peek then .error .malformed
  let (d, c) ←
    if name = "YAML".toList then do
      let (major, c) ← takeNumber c.skipSpaces
      if c.peek ≠ some '.' then .error .malformed
      let (_, c) ← takeNumber c.next
      if !endsWord c.peek then .error .malformed
      pure (Directive.version major, c)
    else if name = "TAG".toList then do
      let (handle, c) ← takeHandle c.skipSpaces
      if c.peek ≠ some ' ' then .error .malformed
      let (start, c) ← takeTagText c.skipSpaces
      if !endsWord c.peek then .error .malformed
      pure (.tag handle start, c)
    else pure (.other, c.skipWhile fun x => !isBreak x)
  let c := c.skipSpaces.skipComment
  if endsLine c.peek then return (d, c.takeBreak.2) else .error .malformed

/-! ## One token -/

/-- Takes a mark at the start of a line, where all collections end. -/
def takeMark (l : Lexer) (t : Token) (c : Cursor) : Except Trouble Lexer := do
  let l ← (l.unwind (-1)).forgetKey
  return { (l.moveTo c).push t with keyAllowed := false }

/-- Takes an opening bracket, which may start a key. -/
def takeOpening (l : Lexer) (t : Token) : Except Trouble Lexer := do
  let l ← l.rememberKey
  return { (l.moveTo l.cursor.next).push t with flow := l.flow + 1, keyAllowed := true }

/-- Takes a closing bracket. -/
def takeClosing (l : Lexer) (t : Token) : Except Trouble Lexer := do
  let l ← l.forgetKey
  return { (l.moveTo l.cursor.next).push t with flow := l.flow - 1, keyAllowed := false }

/-- Takes the sign of an entry of a sequence. -/
def takeEntry (l : Lexer) : Except Trouble Lexer := do
  if !l.inFlow && !l.keyAllowed then .error .malformed
  let l := if l.inFlow then l else l.indentTo l.cursor.column l.count .blockSequence
  let l ← l.forgetKey
  return { (l.moveTo l.cursor.next).push .entry with keyAllowed := true }

/-- Takes the sign of a key. -/
def takeKey (l : Lexer) : Except Trouble Lexer := do
  if !l.inFlow && !l.keyAllowed then .error .malformed
  let l := if l.inFlow then l else l.indentTo l.cursor.column l.count .blockMapping
  let l ← l.forgetKey
  return { (l.moveTo l.cursor.next).push .key with keyAllowed := !l.inFlow }

/-- Takes the sign of a value; what stands in front of it may be a key. -/
def takeValue (l : Lexer) : Except Trouble Lexer :=
  match l.keys.lookup l.flow with
  | some k =>
    let l := { l with keys := l.keys.filter fun k => k.1 ≠ l.flow }
    let l := l.insertAt k.token .key
    let l := if l.inFlow then l else l.indentTo k.column k.token .blockMapping
    .ok { (l.moveTo l.cursor.next).push .value with keyAllowed := false }
  | none => do
    if !l.inFlow && !l.keyAllowed then .error .malformed
    let l := if l.inFlow then l else l.indentTo l.cursor.column l.count .blockMapping
    let l ← { l with keyAllowed := !l.inFlow }.forgetKey
    return (l.moveTo l.cursor.next).push .value

/-- Takes something that may be a key as a whole. -/
def takeWhole (l : Lexer) (take : Cursor → Except Trouble (Token × Cursor)) :
    Except Trouble Lexer := do
  let l ← l.rememberKey
  let (t, c) ← take l.cursor
  return { (l.moveTo c).push t with keyAllowed := false }

/-- Whether a plain scalar can start at the place. -/
def startsPlain (l : Lexer) : Bool :=
  match l.cursor.peek with
  | none => false
  | some c =>
    !(isGap (some c) || "-?:,[]\x7b\x7d#&*!|>'\"%@\x60".toList.contains c) ||
      (!isGap (l.cursor.peek 1) && (c = '-' || (!l.inFlow && (c = '?' || c = ':'))))

/-- Takes a plain scalar. -/
def takePlainScalar (l : Lexer) : Except Trouble Lexer := do
  let l ← l.rememberKey
  let (text, broken, c) := takePlain l.inFlow (l.indent + 1) (l.cursor.rest.length + 1) l.cursor
  return { (l.moveTo c).push (.scalar (String.ofList text) true) with keyAllowed := broken }

/-- Takes a block scalar. -/
def takeBlockScalar (l : Lexer) (folded : Bool) : Except Trouble Lexer := do
  let l ← { l with keyAllowed := true }.forgetKey
  let (text, c) ← takeBlock folded l.indent (l.cursor.rest.length + 1) l.cursor.next
  return (l.moveTo c).push (.scalar (String.ofList text) false)

/-- Takes a quoted scalar. -/
def takeQuotedScalar (quote : Char) (c : Cursor) : Except Trouble (Token × Cursor) := do
  let (text, c) ← takeQuoted quote (c.rest.length + 1) c.next
  return (.scalar (String.ofList (Text.ofCodePoints text)) false, c)

/-- Takes the token that starts with a character. -/
def takeToken (l : Lexer) (x : Char) : Except Trouble Lexer :=
  let c := l.cursor
  let named (make : String → Token) (c : Cursor) : Except Trouble (Token × Cursor) := do
    let (name, c) ← takeName c.next
    return (make name, c)
  let signed := isGap (c.peek 1)
  if x = '%' && c.column = 0 then do
    let (d, after) ← takeDirective c
    l.takeMark (.directive d) after
  else if c.column = 0 && c.atMark '-' then l.takeMark .documentStart (c.skip 3)
  else if c.column = 0 && c.atMark '.' then l.takeMark .documentEnd (c.skip 3)
  else if x = '[' then l.takeOpening .flowSequence
  else if x = '\x7b' then l.takeOpening .flowMapping
  else if x = ']' then l.takeClosing .flowSequenceEnd
  else if x = '\x7d' then l.takeClosing .flowMappingEnd
  else if x = ',' then do
    let l ← { l with keyAllowed := true }.forgetKey
    return (l.moveTo c.next).push .separator
  else if x = '-' && signed then l.takeEntry
  else if x = '?' && (l.inFlow || signed) then l.takeKey
  else if x = ':' && (l.inFlow || signed) then l.takeValue
  else if x = '*' then l.takeWhole (named .alias_)
  else if x = '&' then l.takeWhole (named .anchor)
  else if x = '!' then l.takeWhole fun c => do
    let (t, c) ← takeTag c
    return (.tag t, c)
  else if x = '|' && !l.inFlow then l.takeBlockScalar false
  else if x = '>' && !l.inFlow then l.takeBlockScalar true
  else if x = '\x27' || x = '"' then l.takeWhole (takeQuotedScalar x)
  else if l.startsPlain then l.takePlainScalar
  else .error .malformed

/-- Takes the next token; none if the end is reached, where all collections end. -/
def step (l : Lexer) : Except Trouble (Lexer × Bool) := do
  let l ← (skipGaps (l.cursor.rest.length + 1) l).forgetStale
  let l := l.unwind l.cursor.column
  match l.cursor.peek with
  | none => return (← (l.unwind (-1)).forgetKey, true)
  | some x => return (← l.takeToken x, false)

/-- The number of tokens that are settled. -/
def settled (l : Lexer) : Nat := l.keys.foldl (fun n k => min n k.2.token) l.count

end Lexer

/-- The tokens that can be read from a document, and what is wrong behind them. -/
structure Tokens where
  front : List Token
  trouble : Option Trouble

namespace Lexer

/-- The first tokens, with the trouble behind them. -/
def stopAt (l : Lexer) (settled : Nat) (t : Trouble) : Tokens :=
  ⟨(l.tokens.drop (l.count - settled)).reverse, some t⟩

/-- Takes tokens up to the end; `n` of them are settled. -/
def run : Nat → Nat → Lexer → Tokens
  | 0, n, l => l.stopAt n .malformed
  | fuel + 1, n, l =>
    match l.step with
    | .error t => l.stopAt n t
    | .ok (after, true) => ⟨after.tokens.reverse, none⟩
    | .ok (after, false) =>
      match after.forgetStale with
      | .error t => l.stopAt n t
      | .ok after => run fuel after.settled after

end Lexer

/-- The tokens of a document. A byte-order mark in front of it is no part of it. -/
def Tokens.ofText (text : List Char) : Tokens :=
  if text.all isAllowed then
    let text := if text.head? = some '\ufeff' then text.drop 1 else text
    Lexer.run (text.length + 2) 0 { cursor := ⟨text, 0, 0, 0⟩ }
  else ⟨[], some .malformed⟩

end CodeAtlas.Document
