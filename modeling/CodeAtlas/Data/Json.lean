import CodeAtlas.Data.Value
import CodeAtlas.Number.Numeral
import CodeAtlas.Text.Hexadecimal
import CodeAtlas.Text.Surrogate

/-!
# Reading JSON

`Json.parse` reads a document with exactly one value, in the usual liberal dialect that also knows
`NaN`, `Infinity` and `-Infinity`. An error says what was expected and where.
-/

namespace CodeAtlas.Json

/-- What is wrong with a document. -/
inductive Fault
  | expectingValue
  | expectingName
  | expectingColon
  | expectingComma
  | unterminatedString
  | invalidControl
  | invalidEscape
  | invalidUnicodeEscape
  | extraData
  /-- A whole number with so many digits. -/
  | longNumber (digits : Nat)
  /-- A list inside of too many others. -/
  | deepList
  /-- A mapping inside of too many others. -/
  | deepMapping
deriving DecidableEq, Repr

/-- The wording of a fault. -/
def Fault.message : Fault → String
  | .expectingValue => "Expecting value"
  | .expectingName => "Expecting property name enclosed in double quotes"
  | .expectingColon => "Expecting ':' delimiter"
  | .expectingComma => "Expecting ',' delimiter"
  | .unterminatedString => "Unterminated string starting at"
  | .invalidControl => "Invalid control character at"
  | .invalidEscape => "Invalid \\escape"
  | .invalidUnicodeEscape => "Invalid \\uXXXX escape"
  | .extraData => "Extra data"
  | .longNumber digits => (Number.lengthFault? digits).getD ""
  | .deepList =>
    "maximum recursion depth exceeded while decoding a JSON array from a unicode string"
  | .deepMapping =>
    "maximum recursion depth exceeded while decoding a JSON object from a unicode string"

/-- Whether the fault is one of depth. -/
def Fault.isDepth : Fault → Bool
  | deepList | deepMapping => true
  | _ => false

/-- Whether the place of a fault is told. -/
def Fault.hasPlace : Fault → Bool
  | longNumber _ => false
  | f => !f.isDepth

/-- A fault, with the text from its place on. -/
structure Failure where
  fault : Fault
  rest : List Char

/-- Skips the blanks between tokens. -/
def skipBlanks (cs : List Char) : List Char :=
  cs.dropWhile fun c => c = ' ' || c = '\t' || c = '\n' || c = '\r'

/-- The value of four hexadecimal digits. -/
def hexUnit? (a b c d : Char) : Option Nat := Text.hexNumber? [a, b, c, d]

/-- The character that a simple escape stands for. -/
def escaped? (c : Char) : Option Char :=
  match c with
  | '"' => some '"'
  | '\\' => some '\\'
  | '/' => some '/'
  | 'b' => some '\x08'
  | 'f' => some '\x0c'
  | 'n' => some '\n'
  | 'r' => some '\r'
  | 't' => some '\t'
  | _ => none

/-- Reads the code points of a string, from behind its opening quote; `opening` is the text from
there. -/
def stringFrom (opening : List Char) : List Char → Except Failure (List Nat × List Char)
  | [] => .error ⟨.unterminatedString, opening⟩
  | '"' :: cs => .ok ([], cs)
  | '\\' :: 'u' :: a :: b :: c :: d :: cs =>
    match hexUnit? a b c d with
    | some n => (stringFrom opening cs).map fun (s, rest) => (n :: s, rest)
    | none => .error ⟨.invalidUnicodeEscape, 'u' :: a :: b :: c :: d :: cs⟩
  | '\\' :: 'u' :: cs => .error ⟨.invalidUnicodeEscape, 'u' :: cs⟩
  | ['\\'] => .error ⟨.unterminatedString, opening⟩
  | '\\' :: e :: cs =>
    match escaped? e with
    | some x => (stringFrom opening cs).map fun (s, rest) => (x.toNat :: s, rest)
    | none => .error ⟨.invalidEscape, '\\' :: e :: cs⟩
  | c :: cs =>
    if c.toNat < 32 then .error ⟨.invalidControl, c :: cs⟩
    else (stringFrom opening cs).map fun (s, rest) => (c.toNat :: s, rest)

/-- The text of a string. -/
def textOf (codePoints : List Nat) : String := String.ofList (Text.ofCodePoints codePoints)

/-- A run of digits: its value after `n`, its length after `k`, and the rest. -/
def digits (n k : Nat) : List Char → Nat × Nat × List Char
  | [] => (n, k, [])
  | c :: cs => if c.isDigit then digits (10 * n + (c.toNat - 48)) (k + 1) cs else (n, k, c :: cs)

/-- Reads a number without its sign; a fraction or an exponent makes it a real number. -/
def numberFrom? (negative : Bool) (cs : List Char) : Option (Value × List Char) :=
  let (whole, wholeLength, afterWhole) :=
    match cs with
    | '0' :: rest => (0, 1, rest)
    | _ => digits 0 0 cs
  if wholeLength = 0 then none else
  let (mantissa, places, afterFraction) :=
    match afterWhole with
    | '.' :: d :: rest => if d.isDigit then digits whole 0 (d :: rest) else (whole, 0, afterWhole)
    | _ => (whole, 0, afterWhole)
  let exponent : Option (Int × List Char) :=
    match afterFraction with
    | e :: rest =>
      if e = 'e' || e = 'E' then
        let (minus, ds) := match rest with
          | '-' :: ds => (true, ds)
          | '+' :: ds => (false, ds)
          | ds => (false, ds)
        let (n, k, left) := digits 0 0 ds
        if k = 0 then none else some (if minus then -(n : Int) else n, left)
      else none
    | [] => none
  if places = 0 && exponent.isNone then
    some (.int (if negative then -(whole : Int) else whole), afterFraction)
  else
    let (shift, left) := exponent.getD (0, afterFraction)
    let scale := shift - places
    let x := if scale < 0 then Float.ofScientific mantissa true (min (-scale).toNat 100000)
      else Float.ofScientific mantissa false (min scale.toNat 100000)
    some (.real (if negative then -x else x), left)

/-- Drops a word that the text starts with. -/
def dropWord? (word : String) (cs : List Char) : Option (List Char) :=
  if word.toList.isPrefixOf cs then some (cs.drop word.length) else none

/-- Reads a value that holds no other values. -/
def scalarFrom (cs : List Char) : Except Failure (Value × List Char) :=
  let words : List (String × Value) :=
    [("null", .null), ("true", .bool true), ("false", .bool false), ("NaN", .real (0.0 / 0.0)),
     ("Infinity", .real (1.0 / 0.0)), ("-Infinity", .real (-1.0 / 0.0))]
  match words.findSome? fun (w, v) => (dropWord? w cs).map fun rest => (v, rest) with
  | some r => .ok r
  | none =>
    let number := match cs with
      | '-' :: rest => numberFrom? true rest
      | _ => numberFrom? false cs
    match number with
    | some (.int i, rest) =>
      let digits := ((cs.dropWhile (· = '-')).takeWhile Char.isDigit).length
      if digits ≤ Number.digitLimit then .ok (.int i, rest) else .error ⟨.longNumber digits, cs⟩
    | some r => .ok r
    | none => .error ⟨.expectingValue, cs⟩

/-- Reads the items of a list behind the first, up to the closing bracket. -/
def itemsFrom (value : List Char → Except Failure (Value × List Char)) :
    Nat → List Char → Except Failure (List Value × List Char)
  | 0, cs => .error ⟨.expectingComma, cs⟩
  | n + 1, cs =>
    match skipBlanks cs with
    | ']' :: rest => .ok ([], rest)
    | ',' :: rest => do
      let (v, after) ← value (skipBlanks rest)
      let (vs, left) ← itemsFrom value n after
      return (v :: vs, left)
    | rest => .error ⟨.expectingComma, rest⟩

/-- Reads a field of a mapping, from its quote on. -/
def fieldFrom (value : List Char → Except Failure (Value × List Char)) (cs : List Char) :
    Except Failure ((String × Value) × List Char) :=
  match cs with
  | '"' :: inner => do
    let (name, after) ← stringFrom cs inner
    match skipBlanks after with
    | ':' :: rest =>
      let (v, left) ← value (skipBlanks rest)
      return ((textOf name, v), left)
    | rest => .error ⟨.expectingColon, rest⟩
  | _ => .error ⟨.expectingName, cs⟩

/-- Reads the fields of a mapping behind the first, up to the closing brace. -/
def fieldsFrom (value : List Char → Except Failure (Value × List Char)) :
    Nat → List Char → Except Failure (List (String × Value) × List Char)
  | 0, cs => .error ⟨.expectingComma, cs⟩
  | n + 1, cs =>
    match skipBlanks cs with
    | '\x7d' :: rest => .ok ([], rest)
    | ',' :: rest => do
      let (f, after) ← fieldFrom value (skipBlanks rest)
      let (fs, left) ← fieldsFrom value n after
      return (f :: fs, left)
    | rest => .error ⟨.expectingComma, rest⟩

/-- Reads a value that nests at most so deep. -/
def valueFrom : Nat → List Char → Except Failure (Value × List Char)
  | 0, cs =>
    match cs with
    | '"' :: inner => do
      let (s, rest) ← stringFrom cs inner
      return (.text (textOf s), rest)
    | '[' :: _ => .error ⟨.deepList, cs⟩
    | '\x7b' :: _ => .error ⟨.deepMapping, cs⟩
    | _ => scalarFrom cs
  | n + 1, cs =>
    match cs with
    | '"' :: inner => do
      let (s, rest) ← stringFrom cs inner
      return (.text (textOf s), rest)
    | '[' :: rest =>
      match skipBlanks rest with
      | ']' :: left => .ok (.list [], left)
      | first => do
        let (v, after) ← valueFrom n first
        let (vs, left) ← itemsFrom (valueFrom n) cs.length after
        return (.list (v :: vs), left)
    | '\x7b' :: rest =>
      match skipBlanks rest with
      | '\x7d' :: left => .ok (.mapping [], left)
      | first => do
        let (f, after) ← fieldFrom (valueFrom n) first
        let (fs, left) ← fieldsFrom (valueFrom n) cs.length after
        return (.ofFields (f :: fs), left)
    | _ => scalarFrom cs

/-- The message for a failure in a text: what is wrong, and the line, column and offset. -/
def Failure.message (f : Failure) (text : List Char) : String :=
  let before := text.take (text.length - f.rest.length)
  let line := before.count '\n' + 1
  let column := (before.reverse.takeWhile (· != '\n')).length + 1
  f.fault.message ++
    if f.fault.hasPlace then s!": line {line} column {column} (char {before.length})" else ""

/-- How deep values may nest. -/
def depthLimit : Nat := 975

/-- Reads a document. -/
def read (cs : List Char) : Except Failure Value :=
  match valueFrom depthLimit (skipBlanks cs) with
  | .error f => .error f
  | .ok (v, rest) =>
    match skipBlanks rest with
    | [] => .ok v
    | more => .error ⟨.extraData, more⟩

/-- Why a text has no value. -/
inductive Trouble
  /-- It is no document. -/
  | malformed (message : String)
  /-- Its values nest too deep. -/
  | tooDeep (message : String)

/-- Reads the text of a document. -/
def parse (text : String) : Except Trouble Value :=
  let cs := text.toList
  (read cs).mapError fun f =>
    if f.fault.isDepth then .tooDeep (f.message cs) else .malformed (f.message cs)

end CodeAtlas.Json
