import CodeAtlas.Offside.Lexer
import CodeAtlas.Text.CharacterName

/-!
# String literals of an indented source

A string literal has a prefix, which may make it raw, a byte string or a format string. The text of
a format string holds replacement fields in braces, whose expressions belong to the syntax tree;
`Literal.pieces` finds them together with their places.
-/

namespace CodeAtlas.Offside

/-- A string literal taken apart. -/
structure Literal where
  isRaw : Bool
  isBytes : Bool
  isFormat : Bool
  body : List Char
  /-- The place of the first character of the body. -/
  place : Place

namespace Literal

/-- Takes a string literal apart, given its text and where that starts. -/
def ofText (cs : List Char) (start : Place) : Literal :=
  let isQuote (c : Char) : Bool := c = '"' || c = '\x27'
  let letters := cs.takeWhile fun c => !isQuote c
  let quoted := cs.drop letters.length
  let size :=
    match quoted with
    | a :: b :: c :: _ :: _ :: _ => if a = b && b = c then 3 else 1
    | _ => 1
  let has (x y : Char) : Bool := letters.contains x || letters.contains y
  { isRaw := has 'r' 'R', isBytes := has 'b' 'B', isFormat := has 'f' 'F',
    body := (quoted.drop size).take (quoted.length - 2 * size),
    place := start.afterAll (letters ++ quoted.take size) }

/-- Whether `n` hexadecimal digits come first. -/
def hexAhead (n : Nat) (cs : List Char) : Bool :=
  (cs.take n).length = n && (cs.take n).all isHexDigit

/-- Whether the escapes of a text that is not raw can be decoded. -/
def escapesValid (isBytes : Bool) : List Char → Bool
  | [] => true
  | '\\' :: 'x' :: cs => hexAhead 2 cs && escapesValid isBytes cs
  | '\\' :: 'u' :: cs => (isBytes || hexAhead 4 cs) && escapesValid isBytes cs
  | '\\' :: 'U' :: cs =>
    (isBytes || (hexAhead 8 cs && (cs.take 2 == ['0', '0']) &&
      (['0', '1'].contains (cs.getD 2 'f')) && ((cs.getD 2 'f') = '0' || cs.getD 3 'f' = '0'))) &&
      escapesValid isBytes cs
  | '\\' :: 'N' :: cs =>
    (isBytes || (cs.head? = some '\x7b' && cs.contains '\x7d' &&
      Text.isCharacterName (cs.tail.takeWhile (· != '\x7d')))) && escapesValid isBytes cs
  | '\\' :: _ :: cs => escapesValid isBytes cs
  | _ :: cs => escapesValid isBytes cs

/-- Whether the text of the literal can be decoded. -/
def isValid (l : Literal) : Bool := l.isRaw || escapesValid l.isBytes l.body

/-- Where in a replacement field's expression the scan is: in a string with its quote and size, or
between the given open brackets. -/
structure FieldScan where
  quote : Option (Char × Nat)
  brackets : List Char

/-- Splits off the expression of a replacement field: it ends at the first `!`, `:`, `=` or closing
brace outside strings and brackets that is not part of a comparison. -/
def splitField? (s : FieldScan) : List Char → Option (List Char × List Char)
  | [] => none
  | c :: cs =>
    let keep (s : FieldScan) := (splitField? s cs).map fun r => (c :: r.1, r.2)
    if c = '\\' then none
    else match s.quote with
    | some (q, 1) => if c = q then keep { s with quote := none } else keep s
    | some (q, _) =>
      match cs with
      | d :: e :: rest =>
        if c = q && d = q && e = q then
          (splitField? { s with quote := none } rest).map fun r => (c :: d :: e :: r.1, r.2)
        else keep s
      | _ => keep s
    | none =>
      if c = '"' || c = '\x27' then
        match cs with
        | d :: e :: rest =>
          if d = c && e = c then
            (splitField? { s with quote := some (c, 3) } rest).map fun r =>
              (c :: d :: e :: r.1, r.2)
          else keep { s with quote := some (c, 1) }
        | _ => keep { s with quote := some (c, 1) }
      else if c = '(' || c = '[' || c = '\x7b' then keep { s with brackets := c :: s.brackets }
      else if c = '#' then none
      else if s.brackets.isEmpty &&
          (c = '!' || c = ':' || c = '\x7d' || c = '=' || c = '>' || c = '<') then
        match cs with
        | '=' :: rest =>
          if c = '!' || c = '=' || c = '<' || c = '>' then
            (splitField? s rest).map fun r => (c :: '=' :: r.1, r.2)
          else some ([], c :: cs)
        | _ => if c = '>' || c = '<' then keep s else some ([], c :: cs)
      else match Lexer.opener? c with
        | some o =>
          match s.brackets with
          | b :: more => if b = o then keep { s with brackets := more } else none
          | [] => none
        | none => keep s

/-- What ends a literal part of a format string. -/
inductive PlainEnd
  | finish
  /-- A doubled brace, which stands for one; the text goes on with `rest`. -/
  | doubled (rest : List Char)
  /-- A brace, with which `rest` starts. -/
  | brace (rest : List Char)
  /-- A closing brace that closes nothing. -/
  | stray

/-- A literal part of a format string and what ends it. Outside a format specification (`top`) a
doubled brace is a character of the text, and a single closing brace is an error. Inside a character's
name (`named`) braces mean nothing. -/
def splitPlain (isRaw top : Bool) : Bool → List Char → List Char × PlainEnd
  | _, [] => ([], .finish)
  | true, c :: cs =>
    let (plain, e) := splitPlain isRaw top (c != '\x7d') cs
    (c :: plain, e)
  | false, c :: cs =>
    if c = '\x7b' || c = '\x7d' then
      if top && cs.head? = some c then ([c], .doubled cs.tail)
      else if top && c = '\x7d' then ([], .stray)
      else ([], .brace (c :: cs))
    else if isRaw || c != '\\' || cs.head? = some '\x7b' || cs.head? = some '\x7d' then
      let (plain, e) := splitPlain isRaw top false cs
      (c :: plain, e)
    else
      match cs with
      | 'N' :: d :: rest =>
        let (plain, e) := splitPlain isRaw top (d = '\x7b') rest
        (c :: 'N' :: d :: plain, e)
      | d :: rest =>
        let (plain, e) := splitPlain isRaw top false rest
        (c :: d :: plain, e)
      | [] => ([c], .finish)

/-- A part of a format string that matters. -/
inductive Piece
  /-- A replacement field: the characters of its expression, and the place of its opening brace. -/
  | field (chars : List Char) (place : Place)
  /-- The format string is malformed here. -/
  | fault

/-- What stands behind the expression of a replacement field, up to its format specification or its
closing brace: an equals sign with blanks, and a conversion. -/
def skipConversion? (cs : List Char) : Option (List Char) :=
  let cs :=
    if cs.head? = some '=' then
      cs.tail.dropWhile fun c => c = ' ' || (9 ≤ c.toNat && c.toNat ≤ 13)
    else cs
  match cs with
  | '!' :: c :: rest => if c = 's' || c = 'r' || c = 'a' then some rest else none
  | ['!'] => none
  | _ => some cs

/-- The pieces of a format string from here on, and what is left if none of them is a fault: the end
of the text, or inside a format specification (`top` is false) its closing brace. Fields nest two deep
(`depth`). -/
def piecesFrom (isRaw : Bool) :
    Nat → Bool → List Char → Place → Nat → List Piece × Option (List Char)
  | 0, _, _, _, _ => ([.fault], none)
  | fuel + 1, top, cs, place, depth =>
    let (plain, plainEnd) := splitPlain isRaw top false cs
    let here := place.afterAll plain
    if !isRaw && !escapesValid false plain then ([.fault], none)
    else match plainEnd with
    | .finish => ([], some [])
    | .stray => ([.fault], none)
    | .doubled rest => piecesFrom isRaw fuel top rest (here.after '\x7b') depth
    | .brace [] => ([], some [])
    | .brace (c :: inner) =>
      if c = '\x7d' then ([], some (c :: inner))
      else if depth = 0 then ([.fault], none)
      else match splitField? ⟨none, []⟩ inner with
      | none => ([.fault], none)
      | some (chars, after) =>
        if chars.all fun c => c = ' ' || c = '\t' || c = '\n' || c = '\x0c' then ([.fault], none)
        else
          let placeOf (left : List Char) : Place :=
            here.afterAll ((c :: inner).take (inner.length + 1 - left.length))
          let (pieces, left) : List Piece × Option (List Char) :=
            match skipConversion? after with
            | none => ([.fault], none)
            | some (':' :: spec) =>
              let (nested, left) := piecesFrom isRaw fuel false spec (placeOf spec) (depth - 1)
              match left with
              | some ('\x7d' :: rest) =>
                let (more, left) := piecesFrom isRaw fuel top rest (placeOf rest) depth
                (nested ++ more, left)
              | some _ => (nested ++ [.fault], none)
              | none => (nested, none)
            | some ('\x7d' :: rest) => piecesFrom isRaw fuel top rest (placeOf rest) depth
            | some _ => ([.fault], none)
          (.field chars here :: pieces, left)

/-- The pieces of a format string in order, up to the first fault. -/
def pieces (l : Literal) : List Piece :=
  match piecesFrom l.isRaw (l.body.length + 1) true l.body l.place 2 with
  | (ps, some (_ :: _)) => ps ++ [.fault]
  | (ps, _) => ps

end Literal
end CodeAtlas.Offside
