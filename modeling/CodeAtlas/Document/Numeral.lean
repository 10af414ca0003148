import CodeAtlas.Document.Cursor
import CodeAtlas.Number.Numeral
import CodeAtlas.Text.Lowercase
import CodeAtlas.Text.Split

/-!
# Numbers in a document

Numbers may be written with underscores, whole ones in base two, eight, ten or sixteen, and all of
them in base sixty with colons between the places. A scalar that is marked as a number need not look
like one: then its text says in vain what it says.
-/

namespace CodeAtlas.Document

/-- The value of a digit. -/
def digitValue? (base : Nat) (c : Char) : Option Nat :=
  (Text.hexDigit? c).filter (· < base)

/-- Refuses a number with too many digits. -/
def checkLength (digits : Nat) : Except Trouble Unit :=
  match Number.lengthFault? digits with
  | some reason => .error (.badScalar reason)
  | none => .ok ()

/-- The letter that may mark a base, behind a zero. -/
def baseLetter? (base : Nat) : Option Char := [(2, 'b'), (8, 'o'), (16, 'x')].lookup base

/-- Drops a zero and the letter that marks the base. -/
def dropBase (base : Nat) (cs : List Char) : List Char :=
  match cs with
  | '0' :: x :: rest => if baseLetter? base = some x.toLower then rest else cs
  | cs => cs

/-- Reads digits in a base, with white space around them. A sign, and the prefix of the base, may
stand in front. -/
def readDigits (base : Nat) (text : List Char) : Except Trouble Int := do
  let (negative, cs) :=
    Number.splitSign ((text.map Number.asPlain).dropWhile Number.isPlainSpace)
  let cs := dropBase base cs
  let digits := cs.takeWhile fun c => (digitValue? base c).isSome
  if base = 10 then checkLength digits.length
  if digits = [] || !(cs.drop digits.length).all Number.isPlainSpace then
    .error (.badScalar ("invalid literal for int() with base " ++ toString base ++ ": " ++
      String.ofList ((Text.quoted (String.ofList text)).toList.take 200)))
  let n : Nat := digits.foldl (fun n c => base * n + (digitValue? base c).getD 0) 0
  return if negative then -(n : Int) else n

/-- Adds up numbers in base sixty, the first one counting most. -/
def sixties (parts : List Int) : Int := parts.foldl (fun n part => 60 * n + part) 0

/-- Reads a whole number. -/
def readInt (text : String) : Except Trouble Int := do
  let cs := text.toList.filter (· ≠ '_')
  if cs = [] then .error .emptyNumber
  let (negative, cs) := Number.splitSign cs
  let n ← match cs with
    | ['0'] => pure 0
    | '0' :: 'b' :: ds => readDigits 2 ds
    | '0' :: 'x' :: ds => readDigits 16 ds
    | '0' :: _ => readDigits 8 cs
    | [] => .error .emptyNumber
    | cs => sixties <$> (Text.splitOn ':' cs).mapM (readDigits 10)
  return if negative then -n else n

/-- Reads a decimal number, with white space around it. -/
def readDecimal (cs : List Char) : Except Trouble Float :=
  match Number.float? (Text.trimWhile Number.isPlainSpace (cs.map Number.asPlain)) with
  | some x => .ok x
  | none =>
    .error (.badScalar ("could not convert string to float: " ++ Text.quoted (String.ofList cs)))

/-- Adds real numbers in base sixty to a sum, the first one counting `base` times. -/
def addSixties (sum : Float) (base : Nat) : List Float → Except Trouble Float
  | [] => .ok sum
  | part :: parts =>
    if (Float.ofNat base).isInf then .error (.tooLarge "int too large to convert to float")
    else addSixties (sum + part * Float.ofNat base) (base * 60) parts

/-- Reads a real number. -/
def readReal (text : String) : Except Trouble Float := do
  let cs := Text.lower (text.toList.filter (· ≠ '_'))
  if cs = [] then .error .emptyNumber
  let (negative, cs) := Number.splitSign cs
  let x ←
    if cs = ".inf".toList then pure (1.0 / 0.0)
    else if cs = ".nan".toList then pure (0.0 / 0.0)
    else if cs.contains ':' then do
      let parts ← (Text.splitOn ':' cs).mapM readDecimal
      addSixties 0.0 1 parts.reverse
    else readDecimal cs
  return if negative then -x else x

end CodeAtlas.Document
