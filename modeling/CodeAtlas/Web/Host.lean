import CodeAtlas.Error
import CodeAtlas.Number.Numeral
import CodeAtlas.Text.Lowercase
import CodeAtlas.Web.Label
import CodeAtlas.Web.Percent

/-!
# Hosts

A host is an address of version four, with dots, one of version six, in brackets, or a name.
-/

namespace CodeAtlas.Web

/-! ## Version four -/

/-- Whether a text is a number below 256 without needless zeros. -/
def isOctet (cs : List Char) : Bool :=
  cs ≠ [] && cs.all Char.isDigit && cs.length ≤ 3 && (cs = ['0'] || cs.head? ≠ some '0') &&
    Number.ofDigits cs ≤ 255

/-- Whether a text is an address of version four. -/
def isAddress4 (cs : List Char) : Bool :=
  let parts := Text.splitOn '.' cs
  parts.length = 4 && parts.all isOctet

/-- The places behind digits and one more character, from any of some places on. -/
def behindDigits (cs : List Char) (places : List Nat) : List Nat :=
  let behind (place : Nat) : List Nat :=
    let digits := (cs.drop place).takeWhile Char.isDigit
    (List.range digits.length).map (place + 2 + ·)
  (places.flatMap behind).eraseDups.filter (· < cs.length)

/-- Whether a text is like an address of version four: digits four times, with any one character
between them. -/
def resemblesAddress4 (cs : List Char) : Bool :=
  let last := behindDigits cs (behindDigits cs (behindDigits cs [0]))
  last.any fun place => (cs.drop place).all Char.isDigit

/-! ## Version six -/

/-- Whether a text is a group of an address of version six. -/
def isGroup (cs : List Char) : Bool := cs.length ≤ 4 && cs.all fun c => (Text.hexDigit? c).isSome

/-- Splits off a zone; it must not be empty, nor hold another sign of a zone. -/
def dropZone? (cs : List Char) : Option (List Char) :=
  match Text.cutFirst? '%' cs with
  | none => some cs
  | some (address, zone) => if zone = [] || zone.contains '%' then none else some address

/-- The groups between colons, an address of version four at the end being two of them. -/
def groups? (cs : List Char) : Option (List (List Char)) :=
  let parts := Text.splitOn ':' cs
  match parts.getLast? with
  | some last =>
    if parts.length < 3 then none
    else if !last.contains '.' then some parts
    else if isAddress4 last then some (parts.dropLast ++ [['0'], ['0']])
    else none
  | none => none

/-- Whether groups are those of an address. Once a run of zeros may be left out between two colons,
also at an end. -/
def areGroups (parts : List (List Char)) : Bool :=
  let inner := (parts.drop 1).dropLast
  let openFront := parts.head? = some []
  let openBack := parts.getLast? = some []
  if 9 < parts.length || !parts.all isGroup || 1 < inner.count [] then false
  else if inner.count [] = 1 then
    let skip := 1 + (inner.takeWhile (· ≠ [])).length
    let front := if openFront then skip - 1 else skip
    let back := parts.length - skip - (if openBack then 2 else 1)
    (!openFront || front = 0) && (!openBack || back = 0) && front + back < 8
  else parts.length = 8 && !openFront && !openBack

/-- Whether a text is an address of version six. -/
def isAddress6 (cs : List Char) : Bool :=
  !cs.contains '/' && ((dropZone? cs).bind groups?).any areGroups

/-! ## All hosts -/

/-- The form in which a host is sent; an address of version six goes without its brackets. -/
def sentHost (host : String) : Except AddressFault String :=
  let cs := host.toList
  if resemblesAddress4 cs then
    if isAddress4 cs then .ok host else .error (.badAddress4 host)
  else if cs.head? = some '[' && cs.getLast? = some ']' && 2 ≤ cs.length then
    let inner := (cs.drop 1).dropLast
    if isAddress6 inner then .ok (String.ofList inner) else .error (.badAddress6 host)
  else if cs.all fun c => c.toNat < 128 then
    .ok (encode isHostChar (host.map Char.toLower))
  else match sentName? (Text.lower cs) with
    | some name => .ok (String.ofList name)
    | none => .error (.badName host)

end CodeAtlas.Web
