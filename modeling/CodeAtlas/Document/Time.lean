import CodeAtlas.Document.Cursor

/-!
# Dates and times in a document

A date is written as year, month and day with hyphens between them; a time of day, with an optional
fraction and zone, may follow. What is written like one must be one, and its zone less than a day
away.
-/

namespace CodeAtlas.Document

/-- A date as it is written, with the number of digits of month and day. -/
structure Moment where
  year : Nat
  month : Nat
  day : Nat
  /-- Month and day have two digits each. -/
  full : Bool
  /-- Hour, minute and second. -/
  clock : Option (Nat × Nat × Nat)
  /-- How many minutes the zone is ahead. -/
  zone : Int
deriving DecidableEq, Repr

namespace Moment

/-- The number that digits stand for. -/
def number (ds : List Char) : Nat := ds.foldl (fun n d => 10 * n + (d.toNat - '0'.toNat)) 0

/-- Takes between `least` and `most` digits: as many as there are. -/
def takeDigits (least most : Nat) (cs : List Char) : Option (List Char × List Char) :=
  let ds := (cs.take most).takeWhile Char.isDigit
  if least ≤ ds.length then some (ds, cs.drop ds.length) else none

/-- Takes a character. -/
def takeSign (c : Char) : List Char → Option (List Char)
  | d :: ds => if d = c then some ds else none
  | [] => none

/-- Reads the zone, if there is one: by how many minutes it is ahead. -/
def zone? (cs : List Char) : Option Int :=
  if cs = [] then some 0
  else match cs.dropWhile fun c => c = ' ' || c = '\t' with
    | ['Z'] => some 0
    | '+' :: rest => distance? rest
    | '-' :: rest => (distance? rest).map fun n => -n
    | _ => none
where
  /-- Reads hours, and minutes if there are any. -/
  distance? (cs : List Char) : Option Int := do
    let (hours, rest) ← takeDigits 1 2 cs
    match rest with
    | [] => return (60 * number hours : Nat)
    | ':' :: ds =>
      let (minutes, rest) ← takeDigits 2 2 ds
      if rest = [] then return (60 * number hours + number minutes : Nat) else none
    | _ => none

/-- Takes what separates a date from a time of day. -/
def takeJoint : List Char → Option (List Char)
  | 'T' :: cs => some cs
  | 't' :: cs => some cs
  | ' ' :: cs => some (cs.dropWhile fun c => c = ' ' || c = '\t')
  | '\t' :: cs => some (cs.dropWhile fun c => c = ' ' || c = '\t')
  | _ => none

/-- Reads a date or a time. -/
def ofText? (cs : List Char) : Option Moment := do
  let (year, cs) ← takeDigits 4 4 cs
  let (month, cs) ← takeDigits 1 2 (← takeSign '-' cs)
  let (day, cs) ← takeDigits 1 2 (← takeSign '-' cs)
  let full := month.length = 2 && day.length = 2
  let date : Moment := ⟨number year, number month, number day, full, none, 0⟩
  if cs = [] then return date
  let (hour, cs) ← takeDigits 1 2 (← takeJoint cs)
  let (minute, cs) ← takeDigits 2 2 (← takeSign ':' cs)
  let (second, cs) ← takeDigits 2 2 (← takeSign ':' cs)
  let cs := match cs with
    | '.' :: rest => rest.dropWhile Char.isDigit
    | cs => cs
  return { date with
    clock := some (number hour, number minute, number second), zone := ← zone? cs }

/-- The number of days of a month. -/
def daysIn (year month : Nat) : Nat :=
  if month = 2 then
    if year % 4 = 0 ∧ (year % 100 ≠ 0 ∨ year % 400 = 0) then 29 else 28
  else if month = 4 ∨ month = 6 ∨ month = 9 ∨ month = 11 then 30 else 31

/-- A length of time in minutes, in days and seconds; the seconds are not negative. -/
def distanceText (minutes : Int) : String :=
  let part (name : String) (n : Int) : List String := if n = 0 then [] else [name ++ toString n]
  let parts := part "days=" (minutes.fdiv 1440) ++ part "seconds=" (minutes.fmod 1440 * 60)
  "datetime.timedelta(" ++ ", ".intercalate parts ++ ")"

/-- Checks that there is such a zone. -/
def checkZone (m : Moment) : Except Trouble Unit :=
  if m.zone.natAbs < 1440 then .ok ()
  else .error (.badScalar ("offset must be a timedelta strictly between -timedelta(hours=24) and " ++
    "timedelta(hours=24), not " ++ distanceText m.zone ++ "."))

/-- Checks that there is such a day. -/
def checkDay (m : Moment) : Except Trouble Unit :=
  if m.year = 0 then .error (.badScalar "year 0 is out of range")
  else if m.month = 0 || 12 < m.month then .error (.badScalar "month must be in 1..12")
  else if m.day = 0 || daysIn m.year m.month < m.day then
    .error (.badScalar "day is out of range for month")
  else .ok ()

/-- Checks that there is such a moment, and says what kind of value it is. -/
def check (m : Moment) : Except Trouble String := do
  m.checkZone
  m.checkDay
  match m.clock with
  | none => return "date"
  | some (hour, minute, second) =>
    if 23 < hour then .error (.badScalar "hour must be in 0..23")
    if 59 < minute then .error (.badScalar "minute must be in 0..59")
    if 59 < second then .error (.badScalar "second must be in 0..59")
    return "datetime"

end Moment
end CodeAtlas.Document
