import CodeAtlas.Number.Numeral
import CodeAtlas.Web.Host

/-!
# Web addresses

An address has a scheme, a host with a port, a path, a query and a fragment, most of which may be
absent. Reading one brings its parts into the form in which they are sent: in lower case where case
means nothing, with percent signs, without steps up in the path, and without a port that the scheme
implies.

* `Address.ofText`, `Address.toText`: reading and writing;
* `Address.append`: the address of something below.
-/

namespace CodeAtlas.Web

/-- A web address. -/
structure Address where
  /-- Empty if there is none. -/
  scheme : String
  /-- The name and password of a user, empty if there are none. -/
  user : String
  /-- Empty if there is none. -/
  host : String
  port : Option Int
  path : String
  query : Option String
  fragment : Option String
deriving DecidableEq, Repr

/-- The most characters of an address, or of a part of one. -/
def lengthLimit : Nat := 65536

/-- Whether a character is one that may not be shown. -/
def isControl (c : Char) : Bool := c.toNat < 0x20 || c.toNat = 0x7f

/-! ## Parts -/

/-- Cuts off the scheme in front of the first colon. -/
def cutScheme (cs : List Char) : List Char × List Char :=
  match Text.cutFirst? ':' cs with
  | some (scheme, rest) =>
    let starts := scheme.head?.all Char.isAlpha
    if starts && scheme.all fun c => c.isAlphanum || c = '+' || c = '.' || c = '-' then (scheme, rest)
    else ([], cs)
  | none => ([], cs)

/-- Cuts off the host with what belongs to it, behind two slashes. -/
def cutAuthority : List Char → List Char × List Char
  | '/' :: '/' :: cs =>
    let goesOn (c : Char) : Bool := c ≠ '/' && c ≠ '?' && c ≠ '#'
    (cs.takeWhile goesOn, cs.dropWhile goesOn)
  | cs => ([], cs)

/-- Cuts at the first occurrence of a character, if there is one. -/
def cutAt (sep : Char) (cs : List Char) : List Char × Option (List Char) :=
  match Text.cutFirst? sep cs with
  | some (before, behind) => (before, some behind)
  | none => (cs, none)

/-- The host and what stands behind it. -/
def cutHost (cs : List Char) : List Char × List Char :=
  let named := (cs.takeWhile (· ≠ ':'), cs.dropWhile (· ≠ ':'))
  match cs with
  | '[' :: _ => match Text.cutLast? ']' cs with
    | some (before, behind) => (before ++ [']'], behind)
    | none => named
  | _ => named

/-- Reads a whole number, with white space around it and underscores between its digits. -/
def portNumber? (cs : List Char) : Option Int := do
  let (negative, cs) :=
    Number.splitSign (Text.trimWhile Number.isPlainSpace (cs.map Number.asPlain))
  let ds ← Number.joinDigits? false cs
  if ds = [] || !ds.all Char.isDigit || Number.digitLimit < ds.length then none
  else return if negative then -(Number.ofDigits ds : Int) else Number.ofDigits ds

/-- The ports that schemes imply. -/
def impliedPorts : List (String × Int) :=
  [("ftp", 21), ("http", 80), ("https", 443), ("ws", 80), ("wss", 443)]

/-- Reads a port. -/
def readPort (scheme : String) (cs : List Char) : Except AddressFault (Option Int) :=
  if cs = [] then .ok none
  else match portNumber? cs with
    | some n => .ok (if impliedPorts.lookup scheme = some n then none else some n)
    | none => .error (.badPort (String.ofList cs))

/-- Takes up a segment of a path: two dots remove the one before, but not the start. -/
def takeSegment (done : List (List Char)) (s : List Char) : List (List Char) :=
  if s = ['.'] then done
  else if s = ['.', '.'] then
    match done with
    | [] => []
    | d :: ds => if d = [] && ds = [] then done else ds
  else s :: done

/-- The path without segments of dots. -/
def plainPath (path : List Char) : List Char :=
  let segments := Text.splitOn '/' path
  if segments.any fun s => s = ['.'] || s = ['.', '.'] then
    ['/'].intercalate (segments.foldl takeSegment []).reverse
  else path

namespace Address

/-- Whether there is a host, or anything that belongs to one. -/
def hasAuthority (a : Address) : Bool := a.user ≠ "" || a.host ≠ "" || a.port.isSome

/-- Whether there is neither a scheme nor a host. -/
def isRelative (a : Address) : Bool := a.scheme = "" && !a.hasAuthority

/-- Puts in a path and a query. -/
def withPath (a : Address) (path : List Char) (query : Option (List Char)) :
    Except AddressFault Address :=
  if a.isRelative && path.take 2 = ['/', '/'] then .error .doubleSlash
  else if a.isRelative && path.head? = some ':' then .error .leadingColon
  else
    let path := if a.isRelative then path else plainPath path
    .ok { a with
      path := encode isPathChar (String.ofList path)
      query := query.map fun q => encode isQueryChar (String.ofList q) }

/-- Reads an address. -/
def ofText (s : String) : Except AddressFault Address := do
  let cs := s.toList
  if lengthLimit < cs.length then .error .tooLong
  if let some (c, place) := cs.zipIdx.find? fun (c, _) => isControl c then
    .error (.control c place)
  let (scheme, cs) := cutScheme cs
  let (authority, cs) := cutAuthority cs
  let (cs, fragment) := cutAt '#' cs
  let (path, query) := cutAt '?' cs
  let (user, cs) := (Text.cutLast? '@' authority).getD ([], authority)
  let (host, cs) := cutHost cs
  let scheme := (String.ofList scheme).map Char.toLower
  let a : Address :=
    { scheme
      user := encode isUserChar (String.ofList user)
      host := ← sentHost (String.ofList host)
      port := ← readPort scheme (if cs.head? = some ':' then cs.drop 1 else cs)
      path := ""
      query := none
      fragment := fragment.map fun f => encode isFragmentChar (String.ofList f) }
  a.withPath path query

/-- The path with the query; an empty path is that of the top. -/
def rawPath (a : Address) : String :=
  (if a.path = "" then "/" else a.path) ++ (a.query.map ("?" ++ ·)).getD ""

/-- Puts in a path with a query. -/
def withRawPath (a : Address) (raw : String) : Except AddressFault Address :=
  let (path, query) := cutAt '?' raw.toList
  a.withPath path query

/-- The address of something below: of a path that is appended behind a slash. -/
def append (a : Address) (path : String) : Except AddressFault Address := do
  let a ← if a.rawPath.endsWith "/" then pure a else a.withRawPath (a.rawPath ++ "/")
  a.withRawPath (a.rawPath ++ path)

/-- The host with what belongs to it. -/
def authority (a : Address) : String :=
  (if a.user = "" then "" else a.user ++ "@") ++
    (if a.host.toList.contains ':' then "[" ++ a.host ++ "]" else a.host) ++
    (a.port.map fun n => ":" ++ toString n).getD ""

/-- The text of an address. -/
def toText (a : Address) : String :=
  (if a.scheme = "" then "" else a.scheme ++ ":") ++
    (if a.authority = "" then "" else "//" ++ a.authority) ++ a.path ++
    (a.query.map ("?" ++ ·)).getD "" ++ (a.fragment.map ("#" ++ ·)).getD ""

/-- Whether the text starts with a word and a colon, so that it says how it is to be used. -/
def hasType (a : Address) : Bool :=
  let cs := a.toText.toList
  let cs := ((Text.cutLast? '#' cs).map Prod.fst).getD cs
  let word := cs.takeWhile fun c => c ≠ '/' && c ≠ ':'
  word ≠ [] && (cs.drop word.length).head? = some ':'

/-- The text of an address without an empty fragment. -/
def shown (a : Address) : String :=
  if a.fragment = some "" then { a with fragment := none }.toText else a.toText

end Address
end CodeAtlas.Web
