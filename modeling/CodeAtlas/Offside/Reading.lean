import Std.Data.TreeMap
import CodeAtlas.Offside.Grammar
import CodeAtlas.Offside.Literal
import CodeAtlas.Text.Normal

/-!
# Reading forms

`Form.read` reads a form at a place of a token list. A form can be read, or cannot, so that the next
alternative is tried, or cannot in such a way that no further one is. An `Objection` ends the reading
altogether: a mistake has been found, or the tokens end in a fault.

All along a `Trail` keeps the furthest token that has been looked at, because where a source is wrong
in a way that is no known mistake, that is the token at fault; and it keeps what has been read as the
remembered phrases, so that the time for trying alternatives stays within bounds.
-/

namespace CodeAtlas.Offside

/-- Why reading was given up. -/
inductive Objection
  /-- A mistake on a line; `furthest` is the index of the furthest token that was looked at. -/
  | mistake (line furthest : Nat)
  /-- The tokens end here. -/
  | fault
deriving Repr

/-- What reading a form gives. -/
inductive Outcome
  /-- The trees, and the index of the next token. -/
  | read (next : Nat) (trees : List Tree)
  | fail
  /-- A failure behind which no alternative is tried. -/
  | stop
deriving Inhabited

/-- What reading keeps along its way. -/
structure Trail where
  /-- Whether mistakes are looked for. -/
  diagnosing : Bool
  /-- The index of the furthest token that has been looked at. -/
  furthest : Nat
  /-- What has been read as remembered phrases, by the place. -/
  known : Std.TreeMap Nat (List (Phrase × Outcome))

namespace Trail

/-- What has been read as a phrase at a place. -/
def known? (trail : Trail) (p : Phrase) (i : Nat) : Option Outcome :=
  (trail.known.getD i []).lookup p

/-- Remembers what has been read as a phrase at a place. -/
def remember (trail : Trail) (p : Phrase) (i : Nat) (o : Outcome) : Trail :=
  { trail with known := trail.known.insert i ((p, o) :: trail.known.getD i []) }

end Trail

/-- A step of reading. -/
abbrev Reading := StateT Trail (Except Objection)

/-- What a reading refers to: the tokens, and how to read the expression of a replacement field, which
gives a tree or the line of an error. -/
structure Source where
  tokens : Array Token
  readField : List Char → Place → Except Nat (List Tree)

namespace Outcome

/-- The outcome beyond a `bound`. -/
def bounded : Outcome → Outcome
  | stop => fail
  | o => o

end Outcome

namespace Source

variable (s : Source)

/-- Looks at a token. -/
def look (i : Nat) : Reading Token := do
  modify fun trail => if trail.furthest < i then { trail with furthest := i } else trail
  match s.tokens[i]? with
  | none => throw .fault
  | some t => if t.kind == .fault then throw .fault else return t

/-- Gives up at a line. -/
def object {α : Type} (line : Nat) : Reading α := do throw (.mistake line (← get).furthest)

/-- Gives up at the furthest token. -/
def objectHere {α : Type} : Reading α := do
  let furthest := (← get).furthest
  throw (.mistake ((s.tokens[furthest]?.map (·.start.line)).getD 0) furthest)

/-- Takes a token that passes a test and gives a leaf. -/
def takeLeaf (test : Token → Bool) (i : Nat) : Reading Outcome := do
  let t ← s.look i
  return if test t then .read (i + 1) [.leaf t] else .fail

/-- Takes a token that passes a test. -/
def takeSilent (test : Token → Bool) (i : Nat) : Reading Outcome := do
  return if test (← s.look i) then .read (i + 1) [] else .fail

/-- The span of the tokens from `i` up to `j`; layout at the end is left out. -/
def spanOf (i j : Nat) : Span :=
  let rec lastStop : Nat → Place → Place
    | 0, start => start
    | n + 1, start =>
      match s.tokens[n]? with
      | some t => if t.isLayout then lastStop n start else t.stop
      | none => start
  let start := (s.tokens[i]?.map Token.start).getD default
  ⟨start, lastStop j start⟩

/-- The trees of several outcomes in reverse, with those of a further one. -/
def pushAll (trees : List Tree) (reversed : List Tree) : List Tree :=
  trees.foldl (fun r t => t :: r) reversed

/-- Repeats a step while it can be read, at most so many times; the trees are collected in reverse. -/
def repeatStep (step : Nat → Reading Outcome) : Nat → Nat → List Tree → Reading Outcome
  | 0, i, reversed => return .read i reversed.reverse
  | n + 1, i, reversed => do
    match ← step i with
    | .read j trees => repeatStep step n j (pushAll trees reversed)
    | _ => return .read i reversed.reverse

/-- Repeats tails behind a head, each of which takes what was read before as its first part. -/
def extend (start : Place) (tail : Nat → Reading Outcome) : Nat → Nat → Tree → Reading Outcome
  | 0, i, tree => return .read i [tree]
  | n + 1, i, tree => do
    match ← tail i with
    | .read j [.branch label span parts] =>
      extend start tail n j (.branch label ⟨start, span.stop⟩ (tree :: parts))
    | _ => return .read i [tree]

/-- Whether a number literal is imaginary. -/
def isImaginary (t : Token) : Bool :=
  match t.text.toList.getLast? with
  | some c => c = 'j' || c = 'J'
  | none => false

/-- Whether an integer literal in base ten has too many digits. -/
def isTooLong (t : Token) : Bool :=
  let digits := t.text.toList.filter (· != '_')
  4300 < digits.length && digits.all isDigit && digits.head? != some '0'

/-- Takes a number. -/
def takeNumber (part : NumberPart) (i : Nat) : Reading Outcome := do
  let t ← s.look i
  if t.kind != .number then return .fail
  if isTooLong t then object t.start.line
  match part with
  | .real => if isImaginary t then object t.start.line
  | .imaginary => if !isImaginary t then object t.start.line
  | .any => pure ()
  return .read (i + 1) [.leaf t]

/-- Adjacent string literals from a place on. -/
def textTokens : Nat → Nat → Reading (List Token)
  | 0, _ => return []
  | n + 1, i => do
    let t ← s.look i
    if t.kind == .text then return t :: (← textTokens n (i + 1)) else return []

/-- The trees of the pieces of a format string. -/
def readPieces : List Literal.Piece → Reading (List Tree)
  | [] => return []
  | .fault :: _ => s.objectHere
  | .field chars place :: pieces => do
    match s.readField chars place with
    | .ok trees => return trees ++ (← readPieces pieces)
    | .error line => object line

/-- The trees of adjacent string literals; `isBytes` tells what those before are. Byte strings and
texts cannot be mixed, and a byte string holds ASCII characters only. -/
def readLiterals : Option Bool → List Token → Reading (List Tree)
  | _, [] => return []
  | isBytes, t :: ts => do
    let l := Literal.ofText t.text.toList t.start
    if l.isBytes && l.body.any fun c => 128 ≤ c.toNat then object t.start.line
    if !l.isFormat && !l.isValid then s.objectHere
    if isBytes.getD l.isBytes != l.isBytes then s.objectHere
    let trees ← if l.isFormat then s.readPieces l.pieces else pure []
    return trees ++ (← readLiterals (some l.isBytes) ts)

/-- Takes adjacent string literals. -/
def takeTexts (i : Nat) : Reading Outcome := do
  let ts ← s.textTokens s.tokens.size i
  if ts.isEmpty then return .fail
  let trees ← s.readLiterals none ts
  let j := i + ts.length
  return .read j [.branch .texts (s.spanOf i j) trees]

/-- Names that were keywords once. -/
def isFormerKeyword : Tree → Bool
  | .leaf t => t.kind == .word && ["print", "exec"].contains (Text.normalForm t.text)
  | .branch .. => false

/-- The line that a complaint is about, where a form has been read up to `i`. -/
def complaintLine? (c : Complaint) (i : Nat) (trees : List Tree) : Option Nat :=
  match c, trees with
  | .first, t :: _ => some t.line
  | .missingComma, t :: _ =>
    let level := (s.tokens[i - 1]?.map Token.level).getD 0
    if isFormerKeyword t || level = 0 then none else some t.line
  | .formerKeyword, t :: _ => if isFormerKeyword t then some t.line else none
  | .misused use, t :: _ => t.misusedLine? use
  | .generator, .branch _ _ args :: _ =>
    match args.filter fun a => !a.is .keyword with
    | _ :: a :: more => some ((a :: more).getLastD a).line
    | _ => none
  | _, _ => none

end Source

/-- Words that mean something in some places and are names elsewhere. -/
def contextualWords : List String := ["_", "case", "match"]

/-- Whether a token is the word. -/
def Token.isWord (w : String) (t : Token) : Bool :=
  (t.kind == .keyword || t.kind == .word) && t.text == w

/-- Whether a token is the mark. -/
def Token.isMark (m : String) (t : Token) : Bool := t.kind == .mark && t.text == m

namespace Form

variable (s : Source) (readPhrase : Phrase → Nat → Reading Outcome)

mutual

/-- Reads a form from the token with the index `i` on. -/
def read : Form → Nat → Reading Outcome
  | mark m, i => s.takeSilent (Token.isMark m) i
  | word w, i => s.takeSilent (Token.isWord w) i
  | keep m, i => s.takeLeaf (fun t => t.isMark m || t.isWord m) i
  | name, i => s.takeLeaf (·.kind == .word) i
  | contextual, i =>
    s.takeLeaf (fun t => t.kind == .word && contextualWords.any fun w => t.text.isPrefixOf w) i
  | number part, i => s.takeNumber part i
  | texts, i => s.takeTexts i
  | kind k, i => s.takeSilent (·.kind == k) i
  | absent, i => s.takeSilent (fun _ => false) i
  | call p, i => readPhrase p i
  | all fs, i => readAll fs false i []
  | any fs, i => readAny fs i
  | opt f, i => do
    match ← read f i with
    | .read j trees => return .read j trees
    | _ => return .read i []
  | many f, i => Source.repeatStep (fun j => read f j) s.tokens.size i []
  | some f, i => do
    match ← read f i with
    | .read j trees => Source.repeatStep (fun j => read f j) s.tokens.size j trees.reverse
    | o => return o
  | sepBy f separator, i => do
    match ← read f i with
    | .read j trees =>
      let step (k : Nat) : Reading Outcome := do
        if Token.isMark separator (← s.look k) then read f (k + 1) else return .fail
      Source.repeatStep step s.tokens.size j trees.reverse
    | o => return o
  | suffixed head tail, i => do
    match ← read head i with
    | .read j [tree] =>
      Source.extend (s.spanOf i i).start (fun k => read tail k) s.tokens.size j tree
    | .read .. => return .fail
    | o => return o
  | ahead f, i => do
    match ← read f i with
    | .read .. => return .read i []
    | o => return o
  | notAhead f, i => do
    match ← read f i with
    | .read .. => return .fail
    | _ => return .read i []
  | commit, i => return .read i []
  | bound f, i => return (← read f i).bounded
  | forced m, i => do
    let t ← s.look i
    if t.isMark m then return .read (i + 1) [] else Source.object t.start.line
  | branch label f, i => do
    match ← read f i with
    | .read j trees => return .read j [.branch label (s.spanOf i j) trees]
    | o => return o
  | chain label f, i => do
    match ← read f i with
    | .read j [tree] => return .read j [tree]
    | .read j trees => return .read j [.branch label (s.spanOf i j) trees]
    | o => return o
  | skip f, i => do
    match ← read f i with
    | .read j _ => return .read j []
    | o => return o
  | mistake f, i => do
    if (← get).diagnosing then return (← read f i).bounded else return .fail
  | trusting f, i => do
    let diagnosing := (← get).diagnosing
    modify fun trail => { trail with diagnosing := false }
    let o ← read f i
    modify fun trail => { trail with diagnosing := diagnosing }
    return o
  | complain c f, i => do
    match ← read f i with
    | .read j trees =>
      if c = .furthest then s.objectHere
      else match s.complaintLine? c j trees with
        | .some line => Source.object line
        | none => return .stop
    | o => return o

/-- Reads forms one behind the other; behind a `commit`, a failure stops. -/
def readAll : List Form → Bool → Nat → List Tree → Reading Outcome
  | [], _, i, reversed => return .read i reversed.reverse
  | commit :: fs, _, i, reversed => readAll fs true i reversed
  | f :: fs, committed, i, reversed => do
    match ← read f i with
    | .read j trees => readAll fs committed j (Source.pushAll trees reversed)
    | .fail => return if committed then .stop else .fail
    | .stop => return .stop

/-- Reads the first alternative that can be read. -/
def readAny : List Form → Nat → Reading Outcome
  | [], _ => return .fail
  | f :: fs, i => do
    match ← read f i with
    | .fail => readAny fs i
    | o => return o

end
end Form

/-- Reads a phrase. No phrase reads itself again at the same place, so phrases nest at most as deep as
the number of places times that of phrases. -/
def Phrase.read (s : Source) : Nat → Phrase → Nat → Reading Outcome
  | 0, _, _ => return .fail
  | depth + 1, p, i => do
    if p.isRemembered then
      let _ ← s.look i
      match (← get).known? p i with
      | some o => return o
      | none =>
        let o := (← p.form.read s (read s depth) i).bounded
        modify fun trail => trail.remember p i o
        return o
    else return (← p.form.read s (read s depth) i).bounded

end CodeAtlas.Offside
