import CodeAtlas.Offside.Reading

/-!
# Parsing an indented source

A source is read twice at most. The first time no mistakes are looked for. If that fails, the source
is wrong, and it is read again to find out which mistake it holds. If there is none, the error is at
the token at which the first reading came to an end.
-/

namespace CodeAtlas.Offside

namespace TokenList

/-- The line to report where the error is on a line, and tokens up to one on the line `reached` have
been looked at. A malformed token anywhere in the source is reported instead, and so is a bracket that
is never closed, if it was opened before. -/
def errorLine (ts : TokenList) (line reached : Nat) : Nat :=
  match ts.fault with
  | some (.malformed n) => n
  | some (.layout _ (some n)) => if n < reached then n else line
  | _ => line

/-- The line to report where the tokens end in a fault. -/
def faultLine (ts : TokenList) : Nat :=
  match ts.fault with
  | some (.malformed n) => n
  | some (.layout n _) => n
  | none => 0

/-- The line of the token with an index. -/
def lineAt (tokens : Array Token) (i : Nat) : Nat := (tokens[i]?.map (·.start.line)).getD 0

/-- The line to report for an objection. -/
def objectionLine (ts : TokenList) (tokens : Array Token) : Objection → Nat
  | .mistake line furthest => ts.errorLine line (lineAt tokens furthest)
  | .fault => ts.faultLine

/-- The line to report where no mistake has been found: the first reading came to the token `first`,
both together came to `furthest`. -/
def plainErrorLine (ts : TokenList) (tokens : Array Token) (first furthest : Nat) : Nat :=
  match tokens[first]? with
  | some t =>
    if t.kind == .indent || t.kind == .dedent then lineAt tokens furthest
    else ts.errorLine t.start.line (lineAt tokens furthest)
  | none => 0

/-- Reads a phrase at the start of the tokens, or tells the line of the error. -/
def parseWith (readField : List Char → Place → Except Nat (List Tree)) (ts : TokenList)
    (goal : Phrase) : Except Nat (List Tree) :=
  let tokens := ts.tokens.toArray
  let source : Source := ⟨tokens, readField⟩
  let depth := (tokens.size + 1) * Phrase.count
  match (goal.read source depth 0).run ⟨false, 0, ∅⟩ with
  | .error o => .error (ts.objectionLine tokens o)
  | .ok (.read _ trees, _) => .ok trees
  | .ok (_, first) =>
    match (goal.read source depth 0).run ⟨true, first.furthest, ∅⟩ with
    | .error o => .error (ts.objectionLine tokens o)
    | .ok (_, second) => .error (ts.plainErrorLine tokens first.furthest second.furthest)

/-- The tokens of the expression of a replacement field, which is read as if it stood in
parentheses. -/
def ofField (chars : List Char) (place : Place) : TokenList :=
  let cs := endLastLine (unifyLineEnds ('(' :: chars ++ [')']))
  ({ Lexer.start cs with place := place }).run (3 * cs.length + 3)

/-- Reads a phrase at the start of the tokens; format strings nest at most so deep. -/
def parseFor : Nat → TokenList → Phrase → Except Nat (List Tree)
  | 0, _, _ => .error 0
  | depth + 1, ts, goal =>
    ts.parseWith (fun chars place => parseFor depth (ofField chars place) .field) goal

end TokenList

/-- The statements of a source, or the line of the error. -/
def parseTrees (content : String) : Except Nat (List Tree) :=
  (TokenList.ofText content).parseFor (content.length + 1) .source

end CodeAtlas.Offside
