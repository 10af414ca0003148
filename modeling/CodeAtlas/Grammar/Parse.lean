import CodeAtlas.Grammar.Lexer
import CodeAtlas.Grammar.Stack

/-!
# Reading texts

`Grammar.parse?` reads a text according to a grammar. Where more than one thing can be done with a
token all of them are tried side by side; readings that come to the same state at the same place
become one again, and of several ways to read a phrase the one of greater weight is kept. A text that
no reading comes to the end of is not read at all.
-/

namespace CodeAtlas.Grammar

/-- Finds tokens by other means than patterns. It is told the text, a place, and the names of the tokens
that make sense there; it tells the name of the token found, and where it begins and ends. -/
abbrev Scanner := Array Char → Nat → List String → Option (String × Nat × Nat)

/-- What is to be read, and how. -/
structure Task where
  table : Table
  scanner : Scanner
  text : Array Char

/-- Readings that are under way. -/
structure Session where
  automaton : Automaton
  stack : Stack
  /-- The best way to read the whole text so far. -/
  result : Option Derivation
  /-- How far a reading has come. -/
  furthest : Nat

/-- A step of the readings. -/
abbrev Run := StateM Session

/-- What came of the actions at a token. -/
inductive Outcome
  /-- The token has been read. -/
  | read
  /-- Phrases have ended before it; a new reading goes on. -/
  | reduced (reading : Nat)
  /-- Phrases have ended before it, and other readings go on. -/
  | joined
  | nothing

namespace Run

/-- The readings. -/
def stack : Run Stack := do return (← get).stack

/-- Changes the readings. -/
def change (f : Stack → Stack) : Run Unit := modify fun s => { s with stack := f s.stack }

/-- Looks something up in the automaton. -/
def ask {α : Type} (m : StateM Automaton α) : Run α := modifyGet fun s =>
  let (a, automaton) := m.run s.automaton
  (a, { s with automaton := automaton })

/-- Makes one reading of two if they are in the same state at the same place. -/
def merge (i j : Nat) : Run Bool := modifyGet fun s =>
  let (stack, merged) := s.stack.merge i j
  (merged, { s with stack := stack })

end Run

namespace Task

/-- How many steps a reading may take for one token. -/
def patience (t : Task) : Nat := 64 * (t.text.size + 16)

/-- The next token from a place on that makes sense in a state, and whether it is a keyword. -/
def next (t : Task) (state place : Nat) : Run (Option (Lexeme × Bool)) := do
  let mode ← Run.ask (Automaton.modeOf t.table state)
  let found := if mode.outside.isEmpty then none else t.scanner t.text place mode.outside
  let strange : Option Lexeme := match found with
    | some (name, start, stop) => (t.table.outside.lookup name).map fun n => ⟨n, start, stop⟩
    | none => none
  match strange with
  | some l =>
    let actions ← Run.ask (Automaton.actionsAt t.table state l.token)
    if !(l.stop ≤ place && actions.head? = some .skip) then return some (l, false)
  | none => pure ()
  match t.table.lex t.text place mode with
  | none => return none
  | some l =>
    match t.table.keyword t.text mode l with
    | some k => return some ({ l with token := k }, true)
    | none => return some (l, false)

/-- Goes on with the new readings from `version` on, one for each way to the bottom of a phrase that has
ended; `older` is the number of readings before them. -/
def goOnFrom (t : Task) (r : Reduction) (version halted : Nat) :
    Nat → List (Nat × List (List Derivation)) → Run Unit
  | _, [] => pure ()
  | n, (bottom, ways) :: rest => do
    if Stack.maxReadings + 4 + halted < n then
      Run.change fun s => s.drop n
      t.goOnFrom r version halted n rest
    else
      let s ← Run.stack
      let base := s.vertex bottom
      match Stack.bestPhrase r base.place ways with
      | none => t.goOnFrom r version halted (n + 1) rest
      | some (phrase, extras) =>
        let state ← Run.ask (Automaton.move t.table base.state (.phrase r.phrase))
        Run.change fun s => extras.foldl (fun s e => s.push n e state) (s.push n phrase state)
        let merged ← mergeWithOlder version n (List.range n)
        t.goOnFrom r version halted (if merged then n else n + 1) rest
where
  /-- Joins the reading `n` to the first older one that it agrees with. -/
  mergeWithOlder (version n : Nat) : List Nat → Run Bool
    | [] => return false
    | j :: js => do
      if j = version then mergeWithOlder version n js
      else if ← Run.merge j n then return true
      else mergeWithOlder version n js

/-- Ends a phrase in a reading; the readings that come of it are new ones. Says where they begin, if any
of them did not become part of an older one. -/
def reduce (t : Task) (version : Nat) (r : Reduction) : Run (Option Nat) := do
  let s ← Run.stack
  let older := s.tops.size
  let groups := s.below version (some r.count)
  let halted := (s.tops.filter fun p => p.status = .over).size
  Run.change fun s => { s with
    tops := groups.foldl (fun tops g => tops.push ⟨g.1, .active⟩) s.tops }
  t.goOnFrom r version halted older groups
  return if older < (← Run.stack).tops.size then some older else none

/-- The phrase of a whole text, with the extras around it taken in. -/
def wholeText (parts : List Derivation) : Option Derivation :=
  let before := parts.takeWhile Derivation.isExtra
  match parts.dropWhile Derivation.isExtra with
  | .phrase p e w g start stop own :: behind =>
    some (.phrase p e w g start stop (before ++ own ++ behind))
  | _ => none

/-- Ends the text in a reading. -/
def accept (version : Nat) : Run Unit := modify fun s =>
  let ways := (s.stack.below version none).flatMap Prod.snd
  let result := ways.foldl (fun best parts =>
    match wholeText parts, best with
    | some d, some b => if Derivation.isWorse b d then some d else some b
    | some d, none => some d
    | none, best => best) s.result
  { s with stack := s.stack.setStatus version .over, result := result }

/-- Does what can be done with a token. -/
def perform (t : Task) (version place : Nat) (l : Lexeme) (did : Bool) (last : Option Nat) :
    List Action → Run Outcome
  | [] => return match last with
    | some n => .reduced n
    | none => if did then .joined else .nothing
  | .shift :: _ => do
    let state := ((← Run.stack).topVertex version).state
    let state ← Run.ask (Automaton.move t.table state (.terminal l.token))
    Run.change fun s => s.push version (.token l.token place l.start l.stop false) state
    return .read
  | .skip :: _ => do
    Run.change fun s =>
      s.push version (.token l.token place l.start l.stop true) (s.topVertex version).state
    return .read
  | .accept :: _ => do
    accept version
    return .read
  | .reduce r :: rest => do
    let new ← t.reduce version r
    t.perform version place l true (new <|> last) rest

/-- Goes on in a reading until it has read a token. A keyword that nothing can be done with is a name
if it is not reserved. -/
def readToken (t : Task) (version place : Nat) : Nat → Lexeme → Bool → Run Unit
  | 0, _, _ => Run.change fun s => s.setStatus version .stuck
  | fuel + 1, l, isKeyword => do
    let state := ((← Run.stack).topVertex version).state
    let actions ← Run.ask (Automaton.actionsAt t.table state l.token)
    match ← t.perform version place l false none actions with
    | .read => pure ()
    | .reduced n =>
      Run.change fun s => { s with tops := s.tops.setIfInBounds version (s.top n) }
      Run.change fun s => s.drop n
      t.readToken version place fuel l isKeyword
    | .joined => Run.change fun s => s.setStatus version .over
    | .nothing =>
      let mode ← Run.ask (Automaton.modeOf t.table state)
      let asName ← Run.ask (Automaton.actionsAt t.table state t.table.word)
      let isReserved := mode.reserves &&
        t.table.reserved.contains ((t.table.token l.token).spelling.getD "")
      if isKeyword && !isReserved && !asName.isEmpty then
        t.readToken version place fuel { l with token := t.table.word } false
      else Run.change fun s => s.setStatus version .stuck

/-- Reads the next token in a reading. -/
def advance (t : Task) (version : Nat) : Run Unit := do
  let v := (← Run.stack).topVertex version
  match ← t.next v.state v.place with
  | none => Run.change fun s => s.setStatus version .stuck
  | some (l, isKeyword) => t.readToken version v.place t.patience l isKeyword

/-- Goes on in a reading until it is further than all others. -/
def advanceBeyond (t : Task) (version : Nat) : Nat → Run Unit
  | 0 => pure ()
  | fuel + 1 => do
    if ((← Run.stack).top version).status = .active then
      t.advance version
      let place := ((← Run.stack).topVertex version).place
      let furthest := (← get).furthest
      if furthest < place || (0 < version && place = furthest) then
        modify fun s => { s with furthest := place }
      else t.advanceBeyond version fuel

/-- Goes on in all readings from `version` on. -/
def advanceAll (t : Task) : Nat → Nat → Run Unit
  | 0, _ => pure ()
  | fuel + 1, version => do
    if version < (← Run.stack).tops.size then
      t.advanceBeyond version t.patience
      t.advanceAll fuel (version + 1)

/-- Which of two readings is to be kept. -/
inductive Choice
  | keepFirst
  | keepSecond
  | preferFirst
  | preferSecond

/-- Compares two readings: one that goes on is better than one that is stuck. -/
def choose (s : Stack) (i j : Nat) : Choice :=
  let a := s.top i
  let b := s.top j
  if a.status ≠ .stuck ∧ b.status = .stuck then .keepFirst
  else if a.status = .stuck ∧ b.status ≠ .stuck then .keepSecond
  else if (s.vertex a.vertex).weight < (s.vertex b.vertex).weight then .preferSecond
  else .preferFirst

/-- Drops, joins and orders readings: the reading `i` is compared with those from `j` to before it. -/
def condense : Nat → Nat → Nat → Run Unit
  | 0, _, _ => pure ()
  | fuel + 1, i, j => do
    let s ← Run.stack
    if s.tops.size ≤ i then pure ()
    else if (s.top i).status = .over then
      Run.change fun s => s.drop i
      condense fuel i 0
    else if i ≤ j then condense fuel (i + 1) 0
    else match choose s j i with
      | .keepFirst =>
        Run.change fun s => s.drop i
        condense fuel i 0
      | .keepSecond =>
        Run.change fun s => s.drop j
        condense fuel (i - 1) j
      | .preferFirst =>
        if ← Run.merge j i then condense fuel i 0 else condense fuel i (j + 1)
      | .preferSecond =>
        if ← Run.merge j i then condense fuel i 0
        else
          Run.change fun s => { s with
            tops := (s.tops.setIfInBounds i (s.top j)).setIfInBounds j (s.top i) }
          condense fuel i (j + 1)

/-- Reads on until no reading can go on. -/
def readAll (t : Task) : Nat → Run Unit
  | 0 => pure ()
  | fuel + 1 => do
    t.advanceAll t.patience 0
    let readings := (← Run.stack).tops.size
    condense ((readings + 1) * (readings + 2)) 0 0
    Run.change fun s => { s with tops := s.tops.take Stack.maxReadings }
    let tops := (← Run.stack).tops
    if !tops.isEmpty && !tops.all (fun p => p.status = .stuck) then t.readAll fuel

end Task

/-- Reads a text: what it is according to the grammar, if it can be read to its end. -/
def parse? (table : Table) (scanner : Scanner) (text : Array Char) : Option Tree :=
  let t : Task := ⟨table, scanner, text⟩
  let (_, s) := (t.readAll t.patience).run ⟨.start table, .empty, none, 0⟩
  s.result.bind fun d => (d.shown table none none []).head?

end CodeAtlas.Grammar
