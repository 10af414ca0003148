import CodeAtlas.Grammar.Table

/-!
# States of a reading

A state is the set of places in productions that a reading may have come to, each with the tokens
that may follow its phrase. States are made when a reading first needs them and kept in an
`Automaton`. Where a token may be read as part of a longer phrase, or may end one or more phrases,
levels and sides decide; what they leave open is all tried.
-/

namespace CodeAtlas.Grammar

/-- A place that a reading may have come to, with the tokens that may follow the phrase. -/
structure Item where
  spot : Nat
  ahead : Ahead
deriving DecidableEq, Repr, Inhabited

/-- Different sets mostly have different hashes. -/
instance : Hashable Item where
  hash i := mixHash (hash i.spot)
    (mixHash (hash (i.ahead.set % 4294967291)) (mixHash (hash i.ahead.set) (hash i.ahead.anyWord)))

/-- A state of a reading. -/
structure State where
  /-- The places behind a step that has been read, by their numbers. -/
  kernel : List Item
  /-- The places at the start of phrases that may come next. -/
  starts : List Item
deriving Inhabited

/-- A finished phrase. -/
structure Reduction where
  phrase : Nat
  /-- How many parts it has. -/
  count : Nat
  ending : Ending
deriving DecidableEq, Repr

/-- What a reading may do with the next token. -/
inductive Action
  /-- Read it as part of a phrase. -/
  | shift
  /-- Read it between the parts of a phrase. -/
  | skip
  /-- End a phrase before it. -/
  | reduce (r : Reduction)
  /-- End the text. -/
  | accept
deriving DecidableEq, Repr

/-- Which tokens make sense in a state. -/
structure Mode where
  /-- The tokens to look for; words stand for all tokens that are words. -/
  tokens : List Nat
  /-- The tokens to be read by other means. -/
  outside : List String
  /-- Whether the text may end. -/
  mayEnd : Bool
  /-- Whether reserved words are no names. -/
  reserves : Bool
  /-- All tokens that something can be done with, a bit for each. -/
  allowed : Nat
deriving Inhabited

/-- The states that a reading has needed so far, and what was found out about them. -/
structure Automaton where
  states : Array State
  numbers : Std.HashMap (List Item) Nat
  moves : Std.HashMap (Nat × Symbol) Nat
  actions : Std.HashMap (Nat × Nat) (List Action)
  modes : Std.HashMap Nat Mode

namespace Table

/-- What an element of an order says about a phrase of some level. -/
def ranks (t : Table) (r : Rank) (level : Option Level) (phrases : List Nat) : Bool :=
  match r with
  | .level s => level = some (.named s)
  | .rule name => phrases.any fun p => (t.phrases.getD p default).name = name

/-- How two phrases compare in one order: the one that comes first is stronger. -/
def compareIn (t : Table) (l : Option Level) (lp : List Nat) (r : Option Level) (rp : List Nat) :
    Bool → Bool → List Rank → Ordering
  | _, _, [] => .eq
  | seenLeft, seenRight, k :: ks =>
    if t.ranks k l lp then
      if seenRight then .lt else t.compareIn l lp r rp true seenRight ks
    else if t.ranks k r rp then
      if seenLeft then .gt else t.compareIn l lp r rp seenLeft true ks
    else t.compareIn l lp r rp seenLeft seenRight ks

/-- How the levels of two phrases compare: `gt` if the left one is stronger. -/
def compareLevels (t : Table) (l : Option Level) (lp : List Nat) (r : Option Level)
    (rp : List Nat) : Ordering :=
  let number : Option Level → Option Int := fun l => match l with
    | some (.number n) => some n
    | none => some 0
    | _ => none
  let named := t.orders.foldl (fun o ranks => o.then (t.compareIn l lp r rp false false ranks)) .eq
  match number l, number r with
  | some m, some n => if m = 0 ∧ n = 0 then named else compare m n
  | _, _ => named

/-- The place of an item. -/
def spot (t : Table) (i : Item) : Spot := t.spots.getD i.spot default

/-- The tokens that a symbol may begin with. -/
def begins (t : Table) (s : Symbol) : Ahead := Grammar.begins t.first s

/-- Adds the phrases that may begin where some phrases may begin, as long as anything changes. The
array holds what may follow each phrase. -/
def spread (t : Table) : Nat → List Nat → Array (Option Ahead) → Array (Option Ahead)
  | 0, _, found => found
  | _, [], found => found
  | n + 1, p :: ps, found =>
    let ahead := (found.getD p none).getD .empty
    let next := (t.edges.getD p []).foldl (fun (acc : List Nat × Array (Option Ahead)) e =>
      let more := if e.whole then e.follow.union ahead else e.follow
      match acc.2.getD e.phrase none with
      | some old =>
        let both := old.union more
        if both = old then acc else (e.phrase :: acc.1, acc.2.setIfInBounds e.phrase (some both))
      | none => (e.phrase :: acc.1, acc.2.setIfInBounds e.phrase (some more))) (ps, found)
    t.spread n next.1 next.2

/-- The state with the given places behind a step. -/
def close (t : Table) (kernel : List Item) : State :=
  let seeds := kernel.flatMap fun i =>
    ((t.spot i).edges t.spots t.first t.word).map fun e =>
      (e.phrase, if e.whole then e.follow.union i.ahead else e.follow)
  let found := seeds.foldl (fun (found : Array (Option Ahead)) s =>
    found.modify s.1 fun old => some ((old.getD .empty).union s.2))
    (Array.replicate t.roots.size none)
  let fuel := t.roots.size * (t.finish + 3) + seeds.length
  let all := t.spread fuel (seeds.map Prod.fst) found
  { kernel := kernel
    starts := all.toList.zipIdx.filterMap fun a =>
      a.1.map fun ahead => ⟨t.roots.getD a.2 0, ahead⟩ }

/-- Puts an item in order into others; items at one place become one. -/
def insertItem (i : Item) : List Item → List Item
  | [] => [i]
  | j :: js =>
    if i.spot < j.spot then i :: j :: js
    else if i.spot = j.spot then ⟨i.spot, i.ahead.union j.ahead⟩ :: js
    else j :: insertItem i js

/-- The places behind a symbol, from the places of a state. -/
def kernelBehind (t : Table) (s : State) (x : Symbol) : List Item :=
  (s.kernel ++ s.starts).foldl (fun items i =>
    (t.spot i).next.foldl (fun items n =>
      if n.1.symbol = x then insertItem ⟨n.2, i.ahead⟩ items else items) items) []

/-- The tokens that may be read as part of a phrase in a state. -/
def shiftable (t : Table) (s : State) : Nat :=
  s.kernel.foldl (fun a i =>
    (t.spot i).next.foldl (fun a n => a ||| (t.begins n.1.symbol).set) a) 0

/-- The tokens that may end a phrase in a state. -/
def reducible (t : Table) (s : State) : Nat :=
  (s.kernel ++ s.starts).foldl (fun a i =>
    if (t.spot i).endings.isEmpty then a else a ||| i.ahead.set) 0

/-- The finished phrases that are still in question at a token, and how they hold on to it. -/
structure Rivals where
  actions : List Action
  level : Option Level
  phrases : List Nat
  left : Bool
  right : Bool
  neither : Bool
  /-- Whether more than one action is left. -/
  open_ : Bool

/-- A further finished phrase: it wins against weaker ones, and gives way to stronger ones. -/
def addRival (t : Table) (r : Rivals) (s : Spot) (e : Ending) : Rivals :=
  let action : Action :=
    if s.phrase = t.whole then .accept else .reduce ⟨s.phrase, s.depth, e⟩
  let joined (r : Rivals) : Rivals :=
    { r with
      level := s.level
      phrases := if r.phrases.contains s.phrase then r.phrases else r.phrases ++ [s.phrase]
      left := r.left || s.side = some .left
      right := r.right || s.side = some .right
      neither := r.neither || s.side = none }
  if r.actions.isEmpty then joined { r with actions := [action] }
  else match t.compareLevels s.level [s.phrase] r.level r.phrases with
    | .gt => joined ⟨[action], none, [], false, false, false, false⟩
    | .eq => joined { r with actions := r.actions ++ [action], open_ := true }
    | .lt => r

/-- The finished phrases that a token may end in a state. -/
def rivals (t : Table) (s : State) (token : Nat) : Rivals :=
  (s.kernel ++ s.starts).foldl (fun r i =>
    if i.ahead.contains token then
      let spot := t.spot i
      spot.endings.foldl (fun r e => t.addRival r spot e) r
    else r) ⟨[], none, [], false, false, false, false⟩

/-- The actions at a token that may be part of a phrase as well as end one: levels decide, then
sides. A repetition is always ended as soon as possible. -/
def decide_ (t : Table) (s : State) (token : Nat) (r : Rivals) : List Action :=
  let spots := s.kernel.map fun i => (i, t.spot i)
  let shifting := spots.filter fun p =>
    0 < p.2.depth && p.2.next.any fun n => (t.begins n.1.symbol).contains token
  let ending := (s.kernel ++ s.starts).filter fun i =>
    !(t.spot i).endings.isEmpty && i.ahead.contains token
  let involved := ((shifting.map fun p => p.2.phrase) ++ ending.map fun i => (t.spot i).phrase).filter
    (· != t.whole)
  let single := match involved with
    | [] => none
    | p :: ps => if ps.all (· = p) then some p else none
  if (single.map fun p => (t.phrases.getD p default).repetition).getD false then r.actions
  else
    let orders := shifting.map fun p => t.compareLevels p.2.level [p.2.phrase] r.level r.phrases
    let stronger := orders.contains .gt
    let weaker := orders.contains .lt
    if weaker && !stronger then r.actions
    else if stronger && !weaker then [.shift]
    else if stronger && weaker then r.actions ++ [.shift]
    else if r.left && !r.right && !r.neither then r.actions
    else if r.right && !r.left && !r.neither then [.shift]
    else r.actions ++ [.shift]

/-- What a reading may do with a token in a state. -/
def actionsAt (t : Table) (s : State) (token : Nat) : List Action :=
  let r := t.rivals s token
  let shifts := (t.shiftable s).testBit token
  let chosen :=
    if !shifts then r.actions
    else if r.actions.isEmpty then [.shift]
    else t.decide_ s token r
  if chosen.isEmpty && t.extras.contains token then [.skip] else chosen

/-- Whether reserved words are no names in a state: a name may come next, and not just any word. -/
def reservesWords (t : Table) (s : State) : Bool :=
  let word : Symbol := .terminal t.word
  let steps := (s.kernel ++ s.starts).flatMap fun i =>
    (t.spot i).next.filterMap fun n => if n.1.symbol = word then some n.1.anyWord else none
  let ends := (s.kernel ++ s.starts).filterMap fun i =>
    if !(t.spot i).endings.isEmpty && i.ahead.contains t.word then some i.ahead.anyWord else none
  let all := steps ++ ends
  !t.reserved.isEmpty && !all.isEmpty && !all.any id

/-- Which tokens make sense in a state. -/
def modeOf (t : Table) (s : State) : Mode :=
  let allowed := t.extras.foldl (fun a n => a ||| 1 <<< n) (t.shiftable s ||| t.reducible s)
  let isKeyword (n : Nat) : Bool :=
    match (t.tokens.getD n default).spelling with
    | some w => t.keywords[w]? = some n
    | none => false
  let reserves := t.reservesWords s
  let plain := (List.range t.tokens.size).filter fun n =>
    if n = t.word then
      allowed.testBit n || reserves ||
        (List.range t.tokens.size).any fun k => allowed.testBit k && isKeyword k
    else allowed.testBit n && !isKeyword n
  { tokens := plain
    outside := (t.outside.filter fun o => allowed.testBit o.2).map Prod.fst
    mayEnd := allowed.testBit t.finish
    reserves := reserves
    allowed := allowed }

end Table

namespace Automaton

/-- The automaton that has only the state before the text, which has the number zero. -/
def start (t : Table) : Automaton :=
  let kernel : List Item := [⟨t.roots.getD t.whole 0, .single t.finish false⟩]
  ⟨#[t.close kernel], Std.HashMap.ofList [(kernel, 0)], ∅, ∅, ∅⟩

/-- A state by its number. -/
def state (a : Automaton) (n : Nat) : State := a.states.getD n default

/-- The state that a state leads to with a symbol. -/
def move (t : Table) (n : Nat) (x : Symbol) : StateM Automaton Nat := do
  let a ← get
  match a.moves[(n, x)]? with
  | some k => return k
  | none =>
    let kernel := t.kernelBehind (a.state n) x
    match a.numbers[kernel]? with
    | some k => modifyGet fun a => (k, { a with moves := a.moves.insert (n, x) k })
    | none =>
      let s := t.close kernel
      modifyGet fun a =>
        let k := a.states.size
        (k, { a with
          states := a.states.push s
          numbers := a.numbers.insert kernel k
          moves := a.moves.insert (n, x) k })

/-- What a reading may do with a token in a state. -/
def actionsAt (t : Table) (n token : Nat) : StateM Automaton (List Action) := do
  let a ← get
  match a.actions[(n, token)]? with
  | some as => return as
  | none =>
    let as := t.actionsAt (a.state n) token
    modifyGet fun a => (as, { a with actions := a.actions.insert (n, token) as })

/-- Which tokens make sense in a state. -/
def modeOf (t : Table) (n : Nat) : StateM Automaton Mode := do
  let a ← get
  match a.modes[n]? with
  | some m => return m
  | none =>
    let m := t.modeOf (a.state n)
    modifyGet fun a => (m, { a with modes := a.modes.insert n m })

end Automaton
end CodeAtlas.Grammar
