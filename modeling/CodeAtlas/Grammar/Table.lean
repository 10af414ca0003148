import Std.Data.HashMap
import CodeAtlas.Grammar.Prefixes

/-!
# Tables of a grammar

`Table.ofGrammar` numbers the tokens and phrases of a grammar, turns repetitions into rules of their
own, writes out the productions, and finds out with which tokens each phrase may begin.
-/

namespace CodeAtlas.Grammar

/-- A set of tokens that may come next, and whether any word may be a name there. -/
structure Ahead where
  /-- The set, a bit for each token. -/
  set : Nat
  anyWord : Bool
deriving DecidableEq, Repr, Inhabited

namespace Ahead

/-- No token. -/
def empty : Ahead := ⟨0, false⟩

/-- The tokens of either set. -/
def union (a b : Ahead) : Ahead := ⟨a.set ||| b.set, a.anyWord || b.anyWord⟩

/-- A single token. -/
def single (n : Nat) (anyWord : Bool) : Ahead := ⟨1 <<< n, anyWord⟩

/-- Whether a token is in the set. -/
def contains (a : Ahead) (n : Nat) : Bool := a.set.testBit n

end Ahead

/-- What is read according to one rule. -/
structure Phrase where
  name : String
  /-- Whether trees show it. -/
  visible : Bool
  /-- Whether it is a repetition that the grammar does not name. -/
  repetition : Bool
deriving Repr, Inhabited

/-- A phrase that may begin where another one begins. -/
structure Edge where
  phrase : Nat
  /-- The tokens that may follow it. -/
  follow : Ahead
  /-- Whether it may be all of the other one. -/
  whole : Bool
deriving Repr, Inhabited

/-- A grammar in numbers. Tokens come first, then tokens that are read by other means, then the end of
the text. -/
structure Table where
  tokens : Array Token
  /-- The names that trees show for tokens. -/
  names : Array (Option String)
  /-- The tokens that are read by other means, by their names. -/
  outside : List (String × Nat)
  /-- The number of the end of the text. -/
  finish : Nat
  phrases : Array Phrase
  /-- The phrase that is the whole text with its end. -/
  whole : Nat
  spots : Spots
  /-- Where the places of each phrase begin. -/
  roots : Array Nat
  /-- The tokens that each phrase may begin with. -/
  first : Array Ahead
  /-- The phrases that each phrase may begin with. -/
  edges : Array (List Edge)
  orders : List (List Rank)
  blanks : CharSet
  extras : List Nat
  /-- The number of the token that words are. -/
  word : Nat
  /-- The words that are tokens of their own. -/
  keywords : Std.HashMap String Nat
  reserved : List String

/-- The leaves of a rule, from left to right. -/
def Rule.leaves {α : Type} : Rule α → List α
  | .blank => []
  | .leaf a => [a]
  | .seq a b | .either a b => a.leaves ++ b.leaves
  | .many a | .marked _ a => a.leaves

/-- The rule with other leaves. -/
def Rule.map {α β : Type} (f : α → β) : Rule α → Rule β
  | .blank => .blank
  | .leaf a => .leaf (f a)
  | .seq a b => .seq (a.map f) (b.map f)
  | .either a b => .either (a.map f) (b.map f)
  | .many a => .many (a.map f)
  | .marked m a => .marked m (a.map f)

/-- Gives every repetition in a rule a number of its own, from `base` on; equal repetitions share one.
The repetitions so far are kept as a state. -/
def Rule.nameRepetitions (base : Nat) : Rule Symbol → StateM (Array (Rule Symbol)) (Rule Symbol)
  | .blank => return .blank
  | .leaf a => return .leaf a
  | .seq a b => return .seq (← a.nameRepetitions base) (← b.nameRepetitions base)
  | .either a b => return .either (← a.nameRepetitions base) (← b.nameRepetitions base)
  | .marked m a => return .marked m (← a.nameRepetitions base)
  | .many a => do
    let a ← a.nameRepetitions base
    let known ← get
    match known.findIdx? (· == a) with
    | some i => return .leaf (.phrase (base + i))
    | none =>
      set (known.push a)
      return .leaf (.phrase (base + known.size))

/-- Whether a name is to be kept out of trees. -/
def isHidden (name : String) : Bool := name.toList.head? = some '_'

/-- The tokens that are written in a grammar, each once. -/
structure Vocabulary where
  tokens : Array Token
  /-- How often each of them is written. -/
  uses : Array Nat

namespace Vocabulary

/-- Counts a token. -/
def add (v : Vocabulary) (t : Token) : Vocabulary :=
  match v.tokens.findIdx? (· == t) with
  | some i => { v with uses := v.uses.modify i (· + 1) }
  | none => ⟨v.tokens.push t, v.uses.push 1⟩

/-- The number of a token. -/
def number (v : Vocabulary) (t : Token) : Nat := (v.tokens.findIdx? (· == t)).getD v.tokens.size

/-- The tokens of a grammar. -/
def ofGrammar (g : Grammar) : Vocabulary :=
  let leaves := g.rules.flatMap fun r => r.2.leaves
  leaves.foldl (fun v l => match l with | .token t => v.add t | .name _ => v) ⟨#[], #[]⟩

/-- The number of the token that a rule gives a name to: it is all of the rule, and written nowhere
else. -/
def named (v : Vocabulary) (name : String) (e : Expr) : Option Nat :=
  match e with
  | .leaf (.token t) =>
    let n := v.number t
    if v.uses.getD n 0 = 1 && (t.spelling.isNone || !isHidden name) then some n else none
  | _ => none

end Vocabulary

/-- What a place may be followed by: the tokens that its further steps begin with. -/
def Spot.follow (first : Symbol → Ahead) (word : Nat) (s : Spot) : Ahead :=
  s.next.foldl (fun a n =>
    a.union (match n.1.symbol with
      | .terminal t => .single t (t = word && n.1.anyWord)
      | .phrase p => first (.phrase p))) .empty

/-- The tokens that each phrase may begin with, from those found so far. -/
def firstRound (spots : Spots) (roots : Array Nat) (word : Nat) (found : Array Ahead) :
    Array Ahead :=
  (List.range roots.size).foldl (fun found p =>
    let root := spots.getD (roots.getD p 0) default
    let ahead := root.follow (fun s => match s with
      | .terminal t => .single t false
      | .phrase q => found.getD q .empty) word
    found.modify p fun a => a.union ahead) found

/-- The tokens that each phrase may begin with, after at most `n` rounds. -/
def firstSets (spots : Spots) (roots : Array Nat) (word : Nat) : Nat → Array Ahead → Array Ahead
  | 0, found => found
  | n + 1, found =>
    let next := firstRound spots roots word found
    if next == found then found else firstSets spots roots word n next

/-- Adds an edge, together with those that lead to the same phrase. -/
def Edge.addTo (e : Edge) : List Edge → List Edge
  | [] => [e]
  | d :: ds =>
    if d.phrase = e.phrase then ⟨d.phrase, d.follow.union e.follow, d.whole || e.whole⟩ :: ds
    else d :: e.addTo ds

/-- The tokens that a symbol may begin with. -/
def begins (first : Array Ahead) : Symbol → Ahead
  | .terminal t => .single t false
  | .phrase p => first.getD p .empty

/-- The phrases that a place may go on with. -/
def Spot.edges (spots : Spots) (first : Array Ahead) (word : Nat) (s : Spot) : List Edge :=
  s.next.foldl (fun es n =>
    match n.1.symbol with
    | .terminal _ => es
    | .phrase p =>
      let target := spots.getD n.2 default
      (⟨p, target.follow (begins first) word, !target.endings.isEmpty⟩ : Edge).addTo es) []

/-- What the names of a grammar stand for. -/
structure Numbering where
  vocabulary : Vocabulary
  /-- The tokens that rules give names to. -/
  named : List (String × Nat)
  /-- The tokens that are read by other means and stand for no token of the grammar. -/
  strangers : List (String × Nat)
  /-- The rules of phrases. -/
  rules : List (String × Expr)
  terminals : Std.HashMap String Nat
  phrases : Std.HashMap String Nat

namespace Numbering

/-- Numbers the tokens and phrases of a grammar. -/
def ofGrammar (g : Grammar) : Numbering :=
  let vocabulary := Vocabulary.ofGrammar g
  let named : List (String × Nat) := (g.rules.drop 1).filterMap fun r =>
    (vocabulary.named r.1 r.2).map fun n => (r.1, n)
  let rules := g.rules.filter fun r => (named.lookup r.1).isNone
  let strangers := (g.outside.filterMap fun o => match o with
    | .name s => if (named.lookup s).isSome then none else some s
    | .token _ => none).zipIdx vocabulary.tokens.size
  { vocabulary := vocabulary
    named := named
    strangers := strangers
    rules := rules
    terminals := Std.HashMap.ofList (strangers ++ named)
    phrases := Std.HashMap.ofList (rules.map Prod.fst).zipIdx }

/-- The number of the end of the text. -/
def finish (m : Numbering) : Nat := m.vocabulary.tokens.size + m.strangers.length

/-- What a leaf stands for. -/
def resolve (m : Numbering) : Leaf → Symbol
  | .token t => .terminal (m.vocabulary.number t)
  | .name s =>
    match m.terminals[s]? with
    | some n => .terminal n
    | none => .phrase (m.phrases.getD s 0)

/-- The tokens that are read by other means, with their numbers. -/
def outside (m : Numbering) (g : Grammar) : List (String × Nat) :=
  g.outside.filterMap fun o => match o with
    | .name s => (m.terminals[s]?).map fun n => (s, n)
    | .token t => t.spelling.map fun s => (s, m.vocabulary.number t)

/-- The rules of all phrases: those that the grammar names, and repetitions. -/
def bodies (m : Numbering) : List (Rule Symbol) :=
  let named : StateM (Array (Rule Symbol)) (List (Rule Symbol)) :=
    m.rules.mapM fun r => (r.2.map m.resolve).nameRepetitions m.rules.length
  let (plain, repetitions) := named.run #[]
  plain ++ repetitions.toList.mapIdx fun i a =>
    let self : Rule Symbol := .leaf (.phrase (m.rules.length + i))
    .either (.seq self self) a

/-- The names that trees show for tokens. -/
def names (m : Numbering) : Array (Option String) :=
  m.named.foldl (fun a n => a.setIfInBounds n.2 (if isHidden n.1 then none else some n.1))
      (Array.replicate m.vocabulary.tokens.size none) ++
    (m.strangers.map fun s => if isHidden s.1 then none else some s.1).toArray

/-- The words that are tokens of their own. -/
def keywords (m : Numbering) (word : Nat) : List (String × Nat) :=
  let wordToken := m.vocabulary.tokens.getD word default
  m.vocabulary.tokens.toList.zipIdx.filterMap fun t =>
    match t.1.spelling with
    | some s => if t.2 != word && wordToken.pattern.accepts s.toList then some (s, t.2) else none
    | none => none

end Numbering

/-- The places in the productions of the phrases with the given rules, with those of the phrase that
is the whole text; and where the places of each phrase begin. -/
def Spots.ofBodies (inlined : List Nat) (bodies : List (Rule Symbol)) : Spots × Array Nat :=
  let productions : Array (List Production) := (bodies.map (Rule.productions .none true)).toArray
  let inlines : Symbol → Option (List Production)
    | .terminal _ => none
    | .phrase n => if inlined.contains n then some (productions.getD n []) else none
  let start : Step := ⟨.phrase 0, none, none, ⟨none, none⟩, false⟩
  let own : List (List Production) := productions.toList.mapIdx fun n ps =>
    if inlined.contains n then [] else ps.flatMap (Production.inlined inlines inlined.length)
  let whole : List Production := [⟨[start], 0⟩]
  (own ++ [whole]).zipIdx.foldl
    (fun (acc : Spots × Array Nat) ps =>
      let next := acc.1.insertAll ps.2 ps.1
      (next.1, acc.2.push next.2)) (#[], #[])

/-- The tables of a grammar. -/
def Table.ofGrammar (g : Grammar) : Table :=
  let m := Numbering.ofGrammar g
  let bodies := m.bodies
  let placed := Spots.ofBodies (g.inlined.filterMap fun s => m.phrases[s]?) bodies
  let spots := placed.1
  let roots := placed.2
  let word := (m.terminals[g.word]?).getD m.finish
  let first := firstSets spots roots word roots.size (Array.replicate roots.size .empty)
  let named : List Phrase := m.rules.map fun r =>
    ⟨r.1, !isHidden r.1 && !g.categories.contains r.1, false⟩
  { tokens := m.vocabulary.tokens
    names := m.names
    outside := m.outside g
    finish := m.finish
    phrases := (named ++ List.replicate (bodies.length - named.length) (Phrase.mk "" false true) ++
      [Phrase.mk "" false false]).toArray
    whole := bodies.length
    spots := spots
    roots := roots
    first := first
    edges := roots.map fun r => (spots.getD r default).edges spots first word
    orders := g.orders
    blanks := g.blanks
    extras := g.extras.filterMap fun s => m.terminals[s]?
    word := word
    keywords := Std.HashMap.ofList (m.keywords word)
    reserved := g.reserved }

end CodeAtlas.Grammar
