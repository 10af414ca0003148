import CodeAtlas.Grammar.Table

/-!
# Trees

A derivation is what was read according to the rules, with every phrase that took part in it. A tree
shows of it what has a name: hidden phrases give way to their parts.
-/

namespace CodeAtlas.Grammar

/-- What was read according to a grammar. Places count characters; `gap` is where the blanks before it
begin. -/
inductive Derivation
  | token (token : Nat) (gap start stop : Nat) (extra : Bool)
  | phrase (phrase : Nat) (ending : Ending) (weight : Int) (gap start stop : Nat)
    (parts : List Derivation)
deriving Inhabited

namespace Derivation

/-- The symbol that was read. -/
def symbol : Derivation → Symbol
  | token n .. => .terminal n
  | phrase p .. => .phrase p

/-- Where the blanks before it begin. -/
def gap : Derivation → Nat
  | token _ g _ _ _ => g
  | phrase _ _ _ g _ _ _ => g

/-- Where it begins. -/
def start : Derivation → Nat
  | token _ _ s _ _ => s
  | phrase _ _ _ _ s _ _ => s

/-- Where it ends. -/
def stop : Derivation → Nat
  | token _ _ _ s _ => s
  | phrase _ _ _ _ _ s _ => s

/-- The sum of the weights in it. -/
def weight : Derivation → Int
  | token .. => 0
  | phrase _ _ w .. => w

/-- Whether it stands between the parts of a phrase without being one. -/
def isExtra : Derivation → Bool
  | token _ _ _ _ e => e
  | phrase .. => false

/-- The parts of a phrase. -/
def parts : Derivation → List Derivation
  | token .. => []
  | phrase _ _ _ _ _ _ ps => ps

/-- A phrase from its parts; one without parts stands at `place`. -/
def ofParts (number : Nat) (e : Ending) (place : Nat) (ps : List Derivation) : Derivation :=
  let weight := ps.foldl (fun w p => w + p.weight) e.weight
  match ps with
  | [] => .phrase number e weight place place place []
  | p :: _ => .phrase number e weight p.gap p.start ((ps.getLast?.map stop).getD place) ps

/-- Whether two derivations have the same symbol, place and number of parts. -/
def alike (a b : Derivation) : Bool :=
  a.symbol = b.symbol && a.gap = b.gap && a.start = b.start && a.stop = b.stop &&
    a.parts.length = b.parts.length && a.isExtra = b.isExtra

mutual

/-- Compares derivations by their symbols and numbers of parts, from the outside in and from left to
right. -/
def compare : Derivation → Derivation → Ordering
  | token m .., token n .. => Ord.compare m n
  | token .., phrase .. => .lt
  | phrase .., token .. => .gt
  | phrase p _ _ _ _ _ as, phrase q _ _ _ _ _ bs =>
    (Ord.compare p q).then <| (Ord.compare as.length bs.length).then <| compareAll as bs

/-- Compares derivations one by one. -/
def compareAll : List Derivation → List Derivation → Ordering
  | a :: as, b :: bs => (compare a b).then (compareAll as bs)
  | _, _ => .eq

end

/-- Whether the second of two readings of one text is better. -/
def isWorse (a b : Derivation) : Bool :=
  a.weight < b.weight || (b.weight = a.weight && compare a b = .gt)

end Derivation

/-- What was read, by the names of the grammar. -/
inductive Tree
  | node (kind : String) (role : Option String) (start stop : Nat) (children : List Tree)
deriving Inhabited

namespace Tree

/-- The name of what was read. -/
def kind : Tree → String
  | node k .. => k

/-- The role in the surrounding node. -/
def role : Tree → Option String
  | node _ r .. => r

/-- Where it begins. -/
def start : Tree → Nat
  | node _ _ s .. => s

/-- Where it ends. -/
def stop : Tree → Nat
  | node _ _ _ s _ => s

/-- What it consists of. -/
def children : Tree → List Tree
  | node _ _ _ _ cs => cs

/-- The children with some role. -/
def inRole (t : Tree) (role : String) : List Tree := t.children.filter fun c => c.role = some role

end Tree

mutual

/-- The nodes that a derivation shows, in front of further ones; `role` is for nodes that have none.
Tokens without a name show only if they have a role. -/
def Derivation.shown (t : Table) (role name : Option String) (rest : List Tree) :
    Derivation → List Tree
  | .token n _ start stop _ =>
    let spelling := if role.isSome then (t.tokens.getD n default).spelling else none
    match name <|> t.names.getD n none <|> spelling with
    | some kind => .node kind role start stop [] :: rest
    | none => rest
  | .phrase p e _ _ start stop parts =>
    let own := t.phrases.getD p default
    match name <|> if own.visible then some own.name else none with
    | some kind => .node kind role start stop (shownAll t none e.labels [] parts) :: rest
    | none => shownAll t role e.labels rest parts

/-- The nodes that the parts of a phrase show; parts that are no extras have labels. -/
def Derivation.shownAll (t : Table) (role : Option String) (labels : List Label)
    (rest : List Tree) : List Derivation → List Tree
  | [] => rest
  | d :: ds =>
    if d.isExtra then d.shown t role none (shownAll t role labels rest ds)
    else match labels with
      | l :: ls => d.shown t (l.role <|> role) l.shown (shownAll t role ls rest ds)
      | [] => d.shown t role none (shownAll t role [] rest ds)

end

end CodeAtlas.Grammar
