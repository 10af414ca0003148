import CodeAtlas.Grammar.Automaton
import CodeAtlas.Grammar.Tree

/-!
# Stacks with several tops

Several readings of one text are kept at once. What they have in common is kept once: a vertex stands
for everything that leads to one state at one place, and its links say what was read last, each by
one way of reading. A phrase is ended by taking its parts off the stack along every way.
-/

namespace CodeAtlas.Grammar

/-- What was read last, and the vertex before it. -/
structure Link where
  vertex : Nat
  part : Derivation
deriving Inhabited

/-- A state at a place, with the ways that lead to it. -/
structure Vertex where
  state : Nat
  place : Nat
  links : List Link
  /-- The greatest weight of all that leads here. -/
  weight : Int
deriving Inhabited

/-- Whether a reading goes on. -/
inductive Status
  | active
  /-- It cannot go on. -/
  | stuck
  /-- It has ended, or has become part of others. -/
  | over
deriving DecidableEq, Repr, Inhabited

/-- The top of a reading. -/
structure Top where
  vertex : Nat
  status : Status
deriving Inhabited

/-- The readings of a text, the preferred ones first. -/
structure Stack where
  vertices : Array Vertex
  tops : Array Top
deriving Inhabited

namespace Stack

/-- How many readings there may be. -/
def maxReadings : Nat := 6

/-- How many ways may lead to a vertex. -/
def maxLinks : Nat := 8

/-- How many ways down the stack are followed at once. -/
def maxWalks : Nat := 64

/-- The stack with nothing read. -/
def empty : Stack := ⟨#[⟨0, 0, [], 0⟩], #[⟨0, .active⟩]⟩

/-- A vertex by its number. -/
def vertex (s : Stack) (n : Nat) : Vertex := s.vertices.getD n default

/-- A top by its number. -/
def top (s : Stack) (n : Nat) : Top := s.tops.getD n default

/-- The vertex on top of a reading. -/
def topVertex (s : Stack) (n : Nat) : Vertex := s.vertex (s.top n).vertex

/-- Changes the status of a reading. -/
def setStatus (s : Stack) (n : Nat) (status : Status) : Stack :=
  { s with tops := s.tops.modify n fun t => { t with status := status } }

/-- Drops a reading. -/
def drop (s : Stack) (n : Nat) : Stack := { s with tops := s.tops.eraseIdxIfInBounds n }

/-- Puts what was read on top of a reading. -/
def push (s : Stack) (n : Nat) (d : Derivation) (state : Nat) : Stack :=
  let below := (s.top n).vertex
  let v : Vertex := ⟨state, d.stop, [⟨below, d⟩], (s.vertex below).weight + d.weight⟩
  let number := s.vertices.size
  { s with
    vertices := s.vertices.push v
    tops := s.tops.modify n fun t => { t with vertex := number } }

/-- Raises the weight of a vertex. -/
def raise (s : Stack) (n : Nat) (weight : Int) : Stack :=
  { s with vertices := s.vertices.modify n fun v => { v with weight := max v.weight weight } }

/-- Adds a way to a vertex. Of two ways with the same parts the better one is kept, and where only
what lies below differs the vertices below become one. -/
def addLink : Nat → Nat → Link → Stack → Stack
  | 0, _, _, s => s
  | fuel + 1, n, link, s =>
    if link.vertex = n then s
    else
      let v := s.vertex n
      let below := s.vertex link.vertex
      let weight := below.weight + link.part.weight
      let same := v.links.findIdx? fun l =>
        l.part.alike link.part && (l.vertex = link.vertex ||
          (let w := s.vertex l.vertex; w.state = below.state && w.place = below.place))
      match same with
      | some i =>
        let old := v.links.getD i default
        if old.vertex = link.vertex then
          if old.part.weight < link.part.weight then
            { s with vertices := s.vertices.modify n fun v =>
                { v with links := v.links.set i link, weight := weight } }
          else s
        else (below.links.foldl (fun s l => addLink fuel old.vertex l s) s).raise n weight
      | none =>
        if v.links.length = maxLinks then s
        else
          let s := { s with vertices := s.vertices.modify n fun v =>
            { v with links := v.links ++ [link] } }
          s.raise n weight

/-- Makes one reading of two that are in the same state at the same place; says whether it did. -/
def merge (s : Stack) (i j : Nat) : Stack × Bool :=
  let v := s.topVertex i
  let w := s.topVertex j
  if (s.top i).status = .active && (s.top j).status = .active && v.state = w.state &&
      v.place = w.place then
    let target := (s.top i).vertex
    ((w.links.foldl (fun s l => addLink (s.vertices.size + 1) target l s) s).drop j, true)
  else (s, false)

/-- A way down the stack: where it has come to, and what lies above. -/
structure Walk where
  vertex : Nat
  parts : List Derivation
  /-- How many of the parts are no extras. -/
  count : Nat

/-- One step down of all ways: those that have arrived, and those that go on. -/
def walkOnce (s : Stack) (count : Option Nat) (walks : List Walk) :
    List (Nat × List Derivation) × List Walk :=
  let goOn (w : Walk) (l : Link) : Walk :=
    ⟨l.vertex, l.part :: w.parts, if l.part.isExtra then w.count else w.count + 1⟩
  let all := walks.foldl
    (fun (acc : (List (Nat × List Derivation) × List Walk) × (List Walk × Nat)) w =>
      let links := (s.vertex w.vertex).links
      let arrived : Bool := match count with
        | some n => w.count = n
        | none => links.isEmpty
      let found := if arrived then (w.vertex, w.parts) :: acc.1.1 else acc.1.1
      match if arrived then [] else links with
      | [] => ((found, acc.1.2), (acc.2.1, acc.2.2 - 1))
      | l :: ls =>
        let more := ls.take (maxWalks - acc.2.2)
        ((found, goOn w l :: acc.1.2),
          ((more.map (goOn w)).reverse ++ acc.2.1, acc.2.2 + more.length)))
    (([], []), ([], walks.length))
  (all.1.1.reverse, all.1.2.reverse ++ all.2.1.reverse)

/-- The parts above each vertex that is reached by going down over `count` parts, or to the bottom. -/
def walkAll (s : Stack) (count : Option Nat) :
    Nat → List Walk → List (Nat × List Derivation)
  | 0, _ => []
  | _, [] => []
  | fuel + 1, walks =>
    let (found, more) := s.walkOnce count walks
    found ++ s.walkAll count fuel more

/-- Puts what has a key to the others with this key. -/
def gather {α : Type} (groups : List (Nat × List α)) (key : Nat) (a : α) : List (Nat × List α) :=
  match groups with
  | [] => [(key, [a])]
  | (k, as) :: rest =>
    if k = key then (k, as ++ [a]) :: rest else (k, as) :: gather rest key a

/-- The ways over `count` parts down from the top of a reading, or to the bottom, by the vertices that
they lead to. -/
def below (s : Stack) (n : Nat) (count : Option Nat) : List (Nat × List (List Derivation)) :=
  (s.walkAll count (s.vertices.size + 1) [⟨(s.top n).vertex, [], 0⟩]).foldl
    (fun groups w => gather groups w.1 w.2) []

/-- The parts of a phrase, and the extras behind it. -/
def splitExtras (parts : List Derivation) : List Derivation × List Derivation :=
  let extras := (parts.reverse.takeWhile Derivation.isExtra).reverse
  (parts.take (parts.length - extras.length), extras)

/-- The best way to make a phrase of one of several sequences of parts, with the extras behind it. -/
def bestPhrase (r : Reduction) (place : Nat) :
    List (List Derivation) → Option (Derivation × List Derivation)
  | [] => none
  | parts :: rest =>
    let make (parts : List Derivation) : Derivation × List Derivation :=
      let (own, extras) := splitExtras parts
      (.ofParts r.phrase r.ending place own, extras)
    some (rest.foldl (fun best parts =>
      let other := make parts
      if best.1.isWorse other.1 then other else best) (make parts))

end Stack
end CodeAtlas.Grammar
