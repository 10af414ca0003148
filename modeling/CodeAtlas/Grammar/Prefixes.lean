import CodeAtlas.Grammar.Production

/-!
# Places in productions

The productions of a rule are kept as a tree of places: productions that begin with the same steps
share the places behind these steps. A reading that has come to a place need not know yet which of
the productions it will turn out to be.
-/

namespace CodeAtlas.Grammar

/-- What a finished production tells about the phrase that it makes. -/
structure Ending where
  weight : Int
  /-- One label for each part. -/
  labels : List Label
deriving DecidableEq, Repr, Inhabited

/-- A place in the productions of a rule. -/
structure Spot where
  phrase : Nat
  /-- How many steps lie before the place. -/
  depth : Nat
  /-- The level of the step before the place. -/
  level : Option Level
  /-- The side to which the step before the place groups. -/
  side : Option Side
  /-- The steps that lead on from here, and where they lead. -/
  next : List (Step × Nat)
  /-- The productions that end here. -/
  endings : List Ending
deriving Repr, Inhabited

namespace Spot

/-- The place before the first step of a rule. -/
def root (phrase : Nat) : Spot := ⟨phrase, 0, none, none, [], []⟩

/-- The place behind a further step. -/
def behind (s : Spot) (step : Step) : Spot :=
  ⟨s.phrase, s.depth + 1, step.level, step.side, [], []⟩

end Spot

/-- Places by their numbers. -/
abbrev Spots := Array Spot

namespace Spots

/-- Adds a production whose remaining steps are given, from the place `n` on. -/
def insert (p : Production) : Spots → Nat → List Step → Spots
  | spots, n, [] =>
    let e : Ending := ⟨p.weight, p.steps.map Step.label⟩
    spots.modify n fun s =>
      if s.endings.contains e then s else { s with endings := s.endings ++ [e] }
  | spots, n, step :: steps =>
    let spot := spots.getD n default
    match spot.next.lookup step with
    | some k => insert p spots k steps
    | none =>
      let k := spots.size
      insert p
        ((spots.push (spot.behind step)).modify n fun s => { s with next := s.next ++ [(step, k)] })
        k steps

/-- Adds the productions of a rule, and says where its places begin. -/
def insertAll (spots : Spots) (phrase : Nat) (ps : List Production) : Spots × Nat :=
  let root := spots.size
  (ps.foldl (fun spots p => insert p spots root p.steps) (spots.push (Spot.root phrase)), root)

end Spots
end CodeAtlas.Grammar
