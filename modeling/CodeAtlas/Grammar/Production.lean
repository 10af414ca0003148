import CodeAtlas.Grammar.Rule

/-!
# Productions

The alternatives of a rule, written out as sequences of steps. A mark on a part of a rule holds for
the steps of this part; but the strength with which the last of them holds on to what follows is that
of the surroundings, unless the rule ends there.
-/

namespace CodeAtlas.Grammar

/-- What a step of a production reads. -/
inductive Symbol
  /-- A token, by its number. -/
  | terminal (n : Nat)
  /-- What a rule reads, by the number of the rule. -/
  | phrase (n : Nat)
deriving DecidableEq, Hashable, Repr, Inhabited

namespace Symbol

/-- Tokens go before phrases, and otherwise the smaller number goes first. -/
def before : Symbol → Symbol → Bool
  | terminal m, terminal n => m < n
  | terminal _, phrase _ => true
  | phrase _, terminal _ => false
  | phrase m, phrase n => m < n

end Symbol

/-- How the part of a production that a symbol reads appears in trees. -/
structure Label where
  role : Option String
  shown : Option String
deriving DecidableEq, Repr, Inhabited

/-- A step of a production. -/
structure Step where
  symbol : Symbol
  level : Option Level
  side : Option Side
  label : Label
  anyWord : Bool
deriving DecidableEq, Repr

/-- One alternative of a rule. -/
structure Production where
  steps : List Step
  weight : Int
deriving DecidableEq, Repr

/-- The weight that is further from zero, the first one if both are equally far. -/
def heavier (a b : Int) : Int := if a.natAbs < b.natAbs then b else a

namespace Production

/-- The production that reads nothing. -/
def empty : Production := ⟨[], 0⟩

/-- One production after the other. -/
def append (p q : Production) : Production := ⟨p.steps ++ q.steps, heavier p.weight q.weight⟩

end Production

/-- The last element of a list, changed. -/
def changeLast {α : Type} (f : α → α) : List α → List α
  | [] => []
  | [a] => [f a]
  | a :: as => a :: changeLast f as

/-- The marks around a part of a rule, the innermost of each kind. -/
structure Marks where
  level : Option Level
  side : Option Side
  label : Label
  anyWord : Bool

namespace Marks

/-- No marks. -/
def none : Marks := ⟨.none, .none, ⟨.none, .none⟩, false⟩

/-- The marks inside of a further one. -/
def inside (m : Marks) : Mark → Marks
  | .level l => { m with level := some l }
  | .side s => { m with side := some s }
  | .weight _ => m
  | .role name => { m with label := { m.label with role := some name } }
  | .shown name => { m with label := { m.label with shown := some name } }
  | .anyWord => { m with anyWord := true }

/-- The productions of a part that carries a mark, from those of what it is put on: the last step
holds on to what follows as the surroundings do. -/
def release (m : Marks) : Mark → Production → Production
  | .level _, p => { p with steps := changeLast (fun s => { s with level := m.level }) p.steps }
  | .side _, p => { p with steps := changeLast (fun s => { s with side := m.side }) p.steps }
  | _, p => p

end Marks

/-- The weight that a mark gives. -/
def Mark.weigh : Mark → Production → Production
  | .weight n, p => { p with weight := heavier n p.weight }
  | _, p => p

/-- The productions of a rule without repetitions; `final` says whether the production ends behind
it. -/
def Rule.productions (m : Marks) (final : Bool) : Rule Symbol → List Production
  | .blank => [.empty]
  | .leaf a => [⟨[⟨a, m.level, m.side, m.label, m.anyWord⟩], 0⟩]
  | .seq a b =>
    let rest := b.productions m final
    (a.productions m false).flatMap fun p => rest.map p.append
  | .either a b => a.productions m final ++ b.productions m final
  | .many a => a.productions m final
  | .marked k a =>
    (a.productions (m.inside k) final).map fun p =>
      let p := k.weigh p
      if final then p else m.release k p

/-- The step of an inlined rule in place of the step that names it; `isLast` holds for its last
step. -/
def Step.adopt (named : Step) (isLast : Bool) (s : Step) : Step :=
  { s with
    label := ⟨named.label.role <|> s.label.role, named.label.shown <|> s.label.shown⟩
    level := if isLast then s.level <|> named.level else s.level
    side := if isLast then s.side <|> named.side else s.side }

/-- The steps of an inlined rule in place of the step that names it. -/
def Step.adoptAll (named : Step) : List Step → List Step
  | [] => []
  | [s] => [named.adopt true s]
  | s :: ss => named.adopt false s :: named.adoptAll ss

/-- The productions that come from putting the productions of inlined rules in the place of their
names, with `depth` rules inside of each other at most. -/
def Production.inlined (inlines : Symbol → Option (List Production)) :
    Nat → Production → List Production
  | 0, p => [p]
  | depth + 1, p =>
    p.steps.foldr
      (fun s rests =>
        match inlines s.symbol with
        | none => rests.map fun r => { r with steps := s :: r.steps }
        | some ps =>
          (ps.flatMap (inlined inlines depth)).flatMap fun q =>
            rests.map fun r => (⟨s.adoptAll q.steps, q.weight⟩ : Production).append r)
      [⟨[], p.weight⟩]

end CodeAtlas.Grammar
