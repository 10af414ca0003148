import CodeAtlas.Index.Store
import CodeAtlas.Resolve.NameTable
import CodeAtlas.Text.Cut

/-!
# Linking uses to declarations

Once all files of a generation are extracted, every use is either dropped, because it means
something outside of the project or nothing that is known, or recorded as a reference at the end of
the reference list of its target. The counts of the three outcomes add up to the number of uses.
-/

namespace CodeAtlas

/-- How many uses had which outcome. -/
structure LinkStats where
  resolved : Nat := 0
  droppedExternal : Nat := 0
  droppedUnresolved : Nat := 0
deriving DecidableEq, Repr, Inhabited

/-- The number of uses. -/
def LinkStats.total (s : LinkStats) : Nat :=
  s.resolved + s.droppedExternal + s.droppedUnresolved

/-- A linking that is under way. -/
structure Linking where
  entries : Table String Entry
  stats : LinkStats

/-- The target of a use: its declaration, if its site is known, or what its name means. -/
def NameTable.target? (t : NameTable) (entries : Table String Entry) (u : Use) : Option Handle :=
  match u.declaration with
  | some site => ((entries.find? site.file).bind (·.symbolAtStart? site.position)).map Symbol.handle
  | none => t.resolve u

/-- What becomes of a use. -/
inductive Outcome
  | external
  | unresolved
  | target (handle : Handle)
deriving DecidableEq, Repr

/-- What becomes of a use; it hangs on the declarations alone, and not on references so far. -/
def NameTable.outcome (t : NameTable) (entries : Table String Entry) (u : Use) : Outcome :=
  if t.isExternal u then .external
  else match t.target? entries u with
    | none => .unresolved
    | some h => .target h

/-- The place of a slot in a list of `n` symbols; a negative slot counts from the end. -/
def slotPlace? (n : Nat) (slot : Int) : Option Nat :=
  let i := if slot < 0 then slot + n else slot
  if 0 ≤ i ∧ i < n then some i.toNat else none

namespace Linking

/-- Records a reference at its target. -/
def record (l : Linking) (r : Reference) : Except Error Linking :=
  match l.entries.find? r.target.file with
  | none => .error (.noSymbol r.target.file r.target.slot)
  | some e => match slotPlace? e.symbols.length r.target.slot with
    | none => .error .indexOutOfRange
    | some place =>
      .ok { entries := l.entries.insert r.target.file (e.addReference place r)
            stats := { l.stats with resolved := l.stats.resolved + 1 } }

/-- Takes up a use that has the outcome. -/
def step (generation : Int) (l : Linking) (u : Use) : Outcome → Except Error Linking
  | .external => .ok { l with stats.droppedExternal := l.stats.droppedExternal + 1 }
  | .unresolved => .ok { l with stats.droppedUnresolved := l.stats.droppedUnresolved + 1 }
  | .target h => l.record ⟨u.file, u.range, h, generation⟩

/-- Takes up uses until one fails. -/
def run (outcome : Use → Outcome) (generation : Int) (l : Linking) :
    List Use → Linking × Option Error
  | [] => (l, none)
  | u :: us => match l.step generation u (outcome u) with
    | .ok l => run outcome generation l us
    | .error e => (l, some e)

end Linking

/-- Links uses to the symbols of a generation. Entries of another generation are refused. With an
error come the entries as they are when it arises. -/
def link (roots : List Path) (uses : List Use) (entries : Table String Entry) (generation : Int) :
    Table String Entry × Except Error LinkStats :=
  match entries.values.find? fun e => e.generation ≠ generation with
  | some e => (entries, .error (.staleGeneration e.generation generation))
  | none =>
    let t := NameTable.ofEntries roots entries.values
    match Linking.run (t.outcome entries) generation ⟨entries, {}⟩ uses with
    | (l, none) => (l.entries, .ok l.stats)
    | (l, some e) => (l.entries, .error e)

end CodeAtlas
