import Mathlib
import CodeAtlas.Proofs.Resolve.Linking

/-!
# Uses of what lies outside of the project

A use that is held to mean something outside of the project is dropped before it is asked what it
means. Nothing is lost by that: such a use, unless it says of itself that it is external, has no
target (`NameTable.target?_of_isExternal`). So linking that asks all other uses what they mean
attaches the same references, or fails with the same error, and drops the same number of uses, if
not for the same reasons (`external_unresolved`).
-/

namespace CodeAtlas

namespace NameTable

/-! ## What is external has no target -/

variable {t : NameTable} {u : Use}

theorem resolve_of_isExternal (hf : u.external = false) (hd : u.declaration = none)
    (h : t.isExternal u = true) : t.resolve u = none := by
  simp only [isExternal, hf, hd] at h
  cases hm : u.module with
  | none => simp [hm] at h
  | some module =>
    -- No file for the hint; then both ask for the file of its parent, under the same condition.
    simp only [hm] at h
    cases hfile : t.moduleFile? module u.file with
    | some file => simp [hfile] at h
    | none =>
      simp only [hfile, Option.isSome_none, Bool.false_eq_true, if_false] at h
      simp only [resolve, hm, resolveImported, hfile]
      split
      · next hparent =>
        rw [if_pos hparent, Option.isNone_iff_eq_none] at h
        rw [h]
        rfl
      · rfl

variable {roots : List Path} {entries : Table String Entry}

/-- Where entries are kept by their paths, a use that is external, and does not say so itself, has
no target. -/
theorem target?_of_isExternal (H : ∀ p e, entries.find? p = some e → e.path = p)
    (hf : u.external = false) (h : (ofEntries roots entries.values).isExternal u = true) :
    (ofEntries roots entries.values).target? entries u = none := by
  rw [target?]
  split
  · next site hd =>
    cases he : entries.find? site.file with
    | none => rfl
    | some e =>
      -- The file of the site has an entry, and so the table has the file.
      have hfile : (ofEntries roots entries.values).hasFile site.file = true :=
        hasFile_ofEntries.2 ⟨e, Table.mem_values.2 ⟨_, he⟩, H _ e he⟩
      simp [isExternal, hf, hd, hfile] at h
  · next hd => exact resolve_of_isExternal hf hd h

end NameTable

/-! ## Dropping uses for one reason or the other -/

/-- What becomes of a use, whatever it is dropped for. -/
def Outcome.lumped : Outcome → Outcome
  | external => unresolved
  | o => o

/-- The counts with all dropped uses in one of them. -/
def LinkStats.lumped (s : LinkStats) : LinkStats :=
  ⟨s.resolved, 0, s.droppedExternal + s.droppedUnresolved⟩

namespace Linking

variable {n : Int} {l l' : Linking} {outcome outcome' : Use → Outcome}

def lumped (l : Linking) : Linking := ⟨l.entries, l.stats.lumped⟩

theorem record_lumped (l : Linking) (r : Reference) :
    (l.record r).map lumped = l.lumped.record r := by
  simp only [record, lumped]
  cases l.entries.find? r.target.file with
  | none => rfl
  | some e =>
    dsimp only
    cases slotPlace? e.symbols.length r.target.slot with
    | none => rfl
    | some place => rfl

theorem step_lumped (l : Linking) (u : Use) (o : Outcome) :
    (l.step n u o).map lumped = l.lumped.step n u o.lumped := by
  cases o with
  | external =>
    simp [step, Outcome.lumped, lumped, LinkStats.lumped, Except.map, Nat.add_right_comm]
  | unresolved => simp [step, Outcome.lumped, lumped, LinkStats.lumped, Except.map, Nat.add_assoc]
  | target h => exact l.record_lumped _

/-- Taking up uses leaves the same behind, whatever they are dropped for, but for the counts of what
is dropped. -/
theorem run_lumped (l : Linking) (us : List Use) :
    run (fun u => (outcome u).lumped) n l.lumped us =
      ((run outcome n l us).1.lumped, (run outcome n l us).2) := by
  induction us generalizing l with
  | nil => rfl
  | cons u us ih =>
    rw [run, run, ← step_lumped]
    cases l.step n u (outcome u) with
    | ok m => exact ih m
    | error e => rfl

end Linking

/-! ## Linking that asks all other uses what they mean -/

/-- What becomes of a use if only its own word is taken for its being external. -/
def NameTable.outcomeUntested (t : NameTable) (entries : Table String Entry) (u : Use) : Outcome :=
  if u.external then .external
  else match t.target? entries u with
    | none => .unresolved
    | some h => .target h

/-- Linking by what is to become of the uses. -/
def linkBy (outcome : NameTable → Table String Entry → Use → Outcome) (roots : List Path)
    (uses : List Use) (entries : Table String Entry) (generation : Int) :
    Table String Entry × Except Error LinkStats :=
  match entries.values.find? fun e => e.generation ≠ generation with
  | some e => (entries, .error (.staleGeneration e.generation generation))
  | none =>
    let t := NameTable.ofEntries roots entries.values
    match Linking.run (outcome t entries) generation ⟨entries, {}⟩ uses with
    | (l, none) => (l.entries, .ok l.stats)
    | (l, some e) => (l.entries, .error e)

theorem link_eq_linkBy (roots : List Path) (uses : List Use) (entries : Table String Entry)
    (n : Int) : link roots uses entries n = linkBy NameTable.outcome roots uses entries n := rfl

section Link

variable {roots : List Path} {uses : List Use} {entries : Table String Entry} {n : Int}

/-- Linking leaves the same behind, whatever uses are dropped for, but for the counts of what is
dropped. -/
theorem linkBy_lumped (outcome : NameTable → Table String Entry → Use → Outcome) :
    linkBy (fun t es u => (outcome t es u).lumped) roots uses entries n =
      ((linkBy outcome roots uses entries n).1,
        (linkBy outcome roots uses entries n).2.map LinkStats.lumped) := by
  rw [linkBy, linkBy]
  cases entries.values.find? fun e => e.generation ≠ n with
  | some e => rfl
  | none =>
    dsimp only
    generalize outcome (NameTable.ofEntries roots entries.values) entries = o
    have hrun : Linking.run (fun u => (o u).lumped) n ⟨entries, {}⟩ uses =
        ((Linking.run o n ⟨entries, {}⟩ uses).1.lumped, (Linking.run o n ⟨entries, {}⟩ uses).2) :=
      Linking.run_lumped ⟨entries, {}⟩ uses
    rw [hrun]
    generalize Linking.run o n ⟨entries, {}⟩ uses = r
    obtain ⟨l, e⟩ := r
    cases e <;> rfl

/-- Where entries are kept by their paths, the test drops no use that would be resolved. -/
theorem lumped_outcome (H : ∀ p e, entries.find? p = some e → e.path = p) (u : Use) :
    ((NameTable.ofEntries roots entries.values).outcome entries u).lumped =
      ((NameTable.ofEntries roots entries.values).outcomeUntested entries u).lumped := by
  rw [NameTable.outcome, NameTable.outcomeUntested]
  by_cases hf : u.external = true
  · have hext : (NameTable.ofEntries roots entries.values).isExternal u = true := by
      simp [NameTable.isExternal, hf]
    rw [if_pos hext, if_pos hf]
  · rw [if_neg hf]
    split
    · next h =>
      rw [NameTable.target?_of_isExternal H (by simpa using hf) h]
      rfl
    · rfl

/-- Where entries are kept by their paths, a use that is external, and does not say so itself, has
no target. So linking that asks all these uses what they mean fails or does not as before, leaves
the same entries with the same references behind, and resolves and drops the same numbers of
uses. -/
theorem external_unresolved (roots : List Path)
    (H : ∀ p e, entries.find? p = some e → e.path = p) :
    (∀ u : Use, u.external = false →
      (NameTable.ofEntries roots entries.values).isExternal u = true →
        (NameTable.ofEntries roots entries.values).target? entries u = none) ∧
      ∀ (uses : List Use) (n : Int),
        (link roots uses entries n).1 =
            (linkBy NameTable.outcomeUntested roots uses entries n).1 ∧
          (link roots uses entries n).2.map LinkStats.lumped =
            (linkBy NameTable.outcomeUntested roots uses entries n).2.map LinkStats.lumped := by
  refine ⟨fun u hf h => NameTable.target?_of_isExternal H hf h, fun uses n => ?_⟩
  have hlumped : linkBy (fun t es u => (t.outcome es u).lumped) roots uses entries n =
      linkBy (fun t es u => (t.outcomeUntested es u).lumped) roots uses entries n := by
    simp only [linkBy, lumped_outcome H]
  rw [linkBy_lumped, linkBy_lumped, ← link_eq_linkBy] at hlumped
  exact Prod.mk.inj hlumped

/-- Of two uses of `f` one is imported from a module of the project, and one is not. -/
theorem external_unresolved_two_modules :
    let span : Range := .ofCoords 0 0 0 1
    let use (module : String) : Use := ⟨"/p/b.py", span, "f", some module, none, none, false⟩
    let roots := [Path.ofText "/p"]
    let f : Symbol :=
      { name := "f", kind := .function, file := "/p/a.py", range := span, slot := 0 }
    let entries : Table String Entry :=
      .ofList [("/p/a.py", { path := "/p/a.py", language := "python", symbols := [f] })]
    let t := NameTable.ofEntries roots entries.values
    (∀ p e, entries.find? p = some e → e.path = p) ∧
      t.isExternal (use "requests") = true ∧ t.target? entries (use "requests") = none ∧
      (linkBy NameTable.outcomeUntested roots [use "requests", use "a"] entries 0).2.map
        LinkStats.lumped = .ok ⟨1, 0, 1⟩ := by
  intro span use roots f entries t
  have hkeyed : ∀ p e, entries.find? p = some e → e.path = p := by
    intro p e he
    cases List.mem_singleton.1 (Table.mem_of_find?_ofList he)
    rfl
  have hext : (NameTable.ofEntries roots entries.values).isExternal (use "requests") = true := by
    cbv
  have hlink : (link roots [use "requests", use "a"] entries 0).2.map LinkStats.lumped =
      .ok ⟨1, 0, 1⟩ := by cbv
  obtain ⟨htarget, hsame⟩ := external_unresolved roots hkeyed
  exact ⟨hkeyed, hext, htarget _ rfl hext, (hsame _ 0).2.symm.trans hlink⟩

end Link

end CodeAtlas
