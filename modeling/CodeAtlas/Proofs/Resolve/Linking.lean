import CodeAtlas.Proofs.Resolve.Targets
import Mathlib.Data.List.Permutation

/-!
# Linking conserves uses

Linking takes up the uses one by one, and what becomes of each is known beforehand. `recorded` are
the references it is to record: one for each use that means a declaration, in the order of the uses.
If all their targets are found, linking puts each of them behind the references of its target,
counts the uses by what became of them, and changes nothing else (`Linking.run_attach`); otherwise
it fails (`Linking.run_eq_none_iff`).

Where entries and symbols lie where they say, all targets are found, and they are the symbols that
have the handles (`link_conserves`). So a generation is left behind by linking, with the same
entries up to references (`link_generation`).
-/

namespace CodeAtlas

/-! ## References by place -/

/-- The symbol without the references to it. -/
def Symbol.unlinked (s : Symbol) : Symbol := { s with references := [] }

/-- The entry without the references to its symbols. -/
def Entry.unlinked (e : Entry) : Entry := { e with symbols := e.symbols.map Symbol.unlinked }

/-- Two tables hold the same entries under the same paths, up to reference lists. -/
def SameUnlinked (t t' : Table String Entry) : Prop :=
  ∀ p, (t'.find? p).map Entry.unlinked = (t.find? p).map Entry.unlinked

/-- The entry with references put behind those of the symbol at each place. -/
def Entry.withReferences (e : Entry) (more : Nat → List Reference) : Entry :=
  { e with symbols := e.symbols.mapIdx fun i s => { s with references := s.references ++ more i } }

/-- The file and the place in it that a handle leads to. -/
def locate? (entries : Table String Entry) (h : Handle) : Option (String × Nat) :=
  (entries.find? h.file).bind fun e =>
    (slotPlace? e.symbols.length h.slot).map fun i => (h.file, i)

/-- The entries with references put behind those of the symbols that they lead to. -/
def attach (entries : Table String Entry) (rs : List Reference) : Table String Entry :=
  entries.map fun p e =>
    e.withReferences fun i => rs.filter fun r => locate? entries r.target = some (p, i)

namespace SameUnlinked

variable {t t' : Table String Entry} (h : SameUnlinked t t')

include h

theorem find? {p : String} {e' : Entry} (he : t'.find? p = some e') :
    ∃ e, t.find? p = some e ∧ e'.unlinked = e.unlinked := by
  have hp := h p
  rw [he, Option.map_some, eq_comm, Option.map_eq_some_iff] at hp
  obtain ⟨e, he, hu⟩ := hp
  exact ⟨e, he, hu.symm⟩

theorem contains (p : String) : t'.contains p = t.contains p := by
  have hp := congrArg Option.isSome (h p)
  rwa [Option.isSome_map, Option.isSome_map] at hp

end SameUnlinked

namespace Entry

/-- Entries that differ in nothing but their symbols are compared symbol by symbol. -/
theorem ext_symbols {e e' : Entry} (hrest : e = { e' with symbols := e.symbols })
    (h : ∀ i : Nat, e.symbols[i]? = e'.symbols[i]?) : e = e' := by
  rw [hrest, List.ext_getElem? h]

variable (e : Entry) (more more' : Nat → List Reference)

theorem getElem?_withReferences (i : Nat) :
    (e.withReferences more).symbols[i]? = e.symbols[i]?.map fun s =>
      { s with references := s.references ++ more i } := List.getElem?_mapIdx

@[simp] theorem length_withReferences :
    (e.withReferences more).symbols.length = e.symbols.length := List.length_mapIdx

theorem withReferences_nil : (e.withReferences fun _ => []) = e := by
  refine ext_symbols rfl fun i => ?_
  rw [getElem?_withReferences]
  simp

theorem withReferences_withReferences : (e.withReferences more).withReferences more' =
    e.withReferences fun i => more i ++ more' i := by
  refine ext_symbols rfl fun i => ?_
  simp only [getElem?_withReferences, Option.map_map, Function.comp_def, List.append_assoc]

theorem unlinked_withReferences : (e.withReferences more).unlinked = e.unlinked := by
  refine ext_symbols rfl fun i => ?_
  rw [unlinked, unlinked, List.getElem?_map, getElem?_withReferences, List.getElem?_map,
    Option.map_map]
  rfl

/-- Recording one reference is putting it behind those of one symbol. -/
theorem addReference_eq (place : Nat) (r : Reference) :
    e.addReference place r = e.withReferences fun i => if place = i then [r] else [] := by
  refine ext_symbols rfl fun i => ?_
  rw [getElem?_withReferences, addReference, List.getElem?_modify]
  split <;> simp

theorem length_references_addReference {place : Nat} (h : place < e.symbols.length)
    (r : Reference) : (e.addReference place r).references.length = e.references.length + 1 := by
  have hsplit : e.symbols =
      e.symbols.take place ++ e.symbols[place] :: e.symbols.drop (place + 1) := by simp
  have hold : e.references = (e.symbols.take place).flatMap Symbol.references ++
      (e.symbols[place].references ++
        (e.symbols.drop (place + 1)).flatMap Symbol.references) := by
    rw [references]
    conv => lhs; rw [hsplit]
    rw [List.flatMap_append, List.flatMap_cons]
  rw [hold, addReference, references, List.modify_eq_take_cons_drop h]
  simp only [List.flatMap_append, List.flatMap_cons, List.length_append, List.length_singleton]
  omega

end Entry

theorem slotPlace?_lt {n i : Nat} {slot : Int} (h : slotPlace? n slot = some i) : i < n := by
  simp only [slotPlace?] at h
  generalize (if slot < 0 then slot + (n : Int) else slot) = place at h
  split at h
  · obtain rfl := Option.some.inj h
    omega
  · cases h

theorem slotPlace?_natCast {n i : Nat} (h : i < n) : slotPlace? n (i : Int) = some i := by
  have : ¬ (i : Int) < 0 := Int.not_lt.2 (Int.natCast_nonneg i)
  simp [slotPlace?, this, h]

section Attach

variable {entries : Table String Entry}

theorem locate?_eq_some_iff {h : Handle} {p : String} {i : Nat} :
    locate? entries h = some (p, i) ↔ h.file = p ∧
      ∃ e, entries.find? h.file = some e ∧ slotPlace? e.symbols.length h.slot = some i := by
  simp only [locate?, Option.bind_eq_some_iff, Option.map_eq_some_iff, Prod.mk.injEq]
  constructor
  · rintro ⟨e, he, j, hj, hp, rfl⟩
    exact ⟨hp, e, he, hj⟩
  · rintro ⟨hp, e, he, hi⟩
    exact ⟨e, he, i, hi, hp, rfl⟩

/-- A handle that has a place leads to it. -/
theorem HasPlace.locate? {h : Handle} (H : HasPlace entries h) :
    ∃ i : Nat, h.slot = i ∧ locate? entries h = some (h.file, i) := by
  obtain ⟨e, he, i, hi, hs⟩ := H
  exact ⟨i, hs, locate?_eq_some_iff.2 ⟨rfl, e, he, hs ▸ slotPlace?_natCast hi⟩⟩

theorem attach_nil : attach entries [] = entries := by
  refine Table.ext_pairs ?_
  simp [attach, Table.map, Entry.withReferences_nil]

theorem locate?_attach (rs : List Reference) (h : Handle) :
    locate? (attach entries rs) h = locate? entries h := by
  rw [locate?, locate?, attach, Table.find?_map, Option.bind_map]
  congr 1
  funext e
  simp

theorem attach_attach (rs rs' : List Reference) :
    attach (attach entries rs) rs' = attach entries (rs ++ rs') := by
  refine Table.ext_pairs ?_
  rw [attach]
  simp only [locate?_attach]
  simp [attach, Table.map, Entry.withReferences_withReferences]

theorem sameUnlinked_attach (rs : List Reference) : SameUnlinked entries (attach entries rs) := by
  intro p
  rw [attach, Table.find?_map, Option.map_map]
  congr 1
  funext e
  exact e.unlinked_withReferences _

/-- Putting one reference behind the others changes one entry. -/
theorem attach_singleton {r : Reference} {e : Entry} {i : Nat}
    (he : entries.find? r.target.file = some e)
    (hi : slotPlace? e.symbols.length r.target.slot = some i) :
    attach entries [r] = entries.insert r.target.file (e.addReference i r) := by
  have hloc : locate? entries r.target = some (r.target.file, i) :=
    locate?_eq_some_iff.2 ⟨rfl, e, he, hi⟩
  refine (Table.insert_eq_map he ?_ fun p e' hp _ => ?_).symm
  · rw [Entry.addReference_eq]
    congr 1
    funext j
    by_cases h : i = j <;> simp [hloc, h]
  · have : ∀ j, [r].filter (fun r => locate? entries r.target = some (p, j)) = [] := by
      simp [hloc, Ne.symm hp]
    simp only [this]
    exact e'.withReferences_nil

/-- The number of references in a table. -/
def countReferences (entries : Table String Entry) : Nat :=
  (entries.values.flatMap Entry.references).length

theorem countReferences_insert {p : String} {e e' : Entry} (he : entries.find? p = some e) :
    countReferences (entries.insert p e') + e.references.length =
      countReferences entries + e'.references.length := by
  obtain ⟨front, back, hold, hnew⟩ := Table.pairs_insert he
  simp only [countReferences, Table.values, hold, hnew, List.map_append, List.map_cons,
    List.flatMap_append, List.flatMap_cons, List.length_append]
  omega

theorem countReferences_attach {rs : List Reference}
    (h : ∀ r ∈ rs, (locate? entries r.target).isSome = true) :
    countReferences (attach entries rs) = countReferences entries + rs.length := by
  -- References are attached one by one: those attached before do not change where others lead.
  induction rs generalizing entries with
  | nil => rw [attach_nil, List.length_nil, Nat.add_zero]
  | cons r rs ih =>
    obtain ⟨⟨p, i⟩, hloc⟩ := Option.isSome_iff_exists.1 (h r List.mem_cons_self)
    obtain ⟨-, e, he, hi⟩ := locate?_eq_some_iff.1 hloc
    have hone : countReferences (attach entries [r]) = countReferences entries + 1 := by
      have hinsert : countReferences (entries.insert r.target.file (e.addReference i r)) + _ = _ :=
        countReferences_insert he
      rw [Entry.length_references_addReference e (slotPlace?_lt hi)] at hinsert
      rw [attach_singleton he hi]
      omega
    rw [← List.singleton_append, ← attach_attach, ih, hone, List.length_append,
      List.length_singleton, Nat.add_assoc]
    intro q hq
    rw [locate?_attach]
    exact h q (List.mem_cons_of_mem _ hq)

end Attach

/-! ## Taking up uses -/

/-- The reference that a use leaves behind, if it means a declaration. -/
def Outcome.reference? (generation : Int) (u : Use) : Outcome → Option Reference
  | .target h => some ⟨u.file, u.range, h, generation⟩
  | _ => none

/-- The references that uses leave behind, in the order of the uses. -/
def recorded (outcome : Use → Outcome) (generation : Int) (uses : List Use) : List Reference :=
  uses.filterMap fun u => (outcome u).reference? generation u

/-- Whether a use means a declaration. -/
def Outcome.isTarget : Outcome → Bool
  | .target _ => true
  | _ => false

/-- The uses counted by what becomes of them. -/
def tally (outcome : Use → Outcome) (uses : List Use) : LinkStats where
  resolved := uses.countP fun u => (outcome u).isTarget
  droppedExternal := uses.countP fun u => outcome u = .external
  droppedUnresolved := uses.countP fun u => outcome u = .unresolved

/-- Counts of different uses are added up. -/
instance : Add LinkStats where
  add s s' := ⟨s.resolved + s'.resolved, s.droppedExternal + s'.droppedExternal,
    s.droppedUnresolved + s'.droppedUnresolved⟩

theorem LinkStats.add_def (s s' : LinkStats) :
    s + s' = ⟨s.resolved + s'.resolved, s.droppedExternal + s'.droppedExternal,
      s.droppedUnresolved + s'.droppedUnresolved⟩ := rfl

theorem LinkStats.add_assoc (s s' s'' : LinkStats) : s + s' + s'' = s + (s' + s'') := by
  simp only [add_def, Nat.add_assoc]

theorem LinkStats.zero_add (s : LinkStats) : ({} : LinkStats) + s = s := by
  simp only [add_def, Nat.zero_add]

section Recorded

variable {outcome : Use → Outcome} {n : Int}

theorem mem_recorded {uses : List Use} {r : Reference} :
    r ∈ recorded outcome n uses ↔
      ∃ u ∈ uses, outcome u = .target r.target ∧ r = ⟨u.file, u.range, r.target, n⟩ := by
  simp only [recorded, List.mem_filterMap]
  constructor
  · rintro ⟨u, hu, hr⟩
    refine ⟨u, hu, ?_⟩
    cases ho : outcome u with
    | external => simp [ho, Outcome.reference?] at hr
    | unresolved => simp [ho, Outcome.reference?] at hr
    | target h =>
      rw [ho] at hr
      obtain rfl := Option.some.inj hr
      exact ⟨rfl, rfl⟩
  · rintro ⟨u, hu, ho, hr⟩
    exact ⟨u, hu, by rw [ho, Outcome.reference?, ← hr]⟩

/-- The references with one target are those of the uses that mean it, in the order of the uses. -/
theorem filter_recorded (uses : List Use) (h : Handle) :
    ((recorded outcome n uses).filter fun r => r.target = h) =
      (uses.filter fun u => outcome u = .target h).map fun u => ⟨u.file, u.range, h, n⟩ := by
  induction uses with
  | nil => rfl
  | cons u uses ih =>
    rw [recorded, List.filterMap_cons, List.filter_cons, ← recorded]
    cases ho : outcome u with
    | external => simpa [Outcome.reference?] using ih
    | unresolved => simpa [Outcome.reference?] using ih
    | target k =>
      simp only [Outcome.reference?, List.filter_cons, Outcome.target.injEq, decide_eq_true_eq]
      split
      · next hk => rw [ih, List.map_cons, hk]
      · exact ih

/-- One reference is recorded for each use that is counted as resolved. -/
theorem length_recorded (uses : List Use) :
    (recorded outcome n uses).length = (tally outcome uses).resolved := by
  rw [recorded, List.length_filterMap_eq_countP]
  refine List.countP_congr fun u _ => ?_
  cases outcome u <;> simp [Outcome.reference?, Outcome.isTarget]

theorem tally_cons (u : Use) (uses : List Use) :
    tally outcome (u :: uses) = tally outcome [u] + tally outcome uses := by
  simp only [tally, LinkStats.add_def, List.countP_cons, List.countP_nil, Nat.zero_add,
    Nat.add_comm]

theorem total_tally (uses : List Use) : (tally outcome uses).total = uses.length := by
  induction uses with
  | nil => rfl
  | cons u uses ih =>
    have hone : (tally outcome [u]).total = 1 := by
      cases ho : outcome u <;> simp [tally, LinkStats.total, ho, Outcome.isTarget]
    rw [tally_cons, List.length_cons, ← ih]
    simp only [LinkStats.add_def, LinkStats.total] at hone ⊢
    omega

end Recorded

namespace Linking

variable {outcome : Use → Outcome} {n : Int} {l : Linking}

theorem record_attach {r : Reference} (h : (locate? l.entries r.target).isSome = true) :
    l.record r =
      .ok ⟨attach l.entries [r], { l.stats with resolved := l.stats.resolved + 1 }⟩ := by
  obtain ⟨⟨p, i⟩, hloc⟩ := Option.isSome_iff_exists.1 h
  obtain ⟨-, e, he, hi⟩ := locate?_eq_some_iff.1 hloc
  simp only [record, he, hi, attach_singleton he hi]

theorem record_fails {r : Reference} (h : locate? l.entries r.target = none) :
    ∃ e, l.record r = .error e := by
  rw [record]
  split
  · exact ⟨_, rfl⟩
  · next e he =>
    rw [locate?, he, Option.bind_some, Option.map_eq_none_iff] at h
    rw [h]
    exact ⟨_, rfl⟩

/-- The uses mean declarations that are found. -/
def Found (outcome : Use → Outcome) (entries : Table String Entry) (us : List Use) : Prop :=
  ∀ u ∈ us, ∀ h, outcome u = .target h → (locate? entries h).isSome = true

/-- Taking up a use whose target, if it has one, is found. -/
theorem step_attach {u : Use} (h : Found outcome l.entries [u]) :
    l.step n u (outcome u) =
      .ok ⟨attach l.entries (recorded outcome n [u]), l.stats + tally outcome [u]⟩ := by
  have h := h u List.mem_cons_self
  cases ho : outcome u with
  | external =>
    simp [step, tally, recorded, ho, Outcome.reference?, Outcome.isTarget, attach_nil,
      LinkStats.add_def]
  | unresolved =>
    simp [step, tally, recorded, ho, Outcome.reference?, Outcome.isTarget, attach_nil,
      LinkStats.add_def]
  | target k =>
    have hrec := record_attach (l := l) (r := ⟨u.file, u.range, k, n⟩) (h k ho)
    simp [step, hrec, tally, recorded, ho, Outcome.reference?, Outcome.isTarget, LinkStats.add_def]

theorem Found.cons {u : Use} {us : List Use} {entries : Table String Entry} :
    Found outcome entries (u :: us) ↔ Found outcome entries [u] ∧ Found outcome entries us := by
  simp [Found]

theorem Found.attach_iff {us : List Use} {entries : Table String Entry} (rs : List Reference) :
    Found outcome (attach entries rs) us ↔ Found outcome entries us := by
  simp only [Found, locate?_attach]

/-- Taking up uses puts all their references behind those of the targets, if these are found. -/
theorem run_attach {us : List Use} (h : Found outcome l.entries us) :
    run outcome n l us =
      (⟨attach l.entries (recorded outcome n us), l.stats + tally outcome us⟩, none) := by
  induction us generalizing l with
  | nil => simp [run, tally, recorded, attach_nil, LinkStats.add_def]
  | cons u us ih =>
    obtain ⟨hu, hus⟩ := Found.cons.1 h
    have hrec : recorded outcome n [u] ++ recorded outcome n us = recorded outcome n (u :: us) :=
      List.filterMap_append.symm
    rw [run, step_attach hu]
    dsimp only
    rw [ih ((Found.attach_iff _).2 hus), attach_attach, hrec, LinkStats.add_assoc, ← tally_cons]

/-- Taking up uses fails exactly if the target of one of them is not found. -/
theorem run_eq_none_iff (us : List Use) :
    (run outcome n l us).2 = none ↔ Found outcome l.entries us := by
  refine ⟨fun h => ?_, fun h => by rw [run_attach h]⟩
  -- The first use is found, as its step has not failed, and its reference moves no other target.
  induction us generalizing l with
  | nil =>
    intro u hu
    cases hu
  | cons u us ih =>
    have hu : Found outcome l.entries [u] := by
      intro v hv k hk
      obtain rfl := List.mem_singleton.1 hv
      cases hloc : locate? l.entries k with
      | some place => rfl
      | none =>
        obtain ⟨e, he⟩ := record_fails (l := l) (r := ⟨v.file, v.range, k, n⟩) hloc
        rw [run, hk, step, he] at h
        cases h
    rw [run, step_attach hu] at h
    exact Found.cons.2 ⟨hu, (Found.attach_iff _).1 (ih h)⟩

end Linking

/-! ## Entries whose symbols lie where they say -/

/-- The symbol with those references put behind its own that lead to it. -/
def Symbol.referredBy (rs : List Reference) (s : Symbol) : Symbol :=
  { s with references := s.references ++ rs.filter fun r => r.target = s.handle }

/-- The entry with references put behind those of the symbols that they lead to. -/
def Entry.referredBy (rs : List Reference) (e : Entry) : Entry :=
  { e with symbols := e.symbols.map (Symbol.referredBy rs) }

namespace IsPlaced

variable {entries : Table String Entry} {roots : List Path}

/-- Where symbols lie where they say, references are put behind those of the symbols that have the
handles. -/
theorem attach_eq (H : IsPlaced entries) {rs : List Reference}
    (h : ∀ r ∈ rs, HasPlace entries r.target) :
    attach entries rs = entries.map fun _ e => e.referredBy rs := by
  refine Table.ext_pairs (List.map_congr_left fun ⟨p, e⟩ hp => ?_)
  have he : entries.find? p = some e := Table.find?_eq_some_iff.2 hp
  have hentry : (e.withReferences fun i =>
      rs.filter fun r => locate? entries r.target = some (p, i)) = e.referredBy rs := by
    refine Entry.ext_symbols rfl fun i => ?_
    rw [Entry.getElem?_withReferences, Entry.referredBy, List.getElem?_map]
    cases hi : e.symbols[i]? with
    | none => rfl
    | some s =>
      -- What leads to the place of the symbol is what has its handle.
      have hs : s.handle = ⟨p, i⟩ := H.path p e he ▸ (H.entry p e he).handle hi
      have hfilter : (rs.filter fun r => locate? entries r.target = some (p, i)) =
          rs.filter fun r => r.target = s.handle := by
        refine List.filter_congr fun r hr => ?_
        obtain ⟨j, hj, hloc⟩ := (h r hr).locate?
        have hr : r.target = ⟨r.target.file, j⟩ := by rw [← hj]
        rw [hloc, hs, hr]
        simp [Int.natCast_inj]
      rw [hfilter]
      rfl
  exact congrArg (Prod.mk p) hentry

theorem hasPlace_of_outcome (H : IsPlaced entries) {u : Use} {h : Handle}
    (ho : (NameTable.ofEntries roots entries.values).outcome entries u = .target h) :
    HasPlace entries h := by
  rw [NameTable.outcome] at ho
  split at ho
  · cases ho
  · split at ho
    · cases ho
    · next k hk =>
      obtain rfl := Outcome.target.inj ho
      exact target_hasPlace H hk

theorem hasPlace_of_mem_recorded (H : IsPlaced entries) {uses : List Use} {n : Int}
    {r : Reference}
    (hr : r ∈ recorded ((NameTable.ofEntries roots entries.values).outcome entries) n uses) :
    HasPlace entries r.target := by
  obtain ⟨u, -, ho, -⟩ := mem_recorded.1 hr
  exact H.hasPlace_of_outcome ho

/-- What has a place is a symbol that has the handle. -/
theorem symbol_of_hasPlace (H : IsPlaced entries) {h : Handle} (hp : HasPlace entries h) :
    ∃ e, entries.find? h.file = some e ∧ 0 ≤ h.slot ∧
      ∃ s, e.symbols[h.slot.toNat]? = some s ∧ s.handle = h := by
  obtain ⟨e, he, i, hi, hs⟩ := hp
  have hget : e.symbols[i]? = some e.symbols[i] := List.getElem?_eq_getElem hi
  refine ⟨e, he, hs ▸ Int.natCast_nonneg i, e.symbols[i], by rw [hs]; exact hget, ?_⟩
  rw [(H.entry _ e he).handle hget, H.path _ e he, ← hs]

theorem found (H : IsPlaced entries) (uses : List Use) :
    Linking.Found ((NameTable.ofEntries roots entries.values).outcome entries) entries uses := by
  intro u _ h ho
  obtain ⟨i, -, hloc⟩ := (H.hasPlace_of_outcome ho).locate?
  rw [hloc]
  rfl

end IsPlaced

/-! ## Linking -/

section Link

variable {entries : Table String Entry} {n : Int}

theorem link_of_generation (h : ∀ e ∈ entries.values, e.generation = n) (roots : List Path)
    (uses : List Use) : link roots uses entries n =
      match Linking.run ((NameTable.ofEntries roots entries.values).outcome entries) n
        ⟨entries, {}⟩ uses with
      | (l, none) => (l.entries, .ok l.stats)
      | (l, some e) => (l.entries, .error e) := by
  have hn : entries.values.find? (fun e => e.generation ≠ n) = none := by
    rw [List.find?_eq_none]
    intro e he
    simp [h e he]
  unfold link
  split
  case h_1 e he => exact absurd (he.symm.trans hn) (Option.some_ne_none e)
  case h_2 => rfl

theorem link_stale (h : ∃ e ∈ entries.values, e.generation ≠ n) (roots : List Path)
    (uses : List Use) : ∃ e ∈ entries.values, e.generation ≠ n ∧
      link roots uses entries n = (entries, .error (.staleGeneration e.generation n)) := by
  obtain ⟨x, hx, hne⟩ := h
  cases hf : entries.values.find? fun e => e.generation ≠ n with
  | none => exact absurd (List.find?_eq_none.1 hf x hx) (by simpa using hne)
  | some e =>
    refine ⟨e, List.mem_of_find?_eq_some hf, by simpa using List.find?_some hf, ?_⟩
    simp only [link, hf]

theorem IsPlaced.link_eq (H : IsPlaced entries) (hn : ∀ e ∈ entries.values, e.generation = n)
    (roots : List Path) (uses : List Use) :
    let outcome := (NameTable.ofEntries roots entries.values).outcome entries
    link roots uses entries n =
      (entries.map fun _ e => e.referredBy (recorded outcome n uses),
        .ok (tally outcome uses)) := by
  intro outcome
  have hfound : Linking.Found outcome entries uses := H.found uses
  have hrun := Linking.run_attach (n := n) (l := ⟨entries, {}⟩) hfound
  rw [link_of_generation hn, hrun, H.attach_eq fun r hr => H.hasPlace_of_mem_recorded hr,
    LinkStats.zero_add]

theorem Entry.Sound.referredBy {e : Entry} (h : e.Sound) {rs : List Reference}
    (hr : ∀ r ∈ rs, r.generation = e.generation) : (e.referredBy rs).Sound where
  slot i s hs := by
    obtain ⟨s₀, h₀, rfl⟩ := Option.map_eq_some_iff.1 (List.getElem?_map.symm.trans hs)
    exact h.slot i s₀ h₀
  file s hs := by
    obtain ⟨s₀, h₀, rfl⟩ := List.mem_map.1 hs
    exact h.file s₀ h₀
  faulty hp := by rw [Entry.referredBy, h.faulty hp, List.map_nil]
  target s hs r hmem := by
    obtain ⟨s₀, h₀, rfl⟩ := List.mem_map.1 hs
    rcases List.mem_append.1 hmem with hmem | hmem
    · exact h.target s₀ h₀ r hmem
    · exact of_decide_eq_true (List.mem_filter.1 hmem).2
  generation s hs r hmem := by
    obtain ⟨s₀, h₀, rfl⟩ := List.mem_map.1 hs
    rcases List.mem_append.1 hmem with hmem | hmem
    · exact h.generation s₀ h₀ r hmem
    · exact hr r (List.mem_filter.1 hmem).1

/-- Linking a generation never fails, and leaves a generation with the same entries up to
references. -/
theorem link_generation (H : IsGeneration entries n) (roots : List Path) (uses : List Use) :
    ∃ linked stats, link roots uses entries n = (linked, .ok stats) ∧ IsGeneration linked n ∧
      SameUnlinked entries linked := by
  have hn : ∀ e ∈ entries.values, e.generation = n := by
    intro e he
    obtain ⟨p, hp⟩ := Table.mem_values.1 he
    exact H.generation p e hp
  refine ⟨_, _, H.placed.link_eq hn roots uses, ⟨?_, ?_, ?_⟩, ?_⟩
  · intro p e he
    obtain ⟨e₀, h₀, rfl⟩ := Option.map_eq_some_iff.1 ((Table.find?_map ..).symm.trans he)
    exact H.path p e₀ h₀
  · intro p e he
    obtain ⟨e₀, h₀, rfl⟩ := Option.map_eq_some_iff.1 ((Table.find?_map ..).symm.trans he)
    exact H.generation p e₀ h₀
  · intro p e he
    obtain ⟨e₀, h₀, rfl⟩ := Option.map_eq_some_iff.1 ((Table.find?_map ..).symm.trans he)
    refine (H.sound p e₀ h₀).referredBy fun r hr => ?_
    obtain ⟨u, -, -, hr⟩ := mem_recorded.1 hr
    rw [hr, H.generation p e₀ h₀]
  · rw [← H.placed.attach_eq fun r hr => H.placed.hasPlace_of_mem_recorded hr]
    exact sameUnlinked_attach _

/-- What linking makes of uses and entries. -/
structure Conserves (outcome : Use → Outcome) (n : Int) (uses : List Use)
    (entries linked : Table String Entry) (stats : LinkStats) : Prop where
  total : stats.total = uses.length
  stats_eq : stats = tally outcome uses
  /-- References come behind those of the symbol that their target is the handle of, and nothing
  else changes. -/
  linked_eq : linked = entries.map fun _ e => e.referredBy (recorded outcome n uses)
  /-- What comes behind the references of a symbol tells of the uses that mean it, in order. -/
  references : ∀ h, ((recorded outcome n uses).filter fun r => r.target = h) =
    (uses.filter fun u => outcome u = .target h).map fun u => ⟨u.file, u.range, h, n⟩
  recorded : (recorded outcome n uses).length = stats.resolved
  count : countReferences linked = countReferences entries + stats.resolved

theorem IsPlaced.conserves (H : IsPlaced entries) (roots : List Path) (uses : List Use) (n : Int) :
    let outcome := (NameTable.ofEntries roots entries.values).outcome entries
    Conserves outcome n uses entries
      (entries.map fun _ e => e.referredBy (recorded outcome n uses)) (tally outcome uses) := by
  intro outcome
  have hplace : ∀ r ∈ recorded outcome n uses, HasPlace entries r.target :=
    fun r hr => H.hasPlace_of_mem_recorded hr
  have hcount : countReferences (entries.map fun _ e => e.referredBy (recorded outcome n uses)) =
      countReferences entries + (tally outcome uses).resolved := by
    rw [← H.attach_eq hplace, countReferences_attach fun r hr => ?_, length_recorded]
    obtain ⟨i, -, hloc⟩ := (hplace r hr).locate?
    rw [hloc]
    rfl
  exact ⟨total_tally uses, rfl, rfl, filter_recorded uses, length_recorded uses, hcount⟩

/-- Where entries and symbols lie where they say, linking refuses entries of another generation and
leaves all as it is; otherwise every use is counted once, each use that is resolved leaves one
reference behind, at the symbol that has its target for a handle, and nothing else changes. What is
followed is never without a symbol: neither the target of a use, nor a handle known by a name. -/
theorem link_conserves (roots : List Path) (uses : List Use) (n : Int) (H : IsPlaced entries) :
    let t := NameTable.ofEntries roots entries.values
    ((∃ e ∈ entries.values, e.generation ≠ n) → ∃ e ∈ entries.values, e.generation ≠ n ∧
        link roots uses entries n = (entries, .error (.staleGeneration e.generation n))) ∧
      ((∀ e ∈ entries.values, e.generation = n) → ∃ linked stats,
        link roots uses entries n = (linked, .ok stats) ∧
          Conserves (t.outcome entries) n uses entries linked stats) ∧
      (∀ u h, t.outcome entries u = .target h → ∃ e, entries.find? h.file = some e ∧
        0 ≤ h.slot ∧ ∃ s, e.symbols[h.slot.toNat]? = some s ∧ s.handle = h) ∧
      ∀ name, ∀ h ∈ t.handlesOf name, ∃ s, t.symbols.find? h = some s ∧ s.handle = h := by
  intro t
  refine ⟨fun h => link_stale h roots uses, fun hn => ?_, fun u h ho => ?_, fun name h hh => ?_⟩
  · exact ⟨_, _, H.link_eq hn roots uses, H.conserves roots uses n⟩
  · exact H.symbol_of_hasPlace (H.hasPlace_of_outcome ho)
  · exact (NameTable.holds_ofEntries roots entries.values).symbol_of_mem_handlesOf hh

/-- A use of `f` in another file is recorded, one of `print` and one of an unknown name are not. -/
theorem link_conserves_two_files :
    let span (line : Int) : Range := .ofCoords line 0 line 1
    let use (name : String) (external : Bool) : Use :=
      ⟨"/p/b.py", span 0, name, none, none, none, external⟩
    let entries : Table String Entry := .ofList
      [("/p/b.py", { path := "/p/b.py", language := "python", generation := 1 }),
        ("/p/a.py", { path := "/p/a.py", language := "python", generation := 1, symbols :=
          [{ name := "f", kind := .function, file := "/p/a.py", range := span 3, slot := 0 }] })]
    IsPlaced entries ∧ (∀ e ∈ entries.values, e.generation = 1) ∧
      ∃ linked, link [] [use "f" false, use "print" true, use "g" false] entries 1 =
        (linked, .ok ⟨1, 1, 1⟩) ∧ countReferences linked = 1 := by
  intro span use entries
  have hpairs : ∀ p e, entries.find? p = some e → (p, e) ∈ _ := fun p e =>
    Table.mem_of_find?_ofList
  have hplaced : IsPlaced entries := by
    constructor
    · intro p e he
      rcases List.mem_pair.1 (hpairs p e he) with h | h <;> cases h <;> rfl
    · intro p e he
      rcases List.mem_pair.1 (hpairs p e he) with h | h <;> cases h
      · constructor <;> simp
      · constructor
        · rintro (_ | i) s hs
          · cases hs
            rfl
          · cases hs
        · simp
  have hgen : ∀ e ∈ entries.values, e.generation = 1 := by
    intro e he
    obtain ⟨p, hp⟩ := Table.mem_values.1 he
    rcases List.mem_pair.1 (hpairs p e hp) with h | h <;> cases h <;> rfl
  obtain ⟨-, hlink, -, -⟩ := link_conserves []
    [use "f" false, use "print" true, use "g" false] 1 hplaced
  obtain ⟨linked, stats, hl, hc⟩ := hlink hgen
  have hstats : stats = ⟨1, 1, 1⟩ := hc.stats_eq.trans (by cbv)
  have hcount : countReferences entries = 0 := by cbv
  refine ⟨hplaced, hgen, linked, hl.trans (by rw [hstats]), ?_⟩
  rw [hc.count, hstats, hcount]
  rfl

end Link

end CodeAtlas
