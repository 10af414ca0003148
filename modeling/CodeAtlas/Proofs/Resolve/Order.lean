import CodeAtlas.Proofs.Resolve.Linking
import Mathlib

/-!
# Linking does not hang on order

Entries come in the order in which their files were read, and uses in the order in which they were
found. Neither matters, if no path occurs twice. With the entries in another order linking goes on
step by step as before, also where it fails (`Linking.Alike.run`). With the uses in another order it
still fails or does not, and if it does not, counts are the same and reference lists hold the same
references (`link_order`).

What is left behind by a failure does hang on the order of the uses: those before the one that fails
have been taken up (`link_unplaced_order`).
-/

namespace CodeAtlas

/-- Two tables hold the same entries up to the order of references. -/
structure Reordered (t t' : Table String Entry) : Prop where
  unlinked : SameUnlinked t t'
  references : ∀ p e e', t.find? p = some e → t'.find? p = some e' →
    ∀ (i : Nat) s s', e.symbols[i]? = some s → e'.symbols[i]? = some s' →
      s.references.Perm s'.references

section Permutations

variable {uses uses' : List Use} (h : uses.Perm uses') {outcome : Use → Outcome}

include h

theorem recorded_perm (n : Int) : (recorded outcome n uses).Perm (recorded outcome n uses') :=
  h.filterMap _

theorem tally_perm : tally outcome uses = tally outcome uses' := by
  simp only [tally, h.countP_eq]

theorem Linking.found_perm {entries : Table String Entry} :
    Found outcome entries uses ↔ Found outcome entries uses' := by
  simp only [Found, h.mem_iff]

end Permutations

/-- Lists behind the references of symbols may have another order. -/
theorem attach_perm {entries : Table String Entry} {rs rs' : List Reference} (h : rs.Perm rs') :
    Reordered (attach entries rs) (attach entries rs') where
  unlinked p := (sameUnlinked_attach rs' p).trans (sameUnlinked_attach rs p).symm
  references p e e' he he' i s s' hs hs' := by
    rw [attach, Table.find?_map] at he he'
    obtain ⟨e₀, h₀, rfl⟩ := Option.map_eq_some_iff.1 he
    rw [h₀] at he'
    obtain rfl := Option.some.inj he'
    rw [Entry.getElem?_withReferences] at hs hs'
    obtain ⟨s₀, hs₀, rfl⟩ := Option.map_eq_some_iff.1 hs
    rw [hs₀] at hs'
    obtain rfl := Option.some.inj hs'
    exact (h.filter _).append_left _

namespace Linking

/-! ## Entries in another order -/

/-- Two linkings that are the same up to the order of entries. -/
structure Alike (l l' : Linking) : Prop where
  entries : ∀ p, l.entries.find? p = l'.entries.find? p
  stats : l.stats = l'.stats

/-- Two results of taking up a use that are the same up to the order of entries. -/
inductive AlikeResults : Except Error Linking → Except Error Linking → Prop
  | ok {l l' : Linking} (h : Alike l l') : AlikeResults (.ok l) (.ok l')
  | error (e : Error) : AlikeResults (.error e) (.error e)

variable {l l' : Linking}

theorem Alike.record (h : Alike l l') (r : Reference) :
    AlikeResults (l.record r) (l'.record r) := by
  simp only [Linking.record, ← h.entries, ← h.stats]
  split
  · exact .error _
  · split
    · exact .error _
    · refine .ok ⟨fun p => ?_, rfl⟩
      rw [Table.find?_insert, Table.find?_insert, h.entries]

theorem Alike.step (h : Alike l l') (n : Int) (u : Use) (o : Outcome) :
    AlikeResults (l.step n u o) (l'.step n u o) := by
  cases o with
  | external => exact .ok ⟨h.entries, by rw [h.stats]⟩
  | unresolved => exact .ok ⟨h.entries, by rw [h.stats]⟩
  | target k => exact h.record _

theorem Alike.run (h : Alike l l') (outcome : Use → Outcome) (n : Int) (us : List Use) :
    Alike (Linking.run outcome n l us).1 (Linking.run outcome n l' us).1 ∧
      (Linking.run outcome n l us).2 = (Linking.run outcome n l' us).2 := by
  induction us generalizing l l' with
  | nil => exact ⟨h, rfl⟩
  | cons u us ih =>
    have hstep := h.step n u (outcome u)
    rw [Linking.run, Linking.run]
    revert hstep
    generalize l.step n u (outcome u) = r
    generalize l'.step n u (outcome u) = r'
    intro hstep
    -- Both go on from linkings that are alike, or both stop at this use.
    cases hstep with
    | ok hm => exact ih hm
    | error e => exact ⟨h, rfl⟩

end Linking

/-- What becomes of a use does not hang on the order of entries. -/
theorem outcome_perm (roots : List Path) {entries entries' : Table String Entry}
    (hn : (entries.values.map Entry.path).Nodup) (h : entries.pairs.Perm entries'.pairs) (u : Use) :
    (NameTable.ofEntries roots entries.values).outcome entries u =
      (NameTable.ofEntries roots entries'.values).outcome entries' u := by
  have hv : entries.values.Perm entries'.values := h.map Prod.snd
  rw [NameTable.ofEntries_perm roots hn hv]
  simp only [NameTable.outcome, NameTable.target?, Table.find?_perm h]

/-! ## Linking in another order -/

section Link

variable {entries entries' : Table String Entry} {uses uses' : List Use} {n : Int}

theorem link_entries_perm (roots : List Path) (uses : List Use) (n : Int)
    (hn : (entries.values.map Entry.path).Nodup)
    (h : entries.pairs.Perm entries'.pairs) :
    (∀ p, (link roots uses entries n).1.find? p = (link roots uses entries' n).1.find? p) ∧
      ∀ stats, (link roots uses entries n).2 = .ok stats ↔
        (link roots uses entries' n).2 = .ok stats := by
  have hv : entries.values.Perm entries'.values := h.map Prod.snd
  by_cases hg : ∀ e ∈ entries.values, e.generation = n
  · have halike : Linking.Alike ⟨entries, {}⟩ ⟨entries', {}⟩ := ⟨Table.find?_perm h, rfl⟩
    have hrun := halike.run ((NameTable.ofEntries roots entries.values).outcome entries) n uses
    rw [link_of_generation hg, link_of_generation fun e he => hg e (hv.mem_iff.2 he),
      ← funext (outcome_perm roots hn h)]
    revert hrun
    generalize Linking.run _ n ⟨entries, {}⟩ uses = r
    generalize Linking.run _ n ⟨entries', {}⟩ uses = r'
    obtain ⟨m, x⟩ := r
    obtain ⟨m', x'⟩ := r'
    rintro ⟨hm, rfl : x = x'⟩
    cases x with
    | none =>
      have hs : m.stats = m'.stats := hm.stats
      exact ⟨hm.entries, fun stats => by simp only [hs]⟩
    | some e => exact ⟨hm.entries, fun stats => Iff.rfl⟩
  · simp only [not_forall] at hg
    obtain ⟨e, he, hne⟩ := hg
    obtain ⟨x, -, -, hx⟩ := link_stale ⟨e, he, hne⟩ roots uses
    obtain ⟨x', -, -, hx'⟩ := link_stale ⟨e, hv.mem_iff.1 he, hne⟩ roots uses
    rw [hx, hx']
    exact ⟨Table.find?_perm h, fun stats => ⟨nofun, nofun⟩⟩

/-- If linking does not fail, it puts all references behind those of their targets. -/
theorem link_eq_ok_iff (roots : List Path) (hg : ∀ e ∈ entries.values, e.generation = n)
    {stats : LinkStats} :
    let outcome := (NameTable.ofEntries roots entries.values).outcome entries
    (link roots uses entries n).2 = .ok stats ↔
      Linking.Found outcome entries uses ∧ stats = tally outcome uses ∧
        (link roots uses entries n).1 = attach entries (recorded outcome n uses) := by
  intro outcome
  rw [link_of_generation hg]
  constructor
  · intro h
    have hfound : Linking.Found outcome entries uses := by
      refine (Linking.run_eq_none_iff (n := n) (l := ⟨entries, {}⟩) uses).1 ?_
      split at h
      · next hr => rw [hr]
      · cases h
    rw [Linking.run_attach hfound] at h ⊢
    exact ⟨hfound, (Except.ok.inj h).symm.trans (LinkStats.zero_add _), rfl⟩
  · rintro ⟨hfound, rfl, -⟩
    rw [Linking.run_attach hfound, LinkStats.zero_add]

theorem link_uses_perm (roots : List Path) (h : uses.Perm uses') {stats : LinkStats}
    (hok : (link roots uses entries n).2 = .ok stats) :
    (link roots uses' entries n).2 = .ok stats ∧
      Reordered (link roots uses entries n).1 (link roots uses' entries n).1 := by
  have hg : ∀ e ∈ entries.values, e.generation = n := by
    intro e he
    by_contra hne
    obtain ⟨x, -, -, hx⟩ := link_stale ⟨e, he, hne⟩ roots uses
    rw [hx] at hok
    cases hok
  obtain ⟨hfound, hstats, hlink⟩ := (link_eq_ok_iff roots hg).1 hok
  have hok' : (link roots uses' entries n).2 = .ok stats := by
    rw [link_of_generation hg, Linking.run_attach ((Linking.found_perm h).1 hfound),
      LinkStats.zero_add, ← tally_perm h, hstats]
  obtain ⟨-, -, hlink'⟩ := (link_eq_ok_iff roots hg).1 hok'
  rw [hlink, hlink']
  exact ⟨hok', attach_perm (recorded_perm h n)⟩

/-- Where no path occurs twice, linking does the same with the entries in any order, also where it
fails. With the uses in any order it fails or does not, and if it does not, counts are the same and
reference lists hold the same references. It does not fail where entries and symbols lie where they
say. -/
theorem link_order (roots : List Path) (n : Int) (hn : (entries.values.map Entry.path).Nodup)
    (he : entries.pairs.Perm entries'.pairs) (hu : uses.Perm uses') :
    (∀ p, (link roots uses entries n).1.find? p = (link roots uses entries' n).1.find? p) ∧
      (∀ stats, (link roots uses entries n).2 = .ok stats ↔
        (link roots uses entries' n).2 = .ok stats) ∧
      (∀ stats, (link roots uses entries n).2 = .ok stats ↔
        (link roots uses' entries n).2 = .ok stats) ∧
      (∀ stats, (link roots uses entries n).2 = .ok stats →
        Reordered (link roots uses entries n).1 (link roots uses' entries n).1) ∧
      (IsPlaced entries → (∀ e ∈ entries.values, e.generation = n) →
        ∃ stats, (link roots uses entries n).2 = .ok stats) := by
  obtain ⟨hentries, hstats⟩ := link_entries_perm roots uses n hn he
  refine ⟨hentries, hstats, fun stats => ⟨fun h => ?_, fun h => ?_⟩, fun stats h => ?_, ?_⟩
  · exact (link_uses_perm roots hu h).1
  · exact (link_uses_perm roots hu.symm h).1
  · exact (link_uses_perm roots hu h).2
  · intro H hg
    exact ⟨_, congrArg Prod.snd (H.link_eq hg roots uses)⟩

/-- Two files and two uses, taken in one order and in the other. -/
theorem link_order_two_files :
    let span : Range := .ofCoords 0 0 0 1
    let use (name : String) : Use := ⟨"/p/c.py", span, name, none, none, none, false⟩
    let entry (path : String) : String × Entry := (path,
      { path, language := "python",
        symbols := [{ name := "f", kind := .function, file := path, range := span, slot := 0 }] })
    let entries : Table String Entry := .ofList [entry "/p/a.py", entry "/p/b.py"]
    let entries' : Table String Entry := .ofList [entry "/p/b.py", entry "/p/a.py"]
    (link [] [use "f", use "g"] entries 0).2 = .ok ⟨1, 0, 1⟩ ∧
      (link [] [use "f", use "g"] entries' 0).2 = .ok ⟨1, 0, 1⟩ ∧
      (link [] [use "g", use "f"] entries 0).2 = .ok ⟨1, 0, 1⟩ := by
  intro span use entry entries entries'
  have hok : (link [] [use "f", use "g"] entries 0).2 = .ok ⟨1, 0, 1⟩ := by cbv
  have hpaths : (entries.values.map Entry.path).Nodup := by decide
  have hswap : entries.pairs.Perm entries'.pairs := .swap _ _ _
  have hswap' : [use "f", use "g"].Perm [use "g", use "f"] := .swap _ _ _
  obtain ⟨-, hentries, huses, -, -⟩ := link_order [] 0 hpaths hswap hswap'
  exact ⟨hok, (hentries _).1 hok, (huses _).1 hok⟩

/-- Where a symbol does not lie where it says, what a failure leaves behind hangs on the order of
the uses. -/
theorem link_unplaced_order :
    let span : Range := .ofCoords 0 0 0 1
    let use (name : String) : Use := ⟨"/p/b.py", span, name, none, none, none, false⟩
    let symbol (name : String) (slot : Int) : Symbol :=
      { name, kind := .function, file := "/p/a.py", range := span, slot }
    let entries : Table String Entry := .ofList [("/p/a.py",
      { path := "/p/a.py", language := "python", symbols := [symbol "f" 0, symbol "g" 7] })]
    (entries.values.map Entry.path).Nodup ∧ [use "f", use "g"].Perm [use "g", use "f"] ∧
      ¬ Reordered (link [] [use "f", use "g"] entries 0).1
        (link [] [use "g", use "f"] entries 0).1 := by
  intro span use symbol entries
  refine ⟨by decide, List.Perm.swap _ _ _, fun h => ?_⟩
  have hone : ((link [] [use "f", use "g"] entries 0).1.find? "/p/a.py").map
      (fun e => e.symbols.map fun s => s.references.length) = some [1, 0] := by cbv
  have hnone : ((link [] [use "g", use "f"] entries 0).1.find? "/p/a.py").map
      (fun e => e.symbols.map fun s => s.references.length) = some [0, 0] := by cbv
  obtain ⟨e, he, hl⟩ := Option.map_eq_some_iff.1 hone
  obtain ⟨e', he', hl'⟩ := Option.map_eq_some_iff.1 hnone
  obtain ⟨s, hs, hlen⟩ := Option.map_eq_some_iff.1
    (List.getElem?_map.symm.trans (congrArg (fun l => l[0]?) hl))
  obtain ⟨s', hs', hlen'⟩ := Option.map_eq_some_iff.1
    (List.getElem?_map.symm.trans (congrArg (fun l => l[0]?) hl'))
  have hperm := (h.references _ e e' he he' 0 s s' hs hs').length_eq
  omega

end Link

end CodeAtlas
