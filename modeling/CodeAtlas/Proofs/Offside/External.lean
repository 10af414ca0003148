import CodeAtlas.Proofs.Offside.Hints

/-!
# Uses of names that need no import

Whether a use is taken for that of a builtin name is decided by its name and its hint, after the
walk (`Mention.isBuiltin_iff`). What was called by its bare name, and what was called as a member of
something, can no longer be told apart then: either is taken for a builtin name if it has the name
of one that the file neither declares nor imports from a module, and if nothing is known of the
member's object (`Module.external_iff`).
-/

namespace CodeAtlas.Offside

/-- The name is a builtin one that is not among the declared names, and no import binds it to a name
of a module. -/
structure IsFree (declared : List String) (bs : List Binding) (id : String) : Prop where
  builtin : id ∈ builtins
  undeclared : id ∉ declared
  unimported : lastMember? bs id = none

instance (declared : List String) (bs : List Binding) (id : String) :
    Decidable (IsFree declared bs id) :=
  decidable_of_iff (id ∈ builtins ∧ id ∉ declared ∧ lastMember? bs id = none)
    ⟨fun h => ⟨h.1, h.2.1, h.2.2⟩, fun h => ⟨h.builtin, h.undeclared, h.unimported⟩⟩

theorem Mention.isBuiltin_iff (declared : List String) (owner : Option String) (bs : List Binding)
    (k : Mention) : k.isBuiltin declared (Names.behind owner bs).imported = true ↔
      k.module = none ∧ k.container = none ∧ IsFree declared bs k.name := by
  simp only [isBuiltin, Table.contains, Names.find?_imported_behind, Bool.and_eq_true,
    Bool.not_eq_true', Option.isNone_iff_eq_none, Option.isSome_eq_false_iff,
    List.contains_eq_mem, decide_eq_true_eq, decide_eq_false_iff_not, and_assoc]
  exact and_congr_right fun _ => and_congr_right fun _ =>
    ⟨fun h => ⟨h.1, h.2.1, h.2.2⟩, fun h => ⟨h.builtin, h.undeclared, h.unimported⟩⟩

/-! ## Imports before a node -/

mutual

/-- The imports before a node of a statement are among those around and in it. -/
theorem Stmt.before_subset {owner : Option String} {before : List Binding} {n : Node} (t : Stmt)
    (h : n ∈ t.nodes owner before) : n.before ⊆ before ++ t.bindings := by
  have hplaced : ∀ {cs}, n ∈ placed owner before cs → n.before ⊆ before ++ t.bindings := by
    intro cs hn
    obtain ⟨c, -, rfl⟩ := List.mem_map.1 hn
    exact List.subset_append_left _ _
  cases t with
  | function name span decorators signature body =>
    rcases List.mem_append.1 h with h | h
    · exact hplaced h
    · exact before_subset_of_mem_nodesIn body h
  | class_ name span decorators bases keywords body =>
    rcases List.mem_append.1 h with h | h
    · exact hplaced h
    · exact before_subset_of_mem_nodesIn body h
  | clause parts body =>
    rcases List.mem_append.1 h with h | h
    · exact hplaced h
    · exact before_subset_of_mem_nodesIn body h
  | assign targets value span => exact hplaced h
  | annotated target note value span => exact hplaced h
  | simple parts => exact hplaced h
  | _ => cases h

theorem before_subset_of_mem_nodesIn {owner : Option String} {before : List Binding} {n : Node}
    (ts : List Stmt) (h : n ∈ nodesIn owner before ts) : n.before ⊆ before ++ bindingsIn ts := by
  cases ts with
  | nil => cases h
  | cons t ts =>
    rw [bindingsIn, ← List.append_assoc]
    rcases List.mem_append.1 h with h | h
    · exact fun b hb => List.mem_append_left _ (t.before_subset h hb)
    · exact before_subset_of_mem_nodesIn ts h

end

theorem lastTo?_eq_none_iff {α : Type} {kind : Imported → Option α} {bs : List Binding}
    {id : String} : lastTo? kind bs id = none ↔ ∀ b ∈ bs, b.name = id → kind b.target = none := by
  simp [lastTo?, boundTo]

/-! ## What is known of a member -/

namespace Node

/-- Nothing is known of the object whose member is called: it is not the receiver of a method, and
no import has bound what its name begins with. A name of a module counts for a plain name only. -/
def ownerUnknown (n : Node) : Expr → Prop
  | .name root _ =>
    ¬ ((root = "self" ∨ root = "cls") ∧ n.owner.isSome) ∧
      lastModule? n.before root = none ∧ lastMember? n.before root = none
  | owner => ∀ root path, owner.dotted? = some (root :: path) → lastModule? n.before root = none

variable {n : Node} {k : Mention}

/-- Whether the use is taken for that of a builtin name, as it can be told from what it is of. -/
structure Judged (declared : List String) (bs : List Binding) (n : Node) (u : Use) : Prop where
  name : ∀ id span, n.callee = .name id span → (u.external = true ↔ IsFree declared bs id)
  member : ∀ owner id span, n.callee = .member owner id span →
    (u.external = true ↔ n.ownerUnknown owner ∧ IsFree declared bs id)

/-- A bare name has no hint exactly if no import before it binds it to a name of a module. -/
theorem mention_name (hk : n.mention? = some k) {id : String} {span : Span}
    (hc : n.callee = .name id span) :
    k.container = none ∧ (k.module = none ↔ lastMember? n.before id = none) ∧
      (k.module = none → k.name = id) := by
  have hhead := head?_of_mention? hk
  rw [hc, Expr.mention, Names.find?_imported_behind] at hhead
  cases hm : lastMember? n.before id with
  | none =>
    rw [hm] at hhead
    cases hhead
    exact ⟨rfl, iff_of_true rfl rfl, fun _ => rfl⟩
  | some target =>
    rw [hm] at hhead
    cases hhead
    exact ⟨rfl, by simp, by simp⟩

/-- A member keeps its name, and has no hint exactly if nothing is known of its object. -/
theorem mention_member (hk : n.mention? = some k) {owner : Expr} {id : String} {span : Span}
    (hc : n.callee = .member owner id span) :
    k.name = id ∧ (k.module = none ∧ k.container = none ↔ n.ownerUnknown owner) := by
  have hhead := head?_of_mention? hk
  rw [hc] at hhead
  have hmodules := Names.find?_modules_behind n.owner n.before
  cases owner with
  | name root rootSpan =>
    have hbehind : (Names.behind n.owner n.before).owner = n.owner := Names.owner_bindAll ..
    simp only [Expr.mention, hbehind, hmodules, Names.find?_imported_behind] at hhead
    rw [ownerUnknown]
    split at hhead
    · next hself =>
      cases hhead
      have hreceiver : (root = "self" ∨ root = "cls") ∧ n.owner.isSome := by simpa using hself
      have hsome : n.owner ≠ none := Option.isSome_iff_ne_none.1 hreceiver.2
      simp [hreceiver, hsome]
    · next hself =>
      have hreceiver : ¬ ((root = "self" ∨ root = "cls") ∧ n.owner.isSome) := by
        simpa using hself
      cases hm : lastModule? n.before root with
      | some m =>
        rw [hm] at hhead
        cases hhead
        simp
      | none =>
        rw [hm] at hhead
        cases hi : lastMember? n.before root with
        | some target =>
          rw [hi] at hhead
          cases hhead
          simp
        | none =>
          rw [hi] at hhead
          cases hhead
          exact ⟨rfl, iff_of_true ⟨rfl, rfl⟩ ⟨hreceiver, rfl, rfl⟩⟩
  | _ =>
    simp only [Expr.mention] at hhead
    cases hhead
    refine ⟨rfl, ?_⟩
    simp only [Expr.memberModule, ownerUnknown, and_true]
    split
    · next root path hdotted => simp [hdotted, hmodules]
    · next hdotted => simpa using fun root path h => absurd h (hdotted root path)

end Node

/-- In lists of one length each element of the second has a partner in the first. -/
theorem exists_mem_zip {α β : Type} {as : List α} {bs : List β} (h : as.length = bs.length) {b : β}
    (hb : b ∈ bs) : ∃ a, (a, b) ∈ as.zip bs := by
  have hmap : (as.zip bs).map Prod.snd = bs := List.map_snd_zip (Nat.le_of_eq h.symm)
  rw [← hmap] at hb
  obtain ⟨⟨a, b'⟩, hab, rfl⟩ := List.mem_map.1 hb
  exact ⟨a, hab⟩

namespace Module

theorem before_subset {m : Module} {n : Node} (hn : n ∈ m.mentioned) :
    n.before ⊆ bindingsIn m.body := by
  have hnode : n ∈ nodesIn none [] m.body := (List.mem_filter.1 hn).1
  exact before_subset_of_mem_nodesIn m.body hnode

/-- Of each use it can be told from its callee or base whether it is taken for a builtin name. -/
theorem uses_judged (m : Module) (file : String) (columns : ColumnMap) :
    List.Forall₂ (fun u n => Node.Judged
        ((m.extract file columns).declarations.map Declaration.name) (bindingsIn m.body) n u)
      (m.extract file columns).uses m.mentioned := by
  obtain ⟨hlength, hmade⟩ := List.forall₂_iff_zip.1 (m.uses_made file columns)
  refine List.forall₂_iff_zip.2 ⟨hlength, fun {u n} hun => ?_⟩
  obtain ⟨k, hk, -, hexternal⟩ := hmade hun
  constructor
  · intro id span hc
    rw [hexternal, Mention.isBuiltin_iff]
    obtain ⟨hcontainer, hmodule, hname⟩ := Node.mention_name hk hc
    constructor
    · rintro ⟨hm, -, hfree⟩
      exact hname hm ▸ hfree
    · intro hfree
      -- What no import of the file binds is bound by none of those before the node.
      have hm : k.module = none := hmodule.2 (lastTo?_eq_none_iff.2 fun b hb =>
        lastTo?_eq_none_iff.1 hfree.unimported b (before_subset (List.of_mem_zip hun).2 hb))
      exact ⟨hm, hcontainer, (hname hm).symm ▸ hfree⟩
  · intro owner id span hc
    rw [hexternal, Mention.isBuiltin_iff]
    obtain ⟨rfl, hunknown⟩ := Node.mention_member hk hc
    rw [← hunknown, and_assoc]

/-- A use is taken for that of a builtin name exactly if its callee or base has a free one and is a
bare name, or a member of something that nothing is known of. So none but bare names are taken for
builtin ones exactly if no such member has a free name. -/
theorem external_iff (m : Module) (file : String) (columns : ColumnMap) :
    let x := m.extract file columns
    let declared := x.declarations.map Declaration.name
    List.Forall₂ (fun u n => Node.Judged declared (bindingsIn m.body) n u) x.uses m.mentioned ∧
      ((∀ p ∈ x.uses.zip m.mentioned, p.1.external = true → ∃ id span,
          p.2.callee = .name id span ∧ IsFree declared (bindingsIn m.body) id) ↔
        ∀ n ∈ m.mentioned, ∀ owner id span, n.callee = .member owner id span →
          n.ownerUnknown owner → ¬ IsFree declared (bindingsIn m.body) id) := by
  intro x declared
  have hall := m.uses_judged file columns
  obtain ⟨hlength, hpair⟩ := List.forall₂_iff_zip.1 hall
  refine ⟨hall, fun h n hn owner id span hc hunknown hfree => ?_, fun h ⟨u, n⟩ hun hexternal => ?_⟩
  · obtain ⟨u, hun⟩ := exists_mem_zip hlength hn
    obtain ⟨id', span', hname, -⟩ := h _ hun (((hpair hun).member owner id span hc).2
      ⟨hunknown, hfree⟩)
    rw [hc] at hname
    cases hname
  · have hn := (List.of_mem_zip hun).2
    cases hc : n.callee with
    | name id span => exact ⟨id, span, rfl, ((hpair hun).name id span hc).1 hexternal⟩
    | member owner id span =>
      obtain ⟨hunknown, hfree⟩ := ((hpair hun).member owner id span hc).1 hexternal
      exact absurd hfree (h n hn owner id span hc hunknown)
    | _ =>
      -- Nothing else is recorded.
      have hmentioned := (List.mem_filter.1 hn).2
      simp [Node.isMentioned, hc, Expr.span?] at hmentioned

set_option maxRecDepth 100000 in
/-- A method of an object that nothing is known of is taken for a builtin name. -/
theorem method_of_unknown_external :
    ∃ m, Module.parse "x.open()\n" = .ok m ∧
      ∃ p ∈ (m.extract "a.py" ⟨#[]⟩).uses.zip m.mentioned,
        p.2.callee.dotted? = some ["x", "open"] ∧ p.1.external = true :=
  exists_parse _ _ (by decide +kernel)

end Module
end CodeAtlas.Offside
