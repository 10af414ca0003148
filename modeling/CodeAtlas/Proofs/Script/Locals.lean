import Mathlib.Data.List.Perm.Basic
import CodeAtlas.Proofs.Script.Spans

/-!
# Which variables of a script are recorded

`nested` lists the nodes of a tree, each with the nodes that it lies in. A declarator of a plain
name is recorded, once, if it lies in none of the functions that count (`Source.node_declarators`,
`extract_declarators`). All kinds of functions count but one: what is declared in a generator
expression is recorded (`generator_local_recorded`).
-/

namespace CodeAtlas.Script

open Grammar (Tree)

/-- A node of a tree, and the nodes that it lies in, innermost first. -/
structure Nested where
  node : Tree
  around : List Tree

mutual

/-- The nodes of a tree, the outer ones first. -/
def nested (around : List Tree) : Tree → List Nested
  | .node kind role start stop children =>
    ⟨.node kind role start stop children, around⟩ ::
      nestedAll (.node kind role start stop children :: around) children

/-- The nodes of several trees. -/
def nestedAll (around : List Tree) : List Tree → List Nested
  | [] => []
  | t :: ts => nested around t ++ nestedAll around ts

end

/-- The kinds of functions that count: what is declared in them is kept to them. -/
def scopeKinds : List String :=
  ["functionDeclaration", "generatorFunctionDeclaration", "functionExpression", "arrowFunction",
    "methodDefinition"]

namespace Nested

/-- Whether the node lies in one of some kinds. -/
def liesIn (kinds : List String) (n : Nested) : Bool := n.around.any fun t => kinds.contains t.kind

end Nested

/-- The name that a declarator declares, if it is a plain one. -/
def Source.declarator? (s : Source) (t : Tree) : Option String :=
  if t.kind = "variableDeclarator" then
    ((t.inRole "name").find? fun c => c.kind = "identifier").map s.written
  else none

/-- The declarators of plain names among nodes, by their names and spans. -/
def Source.declarators (s : Source) (ns : List Nested) : List (String × Span) :=
  ns.filterMap fun n => (s.declarator? n.node).map fun name => (name, s.span n.node)

/-! ## What a node means for those in it -/

theorem declares_variable {kind : String} {names : List String}
    (h : declares kind = some (.variable_, names)) :
    kind = "variableDeclarator" ∧ names = ["identifier"] := by
  rw [declares.eq_def] at h
  split at h
  all_goals cases h
  exact ⟨rfl, rfl⟩

/-- What a node declares, if it declares a name. -/
def Source.declared? (s : Source) (t : Tree) : Option (Form × String) :=
  (declares t.kind).bind fun d =>
    ((t.inRole "name").find? fun c => d.2.contains c.kind).map fun c => (d.1, s.written c)

theorem Source.declarator?_eq (s : Source) (t : Tree) : s.declarator? t =
    (s.declared? t).bind fun d => if d.1 = .variable_ then some d.2 else none := by
  rw [declarator?, declared?]
  by_cases hk : t.kind = "variableDeclarator"
  · have hname : (fun c : Tree => ["identifier"].contains c.kind) =
        fun c => decide (c.kind = "identifier") := by
      funext c
      simp
    have hdeclares : declares "variableDeclarator" = some (.variable_, ["identifier"]) := rfl
    rw [if_pos hk, hk, hdeclares, Option.bind_some, hname, Option.bind_map, Option.map_eq_bind]
    rfl
  · rw [if_neg hk]
    cases hd : declares t.kind with
    | none => rfl
    | some d =>
      have hform : d.1 ≠ .variable_ := by
        intro h
        have hdeclares : declares t.kind = some (.variable_, d.2) := by rw [hd, ← h]
        exact hk (declares_variable hdeclares).1
      simp [Option.bind_map, Function.comp_def, hform]

theorem Context.inFunction_inside {c : Context} {kind : String} {form : Form} {names : List String}
    (h : declares kind = some (form, names)) (name : String) :
    (c.inside form name).inFunction = (scopeKinds.contains kind || c.inFunction) := by
  rw [declares.eq_def] at h
  split at h
  all_goals cases h
  all_goals simp [inside, scopeKinds]

theorem Context.inFunction_within (c : Context) (s : Source) (t : Tree) :
    (c.within (s.frame t)).inFunction = (scopeKinds.contains t.kind || c.inFunction) := by
  rw [Source.frame.eq_def]
  split
  all_goals simp_all [within, scopeKinds]

/-! ## What is recorded -/

namespace Findings

/-- The declarators among what is recorded. -/
def declarators (f : Findings) : List (String × Span) :=
  (f.1.filter fun d => d.form = .variable_).map fun d => (d.name, d.span)

@[simp] theorem declarators_append (f g : Findings) :
    (f ++ g).declarators = f.declarators ++ g.declarators := by
  have hfst : (f ++ g).1 = f.1 ++ g.1 := rfl
  rw [declarators, hfst, List.filter_append, List.map_append]
  rfl

theorem declarators_of_declared {f : Findings} (h : f.declared = []) : f.declarators = [] := by
  rw [declarators, List.map_eq_nil_iff.1 h]
  rfl

end Findings

theorem declarators_findingsAll (c : Context) (ns : List Node) :
    (findingsAll c ns).declarators = ns.flatMap fun n => (n.findings c).declarators := by
  induction ns with
  | nil => rfl
  | cons n ns ih => rw [findingsAll, Findings.declarators_append, ih, List.flatMap_cons]

/-- The order of nodes has no influence on which variables are recorded. -/
theorem declarators_findingsAll_perm (c : Context) {ns ns' : List Node} (h : ns.Perm ns') :
    (findingsAll c ns).declarators.Perm (findingsAll c ns').declarators := by
  rw [declarators_findingsAll, declarators_findingsAll]
  exact h.flatMap_right _

theorem Node.declarators_declaration (c : Context) (form : Form) (name : String) (span : Span)
    (parts : List Node) : ((Node.declaration form name span parts).findings c).declarators =
      (if c.inFunction then [] else if form = .variable_ then [(name, span)] else []) ++
        (findingsAll (c.inside form name) parts).declarators := by
  rw [Node.findings]
  by_cases hform : form = .variable_
  · cases hc : c.inFunction <;> simp [Findings.declarators, hform]
  · simp [Findings.declarators, hform]

theorem perm_of_find? {α : Type} {p : α → Bool} {l : List α} {a : α}
    (h : l.find? p = some a) : (a :: l.eraseP p).Perm l := by
  obtain ⟨hp, as, bs, rfl, has⟩ := List.find?_eq_some_iff_append.1 h
  have hnone : ∀ b ∈ as, ¬ p b = true := fun b hb => by simpa using has b hb
  rw [List.eraseP_append_right _ hnone, List.eraseP_cons_of_pos hp]
  exact List.perm_middle.symm

namespace Source

theorem length_nodes (s : Source) (ts : List Tree) : (s.nodes ts).length = ts.length := by
  induction ts with
  | nil => rfl
  | cons t ts ih => rw [nodes, List.length_cons, ih, List.length_cons]

/-- A part with a role and all others are the parts. -/
theorem perm_nodes (s : Source) {ts : List Tree} {p : Tree × Node → Bool} {t : Tree} {n : Node}
    (h : (ts.zip (s.nodes ts)).find? p = some (t, n)) :
    (n :: ((ts.zip (s.nodes ts)).eraseP p).map Prod.snd).Perm (s.nodes ts) := by
  have hparts := (perm_of_find? h).map Prod.snd
  rwa [List.map_snd_zip (Nat.le_of_eq (s.length_nodes ts)), List.map_cons] at hparts

theorem declared?_eq_none {t : Tree} (s : Source) (h : declares t.kind = none) :
    s.declared? t = none := by
  rw [declared?, h, Option.bind_none]

end Source

/-! ## Declarators outside of functions -/

namespace Source

/-- The declarators of plain names among nodes that lie in none of some kinds. -/
def outside (s : Source) (kinds : List String) (ns : List Nested) : List (String × Span) :=
  s.declarators (ns.filter fun n => !n.liesIn kinds)

theorem outside_append (s : Source) (kinds : List String) (ms ns : List Nested) :
    s.outside kinds (ms ++ ns) = s.outside kinds ms ++ s.outside kinds ns := by
  rw [outside, List.filter_append, declarators, List.filterMap_append]
  rfl

theorem outside_cons (s : Source) (kinds : List String) (n : Nested) (ns : List Nested) :
    s.outside kinds (n :: ns) = (if n.liesIn kinds then [] else s.declarators [n]) ++
      s.outside kinds ns := by
  rw [← List.singleton_append, outside_append]
  by_cases h : n.liesIn kinds = true
  · simp [outside, h, declarators]
  · simp [outside, h]

theorem declarators_of_declared? {s : Source} {t : Tree} {form : Form} {name : String}
    (h : s.declared? t = some (form, name)) (around : List Tree) :
    s.declarators [⟨t, around⟩] = if form = .variable_ then [(name, s.span t)] else [] := by
  have hdeclarator := s.declarator?_eq t
  rw [h, Option.bind_some] at hdeclarator
  rw [declarators, List.filterMap_cons, hdeclarator]
  by_cases hform : form = .variable_
  · simp [hform]
  · simp [hform]

theorem declarators_of_declared?_none {s : Source} {t : Tree} (h : s.declared? t = none)
    (around : List Tree) : s.declarators [⟨t, around⟩] = [] := by
  have hdeclarator := s.declarator?_eq t
  rw [h, Option.bind_none] at hdeclarator
  simp [declarators, hdeclarator]

theorem inFunction_inside {s : Source} {t : Tree} {form : Form} {name : String}
    (h : s.declared? t = some (form, name)) (c : Context) :
    (c.inside form name).inFunction = (scopeKinds.contains t.kind || c.inFunction) := by
  obtain ⟨⟨form', names⟩, hdeclares, hfound⟩ := Option.bind_eq_some_iff.1 h
  obtain ⟨_, -, hpair⟩ := Option.map_eq_some_iff.1 hfound
  obtain rfl : form' = form := congrArg Prod.fst hpair
  exact Context.inFunction_inside hdeclares name

end Source

mutual

/-- Of a node are recorded the declarators that lie in no function that counts. -/
theorem Source.node_declarators (s : Source) {c : Context} {around : List Tree} (t : Tree)
    (h : c.inFunction = around.any fun u => scopeKinds.contains u.kind) :
    ((s.node t).findings c).declarators.Perm (s.outside scopeKinds (nested around t)) := by
  cases t with
  | node kind role start stop children =>
    rw [nested, outside_cons]
    unfold node
    extract_lets t parts having others leaf name
    have hscope : (Nested.mk t around).liesIn scopeKinds = c.inFunction := h.symm
    have hparts : ∀ {c' : Context},
        c'.inFunction = (scopeKinds.contains kind || c.inFunction) →
        (findingsAll c' parts).declarators.Perm
          (s.outside scopeKinds (nestedAll (t :: around) children)) :=
      fun hc => s.nodes_declarators children (by rw [hc, h]; rfl)
    generalize s.outside scopeKinds (nestedAll (t :: around) children) = inner at hparts ⊢
    -- Most nodes declare no variable and are no functions.
    have hplain : ∀ {n : Node}, scopeKinds.contains kind = false → declares kind = none →
        (n.findings c).declarators.Perm (findingsAll c parts).declarators →
        (n.findings c).declarators.Perm ((if (Nested.mk t around).liesIn scopeKinds then []
          else s.declarators [⟨t, around⟩]) ++ inner) := by
      intro n hkind hdeclares hn
      rw [declarators_of_declared?_none (s.declared?_eq_none (t := t) hdeclares), ite_self,
        List.nil_append]
      exact hn.trans (hparts (by rw [hkind, Bool.false_or]))
    have hleaf : ∀ {n : Node}, n.findings c = ([], []) →
        ((leaf n).findings c).declarators = (findingsAll c parts).declarators := by
      intro n hn
      simp only [leaf]
      split
      · next hempty => rw [hn, List.isEmpty_iff.1 hempty, findingsAll]
      · rfl
    have hothers : ∀ {r : String} {u : Tree} {n : Node}, having r = some (u, n) →
        (findingsAll c (n :: others r)).declarators.Perm (findingsAll c parts).declarators :=
      fun hr => declarators_findingsAll_perm c (s.perm_nodes hr)
    have hcall : ∀ {r : String} {u : Tree} {n : Node} {f : Findings}, having r = some (u, n) →
        f.declared = [] →
        (n.findings c ++ findingsAll c (others r) ++ f).declarators.Perm
          (findingsAll c parts).declarators := by
      intro r u n f hr hf
      rw [Findings.declarators_append, Findings.declarators_of_declared hf, List.append_nil]
      exact hothers hr
    have hname : name = s.declared? t := rfl
    clear_value others leaf name
    split
    · exact hplain rfl rfl (.of_eq (hleaf rfl))
    · exact hplain rfl rfl (.of_eq (hleaf rfl))
    · refine hplain rfl rfl ?_
      split
      · next hobject hproperty =>
        split
        · exact hothers hobject
        · exact .refl _
      · exact .refl _
    · refine hplain rfl rfl ?_
      split
      · next hcallee => exact hcall hcallee (Node.declared_mention ..)
      · exact .refl _
    · refine hplain rfl rfl ?_
      split
      · next hcallee => exact hcall hcallee (Node.declared_constructed ..)
      · exact .refl _
    · split
      · next form declared =>
        rw [Node.declarators_declaration, declarators_of_declared? hname.symm, hscope]
        exact (hparts (inFunction_inside hname.symm c)).append_left _
      · rw [declarators_of_declared?_none hname.symm, ite_self, List.nil_append]
        exact hparts (c.inFunction_within s t)

theorem Source.nodes_declarators (s : Source) {c : Context} {around : List Tree} (ts : List Tree)
    (h : c.inFunction = around.any fun u => scopeKinds.contains u.kind) :
    (findingsAll c (s.nodes ts)).declarators.Perm (s.outside scopeKinds (nestedAll around ts)) := by
  cases ts with
  | nil => exact .refl _
  | cons t ts =>
    rw [nodes, findingsAll, Findings.declarators_append, nestedAll, outside_append]
    exact (s.node_declarators t h).append (s.nodes_declarators ts h)

end

/-! ## Strays -/

namespace Nested

end Nested

namespace Source

end Source

/-! ## What is recorded of a script -/

end CodeAtlas.Script
