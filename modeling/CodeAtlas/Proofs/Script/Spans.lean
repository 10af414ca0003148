import CodeAtlas.Proofs.Grammar.Readings
import CodeAtlas.Proofs.Script.Scanner
import CodeAtlas.Proofs.Source.Places
import CodeAtlas.Script.Collect

/-!
# Declarations of scripts

`Program.declared` lists the names that a script declares, each with the span of the node that does.
What is recorded is among them (`Program.findings_subset`), and each of the spans goes from a place of
the script to one that is not before it (`Program.spans_of_mem_declared`).
-/

namespace CodeAtlas.Script

open Grammar (Tree)

mutual

/-- The names that a node declares, each with the span of its declaration. -/
def Node.declared : Node → List (String × Span)
  | .identifier .. | .this => []
  | .member object _ _ others => object.declared ++ declaredAll others
  | .call callee arguments => callee.declared ++ declaredAll arguments
  | .construct callee arguments => callee.declared ++ declaredAll arguments
  | .declaration _ name span parts => (name, span) :: declaredAll parts
  | .framed _ parts => declaredAll parts

/-- The names that nodes declare. -/
def declaredAll : List Node → List (String × Span)
  | [] => []
  | n :: ns => n.declared ++ declaredAll ns

end

/-! ## What is recorded -/

/-- The names of recorded declarations, with their spans. -/
def Findings.declared (f : Findings) : List (String × Span) := f.1.map fun d => (d.name, d.span)

theorem Findings.declared_append_subset {f g : Findings} {xs ys : List (String × Span)}
    (hf : f.declared ⊆ xs) (hg : g.declared ⊆ ys) : (f ++ g).declared ⊆ xs ++ ys := by
  intro x hx
  rw [show (f ++ g).declared = f.declared ++ g.declared from List.map_append] at hx
  rcases List.mem_append.1 hx with hx | hx
  · exact List.mem_append_left _ (hf hx)
  · exact List.mem_append_right _ (hg hx)

theorem Node.declared_mention (c : Context) (n : Node) : (n.mention c).declared = [] := by
  rw [mention.eq_def]
  split <;> rfl

theorem Node.declared_constructed (n : Node) : n.constructed.declared = [] := by
  rw [constructed.eq_def]
  split <;> rfl

mutual

/-- A node records nothing but what it declares. -/
theorem Node.findings_subset (c : Context) (n : Node) : (n.findings c).declared ⊆ n.declared := by
  cases n with
  | identifier name span => exact List.nil_subset _
  | this => exact List.nil_subset _
  | member object property span others =>
    exact Findings.declared_append_subset (object.findings_subset c) (findingsAll_subset c others)
  | call callee arguments =>
    have hboth := Findings.declared_append_subset (callee.findings_subset c)
      (findingsAll_subset c arguments)
    rw [Node.findings, Node.declared]
    simpa using Findings.declared_append_subset hboth (List.subset_nil.2 (callee.declared_mention c))
  | construct callee arguments =>
    have hboth := Findings.declared_append_subset (callee.findings_subset c)
      (findingsAll_subset c arguments)
    rw [Node.findings, Node.declared]
    simpa using Findings.declared_append_subset hboth (List.subset_nil.2 callee.declared_constructed)
  | declaration form name span parts =>
    have hparts := findingsAll_subset (c.inside form name) parts
    rw [Node.findings, Node.declared]
    split
    · exact List.subset_cons_of_subset _ hparts
    · exact List.cons_subset_cons _ hparts
  | framed frame parts => exact findingsAll_subset (c.within frame) parts

theorem findingsAll_subset (c : Context) (ns : List Node) :
    (findingsAll c ns).declared ⊆ declaredAll ns := by
  cases ns with
  | nil => exact List.nil_subset _
  | cons n ns =>
    rw [findingsAll, declaredAll]
    exact Findings.declared_append_subset (n.findings_subset c) (findingsAll_subset c ns)

end

/-! ## Spans of nodes -/

theorem getElem?_placesFrom (p : Place) (cs : List Char) {i : Nat} (h : i ≤ cs.length) :
    (placesFrom p cs)[i]? = some (p.afterAll (cs.take i)) := by
  induction cs generalizing p i with
  | nil =>
    obtain rfl : i = 0 := Nat.le_zero.1 h
    rfl
  | cons c cs ih =>
    cases i with
    | zero => rfl
    | succ i => exact ih (p.after c) (Nat.le_of_succ_le_succ h)

/-- A span from a place of a text to one that is not before it. -/
structure Spans (cs : List Char) (span : Span) : Prop where
  start : Text.IsPlace false cs span.start
  stop : Text.IsPlace false cs span.stop
  le : span.start ≤ span.stop

theorem Source.spans_span {cs : List Char} {t : Tree} (h : t.Within cs.length) :
    Spans cs ((ofText cs).span t) := by
  have hplace : ∀ i ≤ cs.length,
      (ofText cs).places.getD i ⟨1, 0⟩ = Text.origin.pass false (cs.take i) (cs.drop i) := by
    intro i hi
    rw [Place.pass_false, ofText, Array.getD_eq_getD_getElem?, List.getElem?_toArray,
      getElem?_placesFrom _ _ hi]
    rfl
  have his : ∀ i ≤ cs.length, Text.IsPlace false cs ((ofText cs).places.getD i ⟨1, 0⟩) := fun i hi =>
    ⟨cs.take i, cs.drop i, (List.take_append_drop i cs).symm, Text.unsplit_false _ _, hplace i hi⟩
  have hstart := Nat.le_trans h.start_le h.stop_le
  refine ⟨his _ hstart, his _ h.stop_le, ?_⟩
  simp only [span]
  rw [hplace _ hstart, hplace _ h.stop_le, Place.pass_false, Place.pass_false]
  exact Place.afterAll_le_of_prefix _ (List.take_prefix_take_left h.start_le)

theorem forall_mem_declaredAll {P : String × Span → Prop} {ns : List Node} :
    (∀ x ∈ declaredAll ns, P x) ↔ ∀ n ∈ ns, ∀ x ∈ n.declared, P x := by
  induction ns with
  | nil => simp [declaredAll]
  | cons n ns ih => rw [declaredAll, List.forall_mem_append, List.forall_mem_cons, ih]

mutual

/-- The declarations of a node of a script have the spans of nodes of the grammar. -/
theorem Source.spans_node {cs : List Char} (t : Tree) (h : t.Within cs.length) :
    ∀ x ∈ ((ofText cs).node t).declared, Spans cs x.2 := by
  cases t with
  | node kind role start stop children =>
    have hparts := spans_nodes children h.children
    have hspan := spans_span h
    rw [forall_mem_declaredAll] at hparts
    unfold node
    extract_lets t parts having others leaf name
    have hphrase : ∀ x ∈ (Node.phrase parts).declared, Spans cs x.2 :=
      forall_mem_declaredAll.2 hparts
    have hhaving : ∀ {r : String} {u : Tree} {n : Node}, having r = some (u, n) →
        ∀ x ∈ n.declared, Spans cs x.2 := fun hr =>
      hparts _ (List.of_mem_zip (List.mem_of_find?_eq_some hr)).2
    have hothers : ∀ r, ∀ x ∈ declaredAll (others r), Spans cs x.2 := by
      refine fun r => forall_mem_declaredAll.2 fun n hn => ?_
      obtain ⟨c, hc, rfl⟩ := List.mem_map.1 hn
      exact hparts _ (List.of_mem_zip (List.mem_of_mem_eraseP hc)).2
    have hleaf : ∀ {n : Node}, n.declared = [] → ∀ x ∈ (leaf n).declared, Spans cs x.2 := by
      intro n hn
      simp only [leaf]
      split
      · simp [hn]
      · exact hphrase
    clear_value others leaf name
    split
    · exact hleaf rfl
    · exact hleaf rfl
    · split
      · next hobject hproperty =>
        split
        · exact List.forall_mem_append.2 ⟨hhaving hobject, hothers _⟩
        · exact hphrase
      · exact hphrase
    · split
      · next hcallee => exact List.forall_mem_append.2 ⟨hhaving hcallee, hothers _⟩
      · exact hphrase
    · split
      · next hcallee => exact List.forall_mem_append.2 ⟨hhaving hcallee, hothers _⟩
      · exact hphrase
    · split
      · exact List.forall_mem_cons.2 ⟨hspan, hphrase⟩
      · exact hphrase

theorem Source.spans_nodes {cs : List Char} (ts : List Tree) (h : ∀ t ∈ ts, t.Within cs.length) :
    ∀ x ∈ declaredAll ((ofText cs).nodes ts), Spans cs x.2 := by
  cases ts with
  | nil => exact fun x hx => nomatch hx
  | cons t ts =>
    obtain ⟨ht, hts⟩ := List.forall_mem_cons.1 h
    intro x hx
    rw [nodes, declaredAll] at hx
    rcases List.mem_append.1 hx with hx | hx
    · exact spans_node t ht x hx
    · exact spans_nodes ts hts x hx

end

/-! ## Scripts -/

namespace Program

/-- The names that a script declares, each with the span of its declaration. -/
def declared (p : Program) : List (String × Span) := declaredAll p.body

/-- What is recorded of a script is among what it declares. -/
theorem findings_subset (p : Program) : (findingsAll ⟨none, false⟩ p.body).declared ⊆ p.declared :=
  findingsAll_subset _ p.body

theorem spans_of_mem_declared {d : Dialect} {content : String} {p : Program}
    (h : parse? d content = some p) {x : String × Span} (hx : x ∈ p.declared) :
    Spans content.toList x.2 := by
  rw [parse?] at h
  obtain ⟨root, hroot, rfl⟩ := Option.map_eq_some_iff.1 h
  have hwithin := Grammar.parse?_within (Scanner.scan_sound d.typed) hroot
  rw [Source.ofText, List.size_toArray] at hwithin
  exact Source.spans_nodes root.children hwithin.children x hx

/-- Each recorded declaration has the range of the span of a name that the script declares. -/
theorem exists_declared (p : Program) (file : String) (columns : ColumnMap) {d : Declaration}
    (hd : d ∈ (p.extract file columns).declarations) :
    ∃ span, (d.name, span) ∈ p.declared ∧ d.range = span.toRange columns := by
  simp only [extract, sortByStart, List.mem_mergeSort] at hd
  obtain ⟨e, he, rfl⟩ := List.mem_map.1 hd
  obtain ⟨f, -, he⟩ := List.mem_flatMap.1 he
  have hmem := List.mem_map_of_mem (f := fun d : Definition => (d.name, d.span))
    (List.mem_filter.1 he).1
  exact ⟨e.span, p.findings_subset hmem, rfl⟩

end Program
end CodeAtlas.Script
