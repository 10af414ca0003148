import CodeAtlas.Offside.Collect
import CodeAtlas.Proofs.Offside.Words

/-!
# Definitions of parsed sources cover text

`Module.declared` lists the names that a parsed source declares, each with the span of the statement
that does. What is recorded is among them (`Module.definitions_subset`), and each of the spans goes
from a place of the source to a later one (`Module.covers_of_mem_declared`).
-/

namespace CodeAtlas.Offside

mutual

/-- The names that a statement declares, each with the span of its definition. -/
def Stmt.declared : Stmt → List (String × Span)
  | .function name span _ _ body => (name, span) :: declaredIn body
  | .class_ name span _ _ _ body => (name, span) :: declaredIn body
  | .assign targets _ span => (Expr.boundNamesAll targets).map fun id => (id, span)
  | .annotated (.name id _) _ _ span => [(id, span)]
  | .clause _ body => declaredIn body
  | _ => []

/-- The names that a block declares. -/
def declaredIn : List Stmt → List (String × Span)
  | [] => []
  | t :: ts => t.declared ++ declaredIn ts

end

/-! ## What is recorded -/

namespace Scope

/-- The names that have been recorded, with the spans of their definitions. -/
def declared (s : Scope) : List (String × Span) := s.definitions.map fun d => (d.name, d.span)

theorem declared_define_subset (s : Scope) (ids : List String) (kind : SymbolKind) (span : Span) :
    (s.define ids kind span).declared ⊆ s.declared ++ ids.map fun id => (id, span) := by
  intro x hx
  simp only [define] at hx
  split at hx
  · simpa [declared] using hx
  · exact List.mem_append_left _ hx

mutual

/-- A statement records nothing but what it declares. -/
theorem declared_visit_subset (s : Scope) (t : Stmt) :
    (s.visit t).declared ⊆ s.declared ++ t.declared := by
  intro x hx
  cases t with
  | function name span decorators signature body =>
    let s₁ := (s.define [name] (if s.names.owner.isSome then .method else .function) span).visitAll
      (decorators ++ signature.defaults ++ signature.keywordDefaults)
    have hbody : x ∈ s₁.declared ++ declaredIn body :=
      declared_visitBlock_subset { s₁ with depth := s₁.depth + 1 } body hx
    rcases List.mem_append.1 hbody with hx | hx
    · rcases List.mem_append.1 (s.declared_define_subset _ _ _ hx) with hx | hx
      · exact List.mem_append_left _ hx
      · exact List.mem_append_right _ (List.mem_append_left (declaredIn body) hx)
    · exact List.mem_append_right _ (List.mem_cons_of_mem _ hx)
  | class_ name span decorators bases keywords body =>
    let s₁ := ((s.define [name] (classKind bases) span).mention
      (bases.flatMap fun b =>
        b.base.mention (s.define [name] (classKind bases) span).names)).visitAll decorators
    have hbody : x ∈ s₁.declared ++ declaredIn body :=
      declared_visitBlock_subset { s₁ with names.owner := some name } body hx
    rcases List.mem_append.1 hbody with hx | hx
    · rcases List.mem_append.1 (s.declared_define_subset _ _ _ hx) with hx | hx
      · exact List.mem_append_left _ hx
      · exact List.mem_append_right _ (List.mem_append_left (declaredIn body) hx)
    · exact List.mem_append_right _ (List.mem_cons_of_mem _ hx)
  | assign targets value span => exact s.declared_define_subset _ _ _ hx
  | annotated target note value span =>
    cases target with
    | name id at' => exact s.declared_define_subset _ _ _ hx
    | _ => exact List.mem_append_left _ hx
  | clause parts body => exact declared_visitBlock_subset (s.visitAll parts) body hx
  | _ => exact List.mem_append_left _ hx

theorem declared_visitBlock_subset (s : Scope) (ts : List Stmt) :
    (s.visitBlock ts).declared ⊆ s.declared ++ declaredIn ts := by
  cases ts with
  | nil => simp [visitBlock]
  | cons t ts =>
    intro x hx
    rw [visitBlock] at hx
    rcases List.mem_append.1 (declared_visitBlock_subset _ ts hx) with hx | hx
    · rcases List.mem_append.1 (declared_visit_subset s t hx) with hx | hx
      · exact List.mem_append_left _ hx
      · exact List.mem_append_right _ (List.mem_append_left _ hx)
    · exact List.mem_append_right _ (List.mem_append_right _ hx)

end
end Scope

/-! ## Spans of trees -/

/-- The span goes from a place of a text that starts at `p` to a later one. -/
structure Covers (p : Place) (cs : List Char) (span : Span) : Prop where
  start : Located p cs span.start
  stop : Located p cs span.stop
  lt : span.start < span.stop

namespace Source

variable {s : Source}

/-- There is a token that stands for characters among those with the indices from `i` up to `j`. -/
def Solid (s : Source) (i j : Nat) : Prop :=
  ∃ k t, i ≤ k ∧ k < j ∧ s.tokens[k]? = some t ∧ t.isLayout = false

theorem Solid.mono {i i' j j' : Nat} (h : s.Solid i j) (hi : i' ≤ i) (hj : j ≤ j') :
    s.Solid i' j' := by
  obtain ⟨k, t, hik, hkj, ht⟩ := h
  exact ⟨k, t, hi.trans hik, hkj.trans_le hj, ht⟩

/-- The last of the tokens that stand for characters ends the span. -/
theorem Solid.exists_last {i j : Nat} (h : s.Solid i j) (hj : j ≤ s.tokens.size) :
    ∃ k t, i ≤ k ∧ k < j ∧ s.tokens[k]? = some t ∧ t.isLayout = false ∧
      ∀ q, spanOf.lastStop s j q = t.stop := by
  induction j with
  | zero =>
    obtain ⟨k, t, -, hk, -⟩ := h
    exact absurd hk (Nat.not_lt_zero k)
  | succ j ih =>
    have hu : s.tokens[j]? = some s.tokens[j] := Array.getElem?_eq_getElem hj
    obtain ⟨k, t, hik, hkj, ht, hs⟩ := h
    cases hl : s.tokens[j].isLayout with
    | false =>
      exact ⟨j, _, by omega, j.lt_succ_self, hu, hl, fun q => by simp [spanOf.lastStop, hu, hl]⟩
    | true =>
      have hne : k ≠ j := by
        rintro rfl
        rw [hu] at ht
        cases ht
        rw [hl] at hs
        cases hs
      obtain ⟨l, u, hil, hlj, hul, hlayout, hlast⟩ :=
        ih ⟨k, t, hik, by omega, ht, hs⟩ (by omega)
      exact ⟨l, u, hil, by omega, hul, hlayout, fun q => by simp [spanOf.lastStop, hu, hl, hlast]⟩

/-- A span over a token that stands for characters covers text. -/
theorem Spans.covers {p : Place} {cs : List Char} (hl : Lexes p cs s.tokens.toList) {i j : Nat}
    {span : Span} (h : s.Spans i j span) (hs : s.Solid i j) (hj : j ≤ s.tokens.size) :
    Covers p cs span := by
  obtain ⟨hstart, q, hstop⟩ := h
  obtain ⟨k, t, hik, hkj, ht, hlayout, hlast⟩ := hs.exists_last hj
  rw [hlast] at hstop
  obtain ⟨as, lexeme, bs, rfl, hsp⟩ := exists_spells hl ht hlayout
  have hfront : Located p (as ++ lexeme ++ bs) t.start :=
    ⟨as, lexeme ++ bs, by simp, hsp.start⟩
  have hback : Located p (as ++ lexeme ++ bs) t.stop :=
    ⟨as ++ lexeme, bs, rfl, by rw [hsp.stop, Place.afterAll_append]⟩
  have hlt : t.start < t.stop := by
    rw [hsp.start, hsp.stop]
    exact Place.lt_afterAll _ hsp.nonempty
  have hi : s.tokens[i]? = some s.tokens[i] := Array.getElem?_eq_getElem (by omega)
  rw [hi] at hstart
  simp only [Option.map_some, Option.getD_some] at hstart
  rcases Nat.eq_or_lt_of_le hik with rfl | hik
  · rw [hi] at ht
    cases ht
    exact ⟨hstart ▸ hfront, hstop ▸ hback, by rw [hstart, hstop]; exact hlt⟩
  · obtain ⟨hk, rfl⟩ := Array.getElem?_eq_some_iff.1 ht
    obtain ⟨hloc, hle⟩ := List.pairwise_iff_getElem.1 hl.started i k (by simpa using hik.trans hk)
      hk hik hlayout
    exact ⟨hstart ▸ hloc, hstop ▸ hback, by rw [hstart, hstop]; exact lt_of_le_of_lt hle hlt⟩

theorem Lies.solid_leaf {i j : Nat} {t : Token} (h : s.Lies i j (.leaf t)) : s.Solid i j := by
  cases h with
  | leaf ht hs => exact ⟨_, t, Nat.le_refl _, Nat.lt_succ_self _, ht, hs⟩

/-- Each of the trees has been read from some of the tokens from index `i` up to `j`. -/
def Holds (s : Source) (i j : Nat) (ts : List Tree) : Prop :=
  ∀ t ∈ ts, ∃ a b, i ≤ a ∧ b ≤ j ∧ s.Lies a b t

theorem Holds.tail {i j : Nat} {t : Tree} {ts : List Tree} (h : s.Holds i j (t :: ts)) :
    s.Holds i j ts := fun u hu => h u (List.mem_cons_of_mem t hu)

theorem PartsLie.holds {label : Label} {i j : Nat} {ts : List Tree}
    (h : s.PartsLie label i j ts) (hl : label ≠ .texts) : s.Holds i j ts := by
  induction ts generalizing i with
  | nil => exact fun t ht => nomatch ht
  | cons u us ih =>
    intro t ht
    generalize hus : u :: us = vs at h
    cases h with
    | nil _ _ => cases hus
    | cons ha hu hrest =>
      obtain ⟨rfl, rfl⟩ := List.cons.inj hus
      rcases List.mem_cons.1 ht with rfl | ht
      · exact ⟨_, _, ha, hrest.le, hu⟩
      · obtain ⟨a, b, hab, hb, hlies⟩ := ih hrest t ht
        exact ⟨a, b, (ha.trans hu.le).trans hab, hb, hlies⟩
    | fields _ _ _ _ _ => exact absurd rfl hl

/-- A branch that is no string, by the parts that it was read from. -/
theorem Lies.holds {i j : Nat} {label : Label} {span : Span} {parts : List Tree}
    (h : s.Lies i j (.branch label span parts)) (hl : label ≠ .texts) :
    s.Spans i j span ∧ j ≤ s.tokens.size ∧ s.Holds i j parts := by
  cases h with
  | branch hp hspan _ => exact ⟨hspan, hp.le_size, hp.holds hl⟩

end Source

namespace Tree

variable {s : Source}

mutual

/-- What binds a name holds a token. -/
theorem solid_of_boundNames {i j : Nat} (t : Tree) (h : s.Lies i j t)
    (hb : t.toExpr.boundNames ≠ []) : s.Solid i j := by
  rw [toExpr.eq_def] at hb
  split at hb
  · exact h.solid_leaf
  case h_7 span parts =>
    obtain ⟨-, -, hparts⟩ := h.holds (by decide)
    exact solid_of_boundNamesAll parts hparts hb
  all_goals exact absurd rfl hb

theorem solid_of_boundNamesAll {i j : Nat} (ts : List Tree) (h : s.Holds i j ts)
    (hb : Expr.boundNamesAll (toExprs ts) ≠ []) : s.Solid i j := by
  cases ts with
  | nil => exact absurd rfl hb
  | cons t ts =>
    by_cases ht : t.toExpr.boundNames = []
    · rw [toExprs, Expr.boundNamesAll, ht] at hb
      exact solid_of_boundNamesAll ts h.tail hb
    · obtain ⟨a, b, ha, hbj, hlies⟩ := h t List.mem_cons_self
      exact (solid_of_boundNames t hlies ht).mono ha hbj

end

variable {p : Place} {cs : List Char}

mutual

/-- The definitions of a statement cover text. -/
theorem covers_toStmt (hl : Lexes p cs s.tokens.toList) {i j : Nat} (decorators : List Expr)
    (t : Tree) (h : s.Lies i j t) : ∀ x ∈ (toStmt decorators t).declared, Covers p cs x.2 := by
  intro x hx
  rw [toStmt.eq_def] at hx
  split at hx
  · next above definition =>
    obtain ⟨-, -, hparts⟩ := h.holds (by decide)
    obtain ⟨a, b, -, -, hlies⟩ := hparts definition (by simp)
    exact covers_toStmt hl _ definition hlies x hx
  · next span name parts =>
    obtain ⟨hspan, hj, hparts⟩ := h.holds (by decide)
    obtain ⟨a, b, ha, hb, hname⟩ := hparts _ List.mem_cons_self
    rcases List.mem_cons.1 hx with rfl | hx
    · exact hspan.covers hl (hname.solid_leaf.mono ha hb) hj
    · exact covers_bodyOf hl parts hparts.tail x hx
  · next span name parts =>
    obtain ⟨hspan, hj, hparts⟩ := h.holds (by decide)
    obtain ⟨a, b, ha, hb, hname⟩ := hparts _ List.mem_cons_self
    rcases List.mem_cons.1 hx with rfl | hx
    · exact hspan.covers hl (hname.solid_leaf.mono ha hb) hj
    · exact covers_bodyOf hl parts hparts.tail x hx
  · next span parts =>
    obtain ⟨hspan, hj, hparts⟩ := h.holds (by decide)
    obtain ⟨id, hid, rfl⟩ := List.mem_map.1 hx
    have htargets : s.Holds i j parts.dropLast := fun t ht =>
      hparts t (List.dropLast_subset parts ht)
    have hsolid := solid_of_boundNamesAll parts.dropLast htargets (List.ne_nil_of_mem hid)
    exact hspan.covers hl hsolid hj
  · next span target note value =>
    obtain ⟨hspan, hj, hparts⟩ := h.holds (by decide)
    obtain ⟨a, b, ha, hb, htarget⟩ := hparts _ List.mem_cons_self
    rw [Stmt.declared.eq_def] at hx
    cases hname : target.toExpr with
    | name id at' =>
      have hsolid := solid_of_boundNames target htarget (by simp [hname, Expr.boundNames])
      rw [hname] at hx
      rw [List.mem_singleton.1 hx]
      exact hspan.covers hl (hsolid.mono ha hb) hj
    | _ => simp [hname] at hx
  · simp [Stmt.declared] at hx
  · simp [Stmt.declared] at hx
  · next span parts =>
    obtain ⟨-, -, hparts⟩ := h.holds (by decide)
    exact covers_bodyOf hl parts hparts x hx
  · simp [Stmt.declared] at hx
termination_by sizeOf t

theorem covers_bodyOf (hl : Lexes p cs s.tokens.toList) {i j : Nat} (parts : List Tree)
    (h : s.Holds i j parts) : ∀ x ∈ declaredIn (bodyOf parts), Covers p cs x.2 := by
  rw [bodyOf.eq_def]
  split
  · simp [declaredIn]
  · next span statements ts =>
    obtain ⟨a, b, -, -, hlies⟩ := h _ List.mem_cons_self
    obtain ⟨-, -, hparts⟩ := hlies.holds (by decide)
    exact covers_toStmts hl statements hparts
  · next t ts _ => exact covers_bodyOf hl ts h.tail
termination_by sizeOf parts

theorem covers_toStmts (hl : Lexes p cs s.tokens.toList) {i j : Nat} (ts : List Tree)
    (h : s.Holds i j ts) : ∀ x ∈ declaredIn (toStmts ts), Covers p cs x.2 := by
  cases ts with
  | nil => simp [toStmts, declaredIn]
  | cons t ts =>
    intro x hx
    rw [toStmts, declaredIn] at hx
    rcases List.mem_append.1 hx with hx | hx
    · obtain ⟨a, b, -, -, hlies⟩ := h t List.mem_cons_self
      exact covers_toStmt hl [] t hlies x hx
    · exact covers_toStmts hl ts h.tail x hx
termination_by sizeOf ts

end
end Tree

/-! ## Sources -/

namespace Module

/-- The names that a source declares, each with the span of its definition. -/
def declared (m : Module) : List (String × Span) := declaredIn m.body

/-- What is recorded of a source is among what it declares. -/
theorem definitions_subset (m : Module) :
    (Scope.visitBlock .empty m.body).declared ⊆ m.declared :=
  Scope.declared_visitBlock_subset .empty m.body

/-- The definitions of a parsed source cover text. -/
theorem covers_of_mem_declared {content : String} {m : Module} (h : parse content = .ok m)
    {x : String × Span} (hx : x ∈ m.declared) :
    Covers Text.origin (endLastLine (unifyLineEnds content.toList)) x.2 := by
  rw [parse] at h
  split at h
  · cases h
  split at h
  · next trees htrees =>
    cases h
    rw [parseTrees, TokenList.parseFor] at htrees
    obtain ⟨j, hj⟩ := TokenList.exists_lieAll htrees
    exact Tree.covers_toStmts (TokenList.lexes_ofText content) trees
      ((hj.parts .block).holds (by decide)) x hx
  · cases h

end Module
end CodeAtlas.Offside
