import Mathlib.Data.List.Perm.Basic
import CodeAtlas.Offside.Collect

/-!
# Which calls a walk records

`Stmt.calls` lists every call in a statement. The walk comes to most of them; it passes by what is
called by the result of something else, by the bases and the other arguments of a class as far as
they are no names, by the annotations of functions, and by the targets and annotations of annotated
assignments. A call that it comes to is recorded if its callee is a name or a member, and so is each
base of a class that is one (`Module.uses_perm`).
-/

namespace CodeAtlas.Offside

/-- The span of a name or a member. -/
def Expr.span? : Expr → Option Span
  | name _ span => some span
  | member _ _ span => some span
  | _ => none

/-- A call in a syntax tree: what is called, and whether the walk comes to it. -/
structure CallSite where
  callee : Expr
  reached : Bool

/-- The span that is recorded for a call. -/
def CallSite.recorded? (c : CallSite) : Option Span := if c.reached then c.callee.span? else none

mutual

/-- The calls in an expression that the walk comes to, or that it passes by. -/
def Expr.calls (reached : Bool) : Expr → List CallSite
  | .name .. => []
  | .member owner _ _ => owner.calls reached
  | .subscript owner index => owner.calls reached ++ index.calls reached
  | .call callee args keywords =>
    ⟨callee, reached⟩ :: (callsAll reached args ++ callsAll reached keywords ++
      callee.calls (reached && callee.span?.isSome))
  | .sequence es => callsAll reached es
  | .starred e => e.calls reached
  | .compound es => callsAll reached es

/-- The calls in a list of expressions. -/
def callsAll (reached : Bool) : List Expr → List CallSite
  | [] => []
  | e :: es => e.calls reached ++ callsAll reached es

end

mutual

/-- The calls in a statement. -/
def Stmt.calls : Stmt → List CallSite
  | .function _ _ decorators signature body =>
    callsAll true (decorators ++ signature.defaults ++ signature.keywordDefaults) ++
      callsAll false signature.annotations ++ callsIn body
  | .class_ _ _ decorators bases keywords body =>
    callsAll true decorators ++ callsAll false (bases ++ keywords) ++ callsIn body
  | .assign targets value _ => callsAll true (targets ++ [value])
  | .annotated target note value _ => callsAll false [target, note] ++ callsAll true value.toList
  | .importModules _ => []
  | .importNames .. => []
  | .simple parts => callsAll true parts
  | .clause parts body => callsAll true parts ++ callsIn body

/-- The calls in a block. -/
def callsIn : List Stmt → List CallSite
  | [] => []
  | t :: ts => t.calls ++ callsIn ts

end

mutual

/-- What the bases of the classes in a statement refer to. -/
def Stmt.bases : Stmt → List Expr
  | .function _ _ _ _ body => basesIn body
  | .class_ _ _ _ bases _ body => bases.map Expr.base ++ basesIn body
  | .clause _ body => basesIn body
  | _ => []

/-- What the bases of the classes in a block refer to. -/
def basesIn : List Stmt → List Expr
  | [] => []
  | t :: ts => t.bases ++ basesIn ts

end

/-- The spans that are recorded for calls. -/
def recordedSpans (cs : List CallSite) : List Span := cs.filterMap CallSite.recorded?

@[simp] theorem recordedSpans_nil : recordedSpans [] = [] := rfl

@[simp] theorem recordedSpans_append (as bs : List CallSite) :
    recordedSpans (as ++ bs) = recordedSpans as ++ recordedSpans bs := List.filterMap_append

theorem recordedSpans_cons (c : CallSite) (cs : List CallSite) :
    recordedSpans (c :: cs) = c.recorded?.toList ++ recordedSpans cs := by
  cases h : c.recorded? <;> simp [recordedSpans, h]

@[simp] theorem callsAll_append (reached : Bool) (es fs : List Expr) :
    callsAll reached (es ++ fs) = callsAll reached es ++ callsAll reached fs := by
  induction es with
  | nil => rfl
  | cons e es ih => simp [callsAll, ih]

/-! ## Expressions -/

namespace Expr

/-- What a callee or a base is mentioned as has its span. -/
theorem mention_span (n : Names) (e : Expr) : (e.mention n).map Mention.span = e.span?.toList := by
  cases e with
  | name id span =>
    simp only [mention, span?]
    split <;> rfl
  | member owner id span =>
    cases owner with
    | name root at' =>
      simp only [mention, span?]
      repeat' split
      all_goals rfl
    | _ => rfl
  | _ => rfl

mutual

/-- What the walk passes by is not recorded. -/
theorem calls_unreached (e : Expr) : recordedSpans (e.calls false) = [] := by
  cases e with
  | name id span => rfl
  | member owner id span => exact calls_unreached owner
  | subscript owner index => simp [calls, calls_unreached owner, calls_unreached index]
  | call callee args keywords =>
    simp [calls, recordedSpans_cons, CallSite.recorded?, callsAll_unreached args,
      callsAll_unreached keywords, calls_unreached callee]
  | sequence es => exact callsAll_unreached es
  | starred e => exact calls_unreached e
  | compound es => exact callsAll_unreached es

theorem callsAll_unreached (es : List Expr) : recordedSpans (callsAll false es) = [] := by
  cases es with
  | nil => rfl
  | cons e es => simp [callsAll, calls_unreached e, callsAll_unreached es]

end

mutual

/-- The mentions in an expression are those of the calls that the walk comes to, in its order. -/
theorem uses_spans (n : Names) (e : Expr) :
    (uses n e).map Mention.span = recordedSpans (e.calls true) := by
  cases e with
  | name id span => rfl
  | member owner id span => exact uses_spans n owner
  | subscript owner index => simp [uses, calls, uses_spans n owner, uses_spans n index]
  | call callee args keywords =>
    have hargs := usesAll_spans n args
    have hkeywords := usesAll_spans n keywords
    cases callee with
    | member owner id span =>
      have howner := uses_spans n owner
      simp [uses, calls, recordedSpans_cons, CallSite.recorded?, mention_span, span?, hargs,
        hkeywords, howner]
    | name id span =>
      simp [uses, calls, recordedSpans_cons, CallSite.recorded?, mention_span, span?, hargs,
        hkeywords]
    | _ =>
      -- What is called is neither a name nor a member, and is passed by.
      simp [uses, calls, recordedSpans_cons, CallSite.recorded?, mention_span, span?, hargs,
        hkeywords, calls_unreached, callsAll_unreached]
  | sequence es => exact usesAll_spans n es
  | starred e => exact uses_spans n e
  | compound es => exact usesAll_spans n es

theorem usesAll_spans (n : Names) (es : List Expr) :
    (usesAll n es).map Mention.span = recordedSpans (callsAll true es) := by
  cases es with
  | nil => rfl
  | cons e es => simp [usesAll, callsAll, uses_spans n e, usesAll_spans n es]

end
end Expr

/-! ## Statements -/

namespace Scope

variable {s : Scope}

/-- The spans of all mentions so far. -/
def spans (s : Scope) : List Span := s.mentions.map Mention.span

theorem spans_visitAll (es : List Expr) :
    (s.visitAll es).spans = s.spans ++ recordedSpans (callsAll true es) := by
  simp [visitAll, Scope.mention, spans, Expr.usesAll_spans]

theorem spans_define (ids : List String) (kind : SymbolKind) (span : Span) :
    (s.define ids kind span).spans = s.spans := by
  simp only [define]
  split <;> rfl

theorem spans_mention_bases (n : Names) (bases : List Expr) :
    (s.mention (bases.flatMap fun b => b.base.mention n)).spans =
      s.spans ++ (bases.map Expr.base).filterMap Expr.span? := by
  simp only [Scope.mention, spans, List.map_append, List.append_cancel_left_eq]
  induction bases with
  | nil => rfl
  | cons b bs ih =>
    rw [List.flatMap_cons, List.map_append, ih, Expr.mention_span, List.map_cons]
    cases h : b.base.span? <;> simp [h]

mutual

/-- A statement adds one mention for each call in it that the walk comes to, if its callee is a name
or a member, and one for each base that is one. -/
theorem count_spans_visit (s : Scope) (t : Stmt) (span : Span) :
    (s.visit t).spans.count span = s.spans.count span + (recordedSpans t.calls).count span +
      (t.bases.filterMap Expr.span?).count span := by
  cases t with
  | function name at' decorators signature body =>
    let s₁ := (s.define [name] (if s.names.owner.isSome then .method else .function) at').visitAll
      (decorators ++ signature.defaults ++ signature.keywordDefaults)
    have h₁ : s₁.spans = s.spans ++ recordedSpans (callsAll true
        (decorators ++ signature.defaults ++ signature.keywordDefaults)) := by
      rw [spans_visitAll, spans_define]
    have hb := count_spans_visitBlock { s₁ with depth := s₁.depth + 1 } body span
    have hs : ({ s₁ with depth := s₁.depth + 1 } : Scope).spans = s₁.spans := rfl
    rw [hs, h₁, List.count_append] at hb
    refine hb.trans ?_
    simp only [Stmt.calls, Stmt.bases, recordedSpans_append, Expr.callsAll_unreached,
      List.append_nil, List.count_append]
    omega
  | class_ name at' decorators bases keywords body =>
    let s₁ := ((s.define [name] (classKind bases) at').mention
      (bases.flatMap fun b => b.base.mention (s.define [name] (classKind bases) at').names)).visitAll
        decorators
    have h₁ : s₁.spans = s.spans ++ (bases.map Expr.base).filterMap Expr.span? ++
        recordedSpans (callsAll true decorators) := by
      rw [spans_visitAll, spans_mention_bases, spans_define]
    have hb := count_spans_visitBlock { s₁ with names.owner := some name } body span
    have hs : ({ s₁ with names.owner := some name } : Scope).spans = s₁.spans := rfl
    rw [hs, h₁, List.count_append, List.count_append] at hb
    refine hb.trans ?_
    simp only [Stmt.calls, Stmt.bases, recordedSpans_append, Expr.callsAll_unreached,
      List.append_nil, List.count_append, List.filterMap_append]
    omega
  | assign targets value at' =>
    simp only [visit, spans_visitAll, spans_define, List.count_append, Stmt.calls, Stmt.bases]
    rfl
  | annotated target note value at' =>
    have h : (s.visit (.annotated target note value at')).spans =
        s.spans ++ recordedSpans (callsAll true value.toList) := by
      simp only [visit, spans_visitAll]
      split
      · rw [spans_define]
      · rfl
    rw [h, List.count_append]
    simp only [Stmt.calls, Stmt.bases, recordedSpans_append, Expr.callsAll_unreached,
      List.nil_append]
    rfl
  | clause parts body =>
    simp only [visit]
    rw [count_spans_visitBlock _ body, spans_visitAll, List.count_append]
    simp only [Stmt.calls, Stmt.bases, recordedSpans_append, List.count_append]
    omega
  | simple parts =>
    simp only [visit, spans_visitAll, List.count_append]
    rfl
  | _ => rfl

theorem count_spans_visitBlock (s : Scope) (ts : List Stmt) (span : Span) :
    (s.visitBlock ts).spans.count span = s.spans.count span +
      (recordedSpans (callsIn ts)).count span + ((basesIn ts).filterMap Expr.span?).count span := by
  cases ts with
  | nil => rfl
  | cons t ts =>
    rw [visitBlock, count_spans_visitBlock _ ts, count_spans_visit s t]
    simp only [callsIn, basesIn, recordedSpans_append, List.filterMap_append, List.count_append]
    omega

end
end Scope

namespace Module

/-- The calls in a file. -/
def calls (m : Module) : List CallSite := callsIn m.body

/-- What the bases of the classes in a file refer to. -/
def bases (m : Module) : List Expr := basesIn m.body

/-- The uses of a file are the calls that the walk comes to and the bases of classes, as far as these
are names or members; each has the range of the callee or of the base. -/
theorem uses_perm (m : Module) (file : String) (columns : ColumnMap) :
    ((m.extract file columns).uses.map Use.range).Perm
      ((recordedSpans m.calls ++ m.bases.filterMap Expr.span?).map (Span.toRange columns)) := by
  have hspans : (Scope.visitBlock .empty m.body).spans.Perm
      (recordedSpans m.calls ++ m.bases.filterMap Expr.span?) := by
    refine List.perm_iff_count.2 fun span => ?_
    rw [Scope.count_spans_visitBlock, List.count_append]
    simp only [Scope.spans, Scope.empty, List.map_nil, List.count_nil, Nat.zero_add]
    rfl
  have h := hspans.map (Span.toRange columns)
  rw [Scope.spans, List.map_map] at h
  simp only [extract, List.map_map]
  exact h

end Module
end CodeAtlas.Offside
