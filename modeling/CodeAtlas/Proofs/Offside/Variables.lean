import CodeAtlas.Proofs.Offside.Outline
import CodeAtlas.Proofs.Offside.Words

/-!
# Which variables a walk records

`Stmt.vars` lists each name that an assignment in a statement binds, with the definitions that
it lies in. The walk records those that lie in no function, except those behind a star
(`Module.declarations_variables`).
-/

namespace CodeAtlas.Offside

/-- A name that an assignment binds. -/
structure TargetName where
  name : String
  /-- Whether it stands behind a star. -/
  starred : Bool
deriving DecidableEq, Repr

namespace Expr

mutual

/-- The names in a target, which may itself be behind a star. -/
def targetNames (starred : Bool) : Expr → List TargetName
  | name id _ => [⟨id, starred⟩]
  | sequence es => targetNamesAll starred es
  | .starred e => targetNames true e
  | _ => []

def targetNamesAll (starred : Bool) : List Expr → List TargetName
  | [] => []
  | e :: es => targetNames starred e ++ targetNamesAll starred es

end

/-- A target with an annotation binds a name if it is one, and else none: it is no sequence. -/
def annotatedNames : Expr → List TargetName
  | name id _ => [⟨id, false⟩]
  | _ => []

/-- The kind of a variable with an annotation. -/
def annotatedKind (note : Expr) : SymbolKind :=
  if note.lastName? = some "TypeAlias" then .typeAlias else .variable_

mutual

theorem targetNames_starred (e : Expr) : (e.targetNames true).filter (!·.starred) = [] := by
  cases e with
  | name id span => rfl
  | sequence es => exact targetNamesAll_starred es
  | starred e => exact targetNames_starred e
  | _ => rfl

theorem targetNamesAll_starred (es : List Expr) :
    (targetNamesAll true es).filter (!·.starred) = [] := by
  cases es with
  | nil => rfl
  | cons e es =>
    rw [targetNamesAll, List.filter_append, targetNames_starred e, targetNamesAll_starred es]
    rfl

end

mutual

/-- Of the names in a target the walk takes those that are not behind a star. -/
theorem boundNames_eq (e : Expr) :
    e.boundNames = ((e.targetNames false).filter (!·.starred)).map TargetName.name := by
  cases e with
  | name id span => rfl
  | sequence es => exact boundNamesAll_eq es
  | starred e =>
    rw [targetNames, targetNames_starred e]
    rfl
  | _ => rfl

theorem boundNamesAll_eq (es : List Expr) :
    boundNamesAll es = ((targetNamesAll false es).filter (!·.starred)).map TargetName.name := by
  cases es with
  | nil => rfl
  | cons e es =>
    rw [boundNamesAll, boundNames_eq e, boundNamesAll_eq es, targetNamesAll, List.filter_append,
      List.map_append]

end
end Expr

structure Variable extends TargetName where
  kind : SymbolKind
  /-- The whole assignment. -/
  span : Span
  /-- The definitions that it lies in, innermost first. -/
  around : List Heading

namespace Variable

/-- Whether the assignment lies in the body of a function. -/
def isLocal (v : Variable) : Bool := v.around.any Heading.isFunction

def isRecorded (v : Variable) : Bool := !v.isLocal && !v.starred

def definition (v : Variable) : Definition :=
  ⟨v.name, v.kind, v.span, v.around.findSome? Heading.className?⟩

end Variable

mutual

/-- All names that assignments in a statement bind, in source order. -/
def Stmt.vars (around : List Heading) : Stmt → List Variable
  | .function name span _ _ body => varsIn (.function name span :: around) body
  | .class_ name span _ bases _ body => varsIn (.class_ name span bases :: around) body
  | .assign targets _ span =>
    (Expr.targetNamesAll false targets).map (⟨·, .variable_, span, around⟩)
  | .annotated target note _ span =>
    target.annotatedNames.map (⟨·, note.annotatedKind, span, around⟩)
  | .clause _ body => varsIn around body
  | _ => []

def varsIn (around : List Heading) : List Stmt → List Variable
  | [] => []
  | t :: ts => t.vars around ++ varsIn around ts

end

namespace Scope

variable {s : Scope}

/-- The variables that have been recorded. -/
def assigned (s : Scope) : List Definition := s.definitions.filter fun d => !isOutlined d.kind

theorem assigned_define_outlined (ids : List String) {kind : SymbolKind}
    (h : isOutlined kind = true) (span : Span) :
    (s.define ids kind span).assigned = s.assigned := by
  simp only [define]
  split
  · simp [assigned, h]
  · rfl

/-- Names are recorded as variables unless the assignment lies in a function. -/
theorem Fits.assigned_define {around : List Heading} (h : s.Fits around) (names : List TargetName)
    {kind : SymbolKind} (hk : isOutlined kind = false) (span : Span) :
    (s.define ((names.filter (!·.starred)).map TargetName.name) kind span).assigned =
      s.assigned ++ ((names.map (⟨·, kind, span, around⟩)).filter Variable.isRecorded).map
        Variable.definition := by
  by_cases hdepth : s.depth = 0
  · have hlocal (n : TargetName) : Variable.isLocal ⟨n, kind, span, around⟩ = false :=
      Bool.eq_false_iff.2 fun hlocal => h.isLocal_iff.1 hlocal hdepth
    simp [define, hdepth, assigned, List.filter_map, Function.comp_def, hk, Variable.isRecorded,
      hlocal, Variable.definition, h.owner]
  · have hlocal (n : TargetName) : Variable.isLocal ⟨n, kind, span, around⟩ = true :=
      h.isLocal_iff.2 hdepth
    simp [define, hdepth, List.filter_map, Function.comp_def, Variable.isRecorded, hlocal]

mutual

/-- A statement adds the variables in it that the walk is to record. -/
theorem visit_assigned {s : Scope} {around : List Heading} (h : s.Fits around) (t : Stmt) :
    (s.visit t).assigned =
      s.assigned ++ ((t.vars around).filter Variable.isRecorded).map Variable.definition := by
  cases t with
  | function name span decorators signature body =>
    let s₁ := (s.define [name] (if s.names.owner.isSome then .method else .function) span).visitAll
      (decorators ++ signature.defaults ++ signature.keywordDefaults)
    have hs : s₁.assigned = s.assigned :=
      assigned_define_outlined [name] (by split <;> rfl) span
    have hbody := visitBlock_assigned
      ((h.of_eq (r := s₁) (by simp [s₁]) (by simp [s₁])).function name span) body
    -- The variables of the body are all local, but they need not be told apart for this.
    exact hbody.trans (congrArg (· ++ _) hs)
  | class_ name span decorators bases keywords body =>
    let s₁ := ((s.define [name] (classKind bases) span).mention (bases.flatMap fun b =>
      b.base.mention (s.define [name] (classKind bases) span).names)).visitAll decorators
    have hs : s₁.assigned = s.assigned :=
      assigned_define_outlined [name] (classKind_isOutlined bases) span
    have hbody := visitBlock_assigned
      ((h.of_eq (r := s₁) (by simp [s₁]) (by simp [s₁])).class_ name span bases) body
    exact hbody.trans (congrArg (· ++ _) hs)
  | assign targets value span =>
    have hkind : isOutlined .variable_ = false := rfl
    have hnames := h.assigned_define (Expr.targetNamesAll false targets) hkind span
    rw [← Expr.boundNamesAll_eq] at hnames
    exact hnames
  | annotated target note value span =>
    have hkind : isOutlined note.annotatedKind = false := by
      rw [Expr.annotatedKind]
      split <;> rfl
    have hnames := h.assigned_define target.annotatedNames hkind span
    cases target with
    | name id idSpan => exact hnames
    | _ => exact (List.append_nil _).symm
  | clause parts body => exact visitBlock_assigned (s := s.visitAll parts) (h.of_eq rfl rfl) body
  | _ => exact (List.append_nil _).symm

theorem visitBlock_assigned {s : Scope} {around : List Heading} (h : s.Fits around)
    (ts : List Stmt) :
    (s.visitBlock ts).assigned =
      s.assigned ++
        ((varsIn around ts).filter Variable.isRecorded).map Variable.definition := by
  cases ts with
  | nil => exact (List.append_nil _).symm
  | cons t ts =>
    have ht := visit_assigned h t
    have hts := visitBlock_assigned (h.of_eq (visit_owner s t) (visit_depth s t)) ts
    rw [visitBlock, hts, ht, varsIn, List.filter_append, List.map_append, List.append_assoc]

end
end Scope

namespace Module

/-- The names that assignments outside of functions bind, in source order. -/
def vars (m : Module) : List Variable := (varsIn [] m.body).filter (!·.isLocal)

theorem declarations_assigned (m : Module) (file : String) (columns : ColumnMap) :
    (m.extract file columns).declarations.filter (fun d => !isOutlined d.kind) =
      (m.vars.filter (!·.starred)).map (fun v => v.definition.declaration columns) := by
  have hempty : Scope.empty.Fits [] := ⟨rfl, rfl⟩
  have hassigned := Scope.visitBlock_assigned hempty m.body
  have hrecorded : m.vars.filter (!·.starred) =
      (varsIn [] m.body).filter Variable.isRecorded := by
    rw [vars, List.filter_filter]
    exact List.filter_congr fun v _ => Bool.and_comm ..
  have h := congrArg (List.map (Definition.declaration columns)) hassigned
  rw [← hrecorded] at h
  exact List.filter_map.trans (h.trans (List.map_map ..))

/-- The variables and type aliases of a file are the names that assignments outside of functions
bind, but for those behind a star: each occurrence once and in source order, with the range of the
assignment and under the class right around it. So they are all of the names exactly if none is
behind a star. -/
theorem declarations_variables (m : Module) (file : String) (columns : ColumnMap) :
    (m.extract file columns).declarations.filter (fun d => !isOutlined d.kind) =
        (m.vars.filter (!·.starred)).map (fun v => v.definition.declaration columns) ∧
      ((m.extract file columns).declarations.filter (fun d => !isOutlined d.kind) =
          m.vars.map (fun v => v.definition.declaration columns) ↔
        ∀ v ∈ m.vars, v.starred = false) := by
  have hassigned := m.declarations_assigned file columns
  refine ⟨hassigned, ?_⟩
  rw [hassigned]
  constructor
  · intro heq
    have hlength := congrArg List.length heq
    rw [List.length_map, List.length_map, List.length_filter_eq_length_iff] at hlength
    simpa using hlength
  · intro hplain
    rw [List.filter_eq_self.2 (by simpa using hplain)]

set_option maxRecDepth 100000 in
/-- The name behind a star is not recorded. -/
theorem starred_target_unrecorded :
    ∃ m, Module.parse "a, *b = c\n" = .ok m ∧
      m.vars.map (·.name) = ["a", "b"] ∧
      (m.extract "a.py" ⟨#[]⟩).declarations.map Declaration.name = ["a"] :=
  exists_parse _ _ (by decide +kernel)

end Module
end CodeAtlas.Offside
