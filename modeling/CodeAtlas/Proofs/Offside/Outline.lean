import CodeAtlas.Offside.Collect

/-!
# Which definitions a walk records

`Stmt.nested` lists every definition of a function or a class in a statement, each with the
definitions that it lies in. The walk records those that lie in no function, each under the class
right around it (`Module.declarations_outline`). What it knows of the surroundings fits the
definitions around the statement that it is at (`Scope.Fits`), and is the same again behind every
statement (`Scope.visit_owner`, `Scope.visit_depth`).
-/

namespace CodeAtlas.Offside

/-- The head of a definition of a function or a class. -/
inductive Heading
  | function (name : String) (span : Span)
  | class_ (name : String) (span : Span) (bases : List Expr)

namespace Heading

def isFunction : Heading → Bool
  | function .. => true
  | class_ .. => false

def className? : Heading → Option String
  | function .. => none
  | class_ name .. => some name

end Heading

/-- A definition, and the definitions that it lies in, innermost first. -/
structure Nested where
  heading : Heading
  around : List Heading

namespace Nested

/-- Whether the definition lies in the body of a function. -/
def isLocal (n : Nested) : Bool := n.around.any Heading.isFunction

/-- The innermost class around the definition. -/
def owner (n : Nested) : Option String := n.around.findSome? Heading.className?

/-- What the definition declares. -/
def definition (n : Nested) : Definition :=
  match n.heading with
  | .function name span => ⟨name, if n.owner.isSome then .method else .function, span, n.owner⟩
  | .class_ name span bases => ⟨name, classKind bases, span, n.owner⟩

end Nested

mutual

/-- All definitions of functions and classes in a statement, in source order. -/
def Stmt.nested (around : List Heading) : Stmt → List Nested
  | .function name span _ _ body =>
    ⟨.function name span, around⟩ :: nestedAll (.function name span :: around) body
  | .class_ name span _ bases _ body =>
    ⟨.class_ name span bases, around⟩ :: nestedAll (.class_ name span bases :: around) body
  | .clause _ body => nestedAll around body
  | _ => []

/-- All definitions of functions and classes in a block. -/
def nestedAll (around : List Heading) : List Stmt → List Nested
  | [] => []
  | t :: ts => t.nested around ++ nestedAll around ts

end

/-- The kinds of functions and classes. -/
def isOutlined (k : SymbolKind) : Bool := k != .variable_ && k != .typeAlias

/-! ## Definitions in a function -/

mutual

theorem Stmt.nested_isLocal {around : List Heading} (h : around.any Heading.isFunction = true)
    (t : Stmt) : ∀ n ∈ t.nested around, n.isLocal = true := by
  intro n hn
  cases t with
  | function name span decorators signature body =>
    rcases List.mem_cons.1 hn with rfl | hn
    · exact h
    · exact nestedAll_isLocal (by simp [Heading.isFunction]) body n hn
  | class_ name span decorators bases keywords body =>
    rcases List.mem_cons.1 hn with rfl | hn
    · exact h
    · exact nestedAll_isLocal (by simpa [Heading.isFunction] using h) body n hn
  | clause parts body => exact nestedAll_isLocal h body n hn
  | _ => simp [Stmt.nested] at hn

theorem nestedAll_isLocal {around : List Heading} (h : around.any Heading.isFunction = true)
    (ts : List Stmt) : ∀ n ∈ nestedAll around ts, n.isLocal = true := by
  intro n hn
  cases ts with
  | nil => simp [nestedAll] at hn
  | cons t ts =>
    rcases List.mem_append.1 hn with hn | hn
    · exact t.nested_isLocal h n hn
    · exact nestedAll_isLocal h ts n hn

end

/-- What a block in a function declares is left out. -/
theorem filter_nestedAll_of_isFunction {around : List Heading}
    (h : around.any Heading.isFunction = true) (ts : List Stmt) :
    (nestedAll around ts).filter (!·.isLocal) = [] := by
  rw [List.filter_eq_nil_iff]
  intro n hn
  simp [nestedAll_isLocal h ts n hn]

theorem classKind_isOutlined (bases : List Expr) : isOutlined (classKind bases) = true := by
  simp only [classKind]
  split
  · rfl
  · split <;> rfl

/-- Functions and methods are told apart by whether a class is around. -/
theorem Nested.kind_definition (n : Nested) :
    (n.definition.kind = .method → n.definition.container.isSome) ∧
      (n.definition.kind = .function → n.definition.container = none) := by
  obtain ⟨heading, around⟩ := n
  cases heading with
  | function name span =>
    simp only [definition]
    split <;> simp_all
  | class_ name span bases =>
    simp only [definition, classKind]
    split
    · simp
    · split <;> simp

namespace Scope

variable {s : Scope}

/-! ## What a walk leaves as it was -/

@[simp] theorem define_names (ids : List String) (kind : SymbolKind) (span : Span) :
    (s.define ids kind span).names = s.names := by
  simp only [define]
  split <;> rfl

@[simp] theorem define_depth (ids : List String) (kind : SymbolKind) (span : Span) :
    (s.define ids kind span).depth = s.depth := by
  simp only [define]
  split <;> rfl

@[simp] theorem visitAll_names (es : List Expr) : (s.visitAll es).names = s.names := rfl

@[simp] theorem visitAll_depth (es : List Expr) : (s.visitAll es).depth = s.depth := rfl

@[simp] theorem visitAll_definitions (es : List Expr) :
    (s.visitAll es).definitions = s.definitions := rfl

@[simp] theorem mention_names (ms : List Mention) : (s.mention ms).names = s.names := rfl

@[simp] theorem mention_depth (ms : List Mention) : (s.mention ms).depth = s.depth := rfl

@[simp] theorem mention_definitions (ms : List Mention) :
    (s.mention ms).definitions = s.definitions := rfl

mutual

/-- Behind a statement the walk is in the same class as before it. -/
theorem visit_owner (s : Scope) (t : Stmt) : (s.visit t).names.owner = s.names.owner := by
  cases t with
  | function name span decorators signature body =>
    simp only [visit]
    rw [visitBlock_owner _ body]
    simp
  | class_ name span decorators bases keywords body => simp [visit]
  | annotated target note value span =>
    simp only [visit]
    split <;> simp
  | clause parts body =>
    simp only [visit]
    rw [visitBlock_owner _ body]
    simp
  | _ => simp [visit, bindModules, bindNames]

theorem visitBlock_owner (s : Scope) (ts : List Stmt) :
    (s.visitBlock ts).names.owner = s.names.owner := by
  cases ts with
  | nil => rfl
  | cons t ts => rw [visitBlock, visitBlock_owner _ ts, visit_owner s t]

end

mutual

/-- Behind a statement the walk is in as many functions as before it. -/
theorem visit_depth (s : Scope) (t : Stmt) : (s.visit t).depth = s.depth := by
  cases t with
  | function name span decorators signature body =>
    simp only [visit]
    rw [visitBlock_depth _ body]
    simp
  | class_ name span decorators bases keywords body =>
    simp only [visit]
    rw [visitBlock_depth _ body]
    simp
  | annotated target note value span =>
    simp only [visit]
    split <;> simp
  | clause parts body =>
    simp only [visit]
    rw [visitBlock_depth _ body]
    simp
  | _ => simp [visit, bindModules, bindNames]

theorem visitBlock_depth (s : Scope) (ts : List Stmt) : (s.visitBlock ts).depth = s.depth := by
  cases ts with
  | nil => rfl
  | cons t ts => rw [visitBlock, visitBlock_depth _ ts, visit_depth s t]

end

/-! ## What a walk records -/

/-- What the walk knows of its surroundings is what is around the statement that it is at. -/
structure Fits (s : Scope) (around : List Heading) : Prop where
  owner : s.names.owner = around.findSome? Heading.className?
  depth : s.depth = around.countP Heading.isFunction

/-- The definitions of functions and classes that have been recorded. -/
def outlined (s : Scope) : List Definition := s.definitions.filter fun d => isOutlined d.kind

theorem outlined_define_variable (ids : List String) {kind : SymbolKind}
    (h : isOutlined kind = false) (span : Span) :
    (s.define ids kind span).outlined = s.outlined := by
  simp only [define]
  split
  · simp [outlined, h]
  · rfl

theorem Fits.isLocal_iff {around : List Heading} (h : s.Fits around) :
    around.any Heading.isFunction = true ↔ s.depth ≠ 0 := by
  rw [h.depth, List.any_eq_true, ← Nat.pos_iff_ne_zero, List.countP_pos_iff]

/-- A definition is recorded unless it lies in a function. -/
theorem Fits.outlined_define {around : List Heading} (h : s.Fits around) (heading : Heading)
    (name : String) (kind : SymbolKind) (span : Span) (hk : isOutlined kind = true)
    (hd : (⟨heading, around⟩ : Nested).definition = ⟨name, kind, span, s.names.owner⟩) :
    (s.define [name] kind span).outlined =
      s.outlined ++ ([⟨heading, around⟩].filter (!·.isLocal)).map Nested.definition := by
  have hl : (⟨heading, around⟩ : Nested).isLocal = true ↔ s.depth ≠ 0 := h.isLocal_iff
  by_cases h0 : s.depth = 0
  · have hn : (⟨heading, around⟩ : Nested).isLocal = false := by
      simpa [h0] using hl
    simp [define, h0, outlined, hk, hn, hd]
  · have hn := hl.2 h0
    simp [define, h0, hn]

theorem Fits.function {around : List Heading} (h : s.Fits around) (name : String) (span : Span) :
    Fits { s with depth := s.depth + 1 } (.function name span :: around) where
  owner := h.owner
  depth := by simp [h.depth, List.countP_cons, Heading.isFunction]

theorem Fits.class_ {around : List Heading} (h : s.Fits around) (name : String) (span : Span)
    (bases : List Expr) :
    Fits { s with names.owner := some name } (.class_ name span bases :: around) where
  owner := rfl
  depth := by simp [h.depth, Heading.isFunction]

theorem Fits.of_eq {r : Scope} {around : List Heading} (h : s.Fits around)
    (ho : r.names.owner = s.names.owner) (hd : r.depth = s.depth) : r.Fits around where
  owner := ho.trans h.owner
  depth := hd.trans h.depth

mutual

/-- A statement adds the definitions in it that lie in no function. -/
theorem visit_outlined {s : Scope} {around : List Heading} (h : s.Fits around) (t : Stmt) :
    (s.visit t).outlined =
      s.outlined ++ ((t.nested around).filter (!·.isLocal)).map Nested.definition := by
  cases t with
  | function name span decorators signature body =>
    let s₁ := s.define [name] (if s.names.owner.isSome then .method else .function) span
    have h₁ : s₁.outlined = s.outlined ++ _ :=
      h.outlined_define (.function name span) name _ span (by split <;> rfl)
        (by simp [Nested.definition, Nested.owner, ← h.owner])
    have hf := (h.of_eq (r := s₁.visitAll (decorators ++ signature.defaults ++
      signature.keywordDefaults)) (by simp [s₁]) (by simp [s₁])).function name span
    have hb := visitBlock_outlined hf body
    rw [filter_nestedAll_of_isFunction (by simp [Heading.isFunction])] at hb
    simp only [Stmt.nested, List.filter_cons, List.filter_nil] at h₁ ⊢
    rw [filter_nestedAll_of_isFunction (by simp [Heading.isFunction])]
    exact (hb.trans (List.append_nil _)).trans h₁
  | class_ name span decorators bases keywords body =>
    let s₁ := s.define [name] (classKind bases) span
    have h₁ : s₁.outlined = s.outlined ++ _ :=
      h.outlined_define (.class_ name span bases) name _ span (classKind_isOutlined bases)
        (by simp [Nested.definition, Nested.owner, ← h.owner])
    have hc := (h.of_eq (r := (s₁.mention (bases.flatMap fun b => b.base.mention s₁.names)).visitAll
      decorators) (by simp [s₁]) (by simp [s₁])).class_ name span bases
    have hb := visitBlock_outlined hc body
    rw [Stmt.nested, ← List.singleton_append, List.filter_append, List.map_append,
      ← List.append_assoc, ← h₁]
    exact hb
  | assign targets value span =>
    simp only [Stmt.nested, List.filter_nil, List.map_nil, List.append_nil]
    exact outlined_define_variable _ rfl span
  | annotated target note value span =>
    simp only [Stmt.nested, List.filter_nil, List.map_nil, List.append_nil, visit]
    split
    · refine outlined_define_variable _ ?_ span
      split <;> rfl
    · rfl
  | clause parts body => exact visitBlock_outlined (s := s.visitAll parts) (h.of_eq rfl rfl) body
  | _ => simp [visit, Stmt.nested, outlined, bindModules, bindNames]

theorem visitBlock_outlined {s : Scope} {around : List Heading} (h : s.Fits around)
    (ts : List Stmt) :
    (s.visitBlock ts).outlined =
      s.outlined ++ ((nestedAll around ts).filter (!·.isLocal)).map Nested.definition := by
  cases ts with
  | nil => simp [visitBlock, nestedAll]
  | cons t ts =>
    have ht := visit_outlined h t
    have hts := visitBlock_outlined (h.of_eq (visit_owner s t) (visit_depth s t)) ts
    rw [visitBlock, hts, ht, nestedAll, List.filter_append, List.map_append, List.append_assoc]

end
end Scope

/-! ## Whole files -/

/-- The definition as a declaration of its file. -/
def Definition.declaration (columns : ColumnMap) (d : Definition) : Declaration :=
  ⟨d.name, d.kind, d.span.toRange columns, d.container⟩

namespace Module

/-- The definitions of functions and classes that lie in no function, in source order. -/
def outline (m : Module) : List Nested := (nestedAll [] m.body).filter (!·.isLocal)

theorem filter_definitions (m : Module) :
    (Scope.visitBlock .empty m.body).outlined = m.outline.map Nested.definition := by
  have h : Scope.empty.Fits [] := ⟨rfl, rfl⟩
  rw [Scope.visitBlock_outlined h]
  rfl

/-- The functions, methods, classes, enumerations and interfaces of a file are the definitions that
lie in no function, each once and in source order, under the class right around it; those of
functions are methods exactly if there is one. The walk leaves every statement with the class and
the number of functions that it came with. -/
theorem declarations_outline (m : Module) (file : String) (columns : ColumnMap) :
    (m.extract file columns).declarations.filter (fun d => isOutlined d.kind) =
        m.outline.map (fun n => n.definition.declaration columns) ∧
      (∀ d ∈ (m.extract file columns).declarations,
        (d.kind = .method → d.container.isSome) ∧ (d.kind = .function → d.container = none)) ∧
      ∀ (s : Scope) (t : Stmt),
        (s.visit t).names.owner = s.names.owner ∧ (s.visit t).depth = s.depth := by
  have houtline : (m.extract file columns).declarations.filter (fun d => isOutlined d.kind) =
      m.outline.map (fun n => n.definition.declaration columns) := by
    have h := congrArg (List.map (Definition.declaration columns)) m.filter_definitions
    rw [List.map_map] at h
    exact List.filter_map.trans h
  refine ⟨houtline, fun d hd => ?_, fun s t => ⟨s.visit_owner t, s.visit_depth t⟩⟩
  -- Declarations of other kinds are neither methods nor functions.
  by_cases hk : isOutlined d.kind = true
  · have hmem : d ∈ m.outline.map (fun n => n.definition.declaration columns) :=
      houtline ▸ List.mem_filter.2 ⟨hd, hk⟩
    obtain ⟨n, -, rfl⟩ := List.mem_map.1 hmem
    exact n.kind_definition
  · constructor <;> intro h <;> simp [isOutlined, h] at hk

end Module

/-- A class with a method in a branch of a statement, and a function with a function in it. -/
def nesting : Module :=
  ⟨[.class_ "A" ⟨⟨1, 0⟩, ⟨3, 12⟩⟩ [] [.name "ABC" ⟨⟨1, 8⟩, ⟨1, 11⟩⟩] []
      [.clause [] [.function "f" ⟨⟨3, 4⟩, ⟨3, 12⟩⟩ [] ⟨[], [], []⟩ [.simple []]]],
    .function "g" ⟨⟨4, 0⟩, ⟨5, 14⟩⟩ [] ⟨[], [], []⟩
      [.function "h" ⟨⟨5, 2⟩, ⟨5, 14⟩⟩ [] ⟨[], [], []⟩ [.simple []]]]⟩

theorem nesting_declarations :
    (nesting.extract "a.py" ⟨#[]⟩).declarations =
        [⟨"A", .interface, .ofCoords 0 0 2 12, none⟩, ⟨"f", .method, .ofCoords 2 4 2 12, some "A"⟩,
          ⟨"g", .function, .ofCoords 3 0 4 14, none⟩] ∧
      ∀ d ∈ (nesting.extract "a.py" ⟨#[]⟩).declarations, d.kind = .method → d.container.isSome :=
  ⟨by decide +kernel, fun d hd =>
    ((nesting.declarations_outline "a.py" ⟨#[]⟩).2.1 d hd).1⟩

end CodeAtlas.Offside
