import Mathlib.Data.List.NodupEquivFin
import CodeAtlas.Proofs.Offside.Calls
import CodeAtlas.Proofs.Offside.Outline

/-!
# Which call or base a use is of

`Module.nodes` lists the calls and the bases of classes in a file, each once
(`Module.nodes_perm`), in the order in which the walk meets them, and with what the imports before
it bind (`Stmt.bindings`). What the walk knows of names at a node is what these bind, the last of
them for each name (`Scope.visit_names`), and what it records is the mention of each node that it
comes to (`Scope.visit_mentions`). So the uses of a file are those of different nodes, in the order
of these (`Module.uses_embed`).
-/

namespace CodeAtlas.Offside

/-! ## What imports bind -/

/-- What an import binds a name to. -/
inductive Imported
  | module (name : String)
  /-- A name of a module. -/
  | member (module name : String)
deriving DecidableEq, Repr

namespace Imported

def module? : Imported → Option String
  | module m => some m
  | member .. => none

def member? : Imported → Option (String × String)
  | module _ => none
  | member m id => some (m, id)

end Imported

structure Binding where
  name : String
  target : Imported
deriving DecidableEq, Repr

/-- A module is bound to its alias, or else the first part of its name to itself. -/
def Alias.moduleBinding (a : Alias) : Binding :=
  let root := String.ofList (a.name.toList.takeWhile (· != '.'))
  match a.asName with
  | some short => ⟨short, .module a.name⟩
  | none => ⟨root, .module root⟩

/-- A name of a module is bound to its alias, or else to itself. -/
def Alias.memberBinding (module : String) (a : Alias) : Binding :=
  ⟨a.asName.getD a.name, .member module a.name⟩

mutual

/-- What the imports in a statement bind, in source order. -/
def Stmt.bindings : Stmt → List Binding
  | .function _ _ _ _ body => bindingsIn body
  | .class_ _ _ _ _ _ body => bindingsIn body
  | .importModules modules => modules.map Alias.moduleBinding
  | .importNames module names => names.map (Alias.memberBinding module)
  | .clause _ body => bindingsIn body
  | _ => []

def bindingsIn : List Stmt → List Binding
  | [] => []
  | t :: ts => t.bindings ++ bindingsIn ts

end

/-- What a name is bound to, one after the other. -/
def boundTo (bs : List Binding) (id : String) : List Imported :=
  (bs.filter fun b => b.name = id).map Binding.target

/-- The last thing of a kind that a name is bound to. -/
def lastTo? {α : Type} (kind : Imported → Option α) (bs : List Binding) (id : String) : Option α :=
  ((boundTo bs id).filterMap kind).getLast?

/-- The module that a name was last bound to as a module. -/
def lastModule? : List Binding → String → Option String := lastTo? Imported.module?

/-- The name of a module that a name was last bound to as such. -/
def lastMember? : List Binding → String → Option (String × String) := lastTo? Imported.member?

theorem lastTo?_append {α : Type} (kind : Imported → Option α) (as bs : List Binding)
    (id : String) : lastTo? kind (as ++ bs) id = (lastTo? kind bs id).or (lastTo? kind as id) := by
  simp [lastTo?, boundTo, List.getLast?_append]

theorem lastTo?_singleton {α : Type} (kind : Imported → Option α) (b : Binding) (id : String) :
    lastTo? kind [b] id = if id = b.name then kind b.target else none := by
  by_cases h : id = b.name
  · subst h
    cases hk : kind b.target <;> simp [lastTo?, boundTo, hk]
  · simp [lastTo?, boundTo, h, Ne.symm h]

namespace Names

def bind (n : Names) (b : Binding) : Names :=
  match b.target with
  | .module m => { n with modules := n.modules.insert b.name m }
  | .member m id => { n with imported := n.imported.insert b.name (m, id) }

def bindAll (n : Names) (bs : List Binding) : Names := bs.foldl bind n

/-- What is known of names in a class or in none, behind the bindings. -/
def behind (owner : Option String) (before : List Binding) : Names :=
  bindAll ⟨owner, .empty, .empty⟩ before

theorem bindAll_append (n : Names) (as bs : List Binding) :
    n.bindAll (as ++ bs) = (n.bindAll as).bindAll bs := List.foldl_append

theorem bindAll_withOwner (n : Names) (owner : Option String) (bs : List Binding) :
    ({ n with owner } : Names).bindAll bs = { n.bindAll bs with owner } := by
  induction bs generalizing n with
  | nil => rfl
  | cons b bs ih =>
    have hbind : ({ n with owner } : Names).bind b = { n.bind b with owner } := by
      simp only [bind]
      split <;> rfl
    rw [bindAll, List.foldl_cons, hbind]
    exact ih (n.bind b)

theorem withOwner_behind (owner owner' : Option String) (before : List Binding) :
    ({ behind owner before with owner := owner' } : Names) = behind owner' before :=
  (bindAll_withOwner ⟨owner, .empty, .empty⟩ owner' before).symm

theorem owner_bindAll (n : Names) (bs : List Binding) : (n.bindAll bs).owner = n.owner := by
  have h : n.bindAll bs = { n.bindAll bs with owner := n.owner } :=
    bindAll_withOwner n n.owner bs
  rw [h]

/-- A table that keeps one kind of binding holds the last one of each name. -/
theorem find?_bindAll {α : Type} {kind : Imported → Option α} (table : Names → Table String α)
    (h : ∀ n b id, (table (bind n b)).find? id =
      (lastTo? kind [b] id).or ((table n).find? id)) (n : Names) (bs : List Binding) (id : String) :
    (table (n.bindAll bs)).find? id = (lastTo? kind bs id).or ((table n).find? id) := by
  induction bs generalizing n with
  | nil => rfl
  | cons b bs ih =>
    rw [bindAll, List.foldl_cons, ← bindAll, ih, h, ← Option.or_assoc, ← lastTo?_append]
    rfl

theorem find?_modules_behind (owner : Option String) (before : List Binding) (id : String) :
    (behind owner before).modules.find? id = lastModule? before id := by
  refine (find?_bindAll Names.modules (fun n b id => ?_) _ before id).trans (Option.or_none ..)
  rw [lastTo?_singleton, bind]
  by_cases h : id = b.name <;> cases b.target <;> simp [Imported.module?, Table.find?_insert, h]

theorem find?_imported_behind (owner : Option String) (before : List Binding) (id : String) :
    (behind owner before).imported.find? id = lastMember? before id := by
  refine (find?_bindAll Names.imported (fun n b id => ?_) _ before id).trans (Option.or_none ..)
  rw [lastTo?_singleton, bind]
  by_cases h : id = b.name <;> cases b.target <;> simp [Imported.member?, Table.find?_insert, h]

end Names

/-! ## Nodes -/

/-- A call, or what a base of a class refers to, where it stands. -/
structure Node extends CallSite where
  /-- The innermost class around. -/
  owner : Option String
  /-- What the imports before it bind. -/
  before : List Binding

/-- What the walk records for a call or a base. -/
def CallSite.mention? (n : Names) (c : CallSite) : Option Mention :=
  if c.reached then (c.callee.mention n).head? else none

def Node.mention? (n : Node) : Option Mention :=
  n.toCallSite.mention? (.behind n.owner n.before)

def baseSites (bases : List Expr) : List CallSite := bases.map fun b => ⟨b.base, true⟩

/-- Calls and bases with what is around and before them. -/
def placed (owner : Option String) (before : List Binding) (cs : List CallSite) : List Node :=
  cs.map fun c => ⟨c, owner, before⟩

mutual

/-- The calls and bases in a statement, in the order in which the walk meets them. -/
def Stmt.nodes (owner : Option String) (before : List Binding) : Stmt → List Node
  | .function _ _ decorators signature body =>
    placed owner before (callsAll true (decorators ++ signature.defaults ++
      signature.keywordDefaults) ++ callsAll false signature.annotations) ++
        nodesIn owner before body
  | .class_ name _ decorators bases keywords body =>
    placed owner before (baseSites bases ++ callsAll true decorators ++
      callsAll false (bases ++ keywords)) ++ nodesIn (some name) before body
  | .assign targets value _ => placed owner before (callsAll true (targets ++ [value]))
  | .annotated target note value _ =>
    placed owner before (callsAll false [target, note] ++ callsAll true value.toList)
  | .importModules _ => []
  | .importNames .. => []
  | .simple parts => placed owner before (callsAll true parts)
  | .clause parts body => placed owner before (callsAll true parts) ++ nodesIn owner before body

def nodesIn (owner : Option String) (before : List Binding) : List Stmt → List Node
  | [] => []
  | t :: ts => t.nodes owner before ++ nodesIn owner (before ++ t.bindings) ts

end

theorem map_placed (owner : Option String) (before : List Binding) (cs : List CallSite) :
    (placed owner before cs).map Node.toCallSite = cs := by
  simp [placed, Function.comp_def]

theorem filterMap_placed (owner : Option String) (before : List Binding) (cs : List CallSite) :
    (placed owner before cs).filterMap Node.mention? =
      cs.filterMap (CallSite.mention? (.behind owner before)) := by
  rw [placed, List.filterMap_map]
  rfl

mutual

theorem Stmt.nodes_perm (owner : Option String) (before : List Binding) (t : Stmt) :
    ((t.nodes owner before).map Node.toCallSite).Perm
      (t.calls ++ t.bases.map fun b => ⟨b, true⟩) := by
  cases t with
  | function name span decorators signature body =>
    simp only [Stmt.nodes, Stmt.calls, Stmt.bases, List.map_append, map_placed, List.append_assoc]
    exact ((nodesIn_perm owner before body).append_left _).append_left _
  | class_ name span decorators bases keywords body =>
    have hbody := nodesIn_perm (some name) before body
    simp only [Stmt.nodes, Stmt.calls, Stmt.bases, List.map_append, map_placed, List.append_assoc,
      List.map_map]
    refine (((hbody.append_left _).append_left _).append_left _).trans ?_
    -- The bases come first among the nodes, and behind the calls otherwise.
    refine List.perm_append_comm_assoc .. |>.trans (.append_left _ ?_)
    refine List.perm_append_comm_assoc .. |>.trans (.append_left _ ?_)
    exact List.perm_append_comm_assoc ..
  | clause parts body =>
    simp only [Stmt.nodes, Stmt.calls, Stmt.bases, List.map_append, map_placed, List.append_assoc]
    exact (nodesIn_perm owner before body).append_left _
  | _ => simp [Stmt.nodes, Stmt.calls, Stmt.bases, map_placed]

theorem nodesIn_perm (owner : Option String) (before : List Binding) (ts : List Stmt) :
    ((nodesIn owner before ts).map Node.toCallSite).Perm
      (callsIn ts ++ (basesIn ts).map fun b => ⟨b, true⟩) := by
  cases ts with
  | nil => exact .refl _
  | cons t ts =>
    have ht := t.nodes_perm owner before
    have hts := nodesIn_perm owner (before ++ t.bindings) ts
    simp only [nodesIn, callsIn, basesIn, List.map_append]
    refine (ht.append hts).trans ?_
    simp only [List.append_assoc]
    exact (List.perm_append_comm_assoc ..).append_left _

end

/-! ## What a walk records at nodes -/

namespace Expr

theorem head?_mention (n : Names) (e : Expr) : (e.mention n).head?.toList = e.mention n := by
  have h := congrArg List.length (mention_span n e)
  rw [List.length_map] at h
  match hm : e.mention n with
  | [] => rfl
  | [_] => rfl
  | _ :: _ :: _ =>
    rw [hm] at h
    cases hs : e.span? <;> simp [hs] at h

end Expr

theorem CallSite.mention?_span (n : Names) (c : CallSite) :
    (c.mention? n).map Mention.span = c.recorded? := by
  rw [mention?, recorded?]
  split
  · rw [← List.head?_map, Expr.mention_span]
    cases c.callee.span? <;> rfl
  · rfl

/-- Of what the walk passes by nothing is recorded. -/
theorem filterMap_mention?_unreached (n : Names) (es : List Expr) :
    (callsAll false es).filterMap (CallSite.mention? n) = [] := by
  have h := Expr.callsAll_unreached es
  rw [recordedSpans, List.filterMap_eq_nil_iff] at h
  rw [List.filterMap_eq_nil_iff]
  intro c hc
  rw [← Option.map_eq_none_iff, CallSite.mention?_span]
  exact h c hc

theorem filterMap_baseSites (n : Names) (bases : List Expr) :
    (baseSites bases).filterMap (CallSite.mention? n) =
      bases.flatMap fun b => b.base.mention n := by
  rw [baseSites, List.filterMap_map]
  induction bases with
  | nil => rfl
  | cons b bs ih =>
    have hb : CallSite.mention? n ⟨b.base, true⟩ = (b.base.mention n).head? := if_pos rfl
    rw [List.filterMap_cons, List.flatMap_cons, ← ih, ← Expr.head?_mention n b.base,
      Function.comp_apply, hb]
    cases (b.base.mention n).head? <;> rfl

namespace Expr

variable {n : Names}

theorem filterMap_cons_reached (callee : Expr) (cs : List CallSite) :
    (⟨callee, true⟩ :: cs).filterMap (CallSite.mention? n) =
      callee.mention n ++ cs.filterMap (CallSite.mention? n) := by
  have hcallee : CallSite.mention? n ⟨callee, true⟩ = (callee.mention n).head? := if_pos rfl
  rw [List.filterMap_cons, hcallee, ← head?_mention n callee]
  cases (callee.mention n).head? <;> rfl

theorem filterMap_calls_false (e : Expr) :
    (e.calls false).filterMap (CallSite.mention? n) = [] := by
  simpa [callsAll] using filterMap_mention?_unreached n [e]

mutual

/-- The mentions in an expression are those of its calls. -/
theorem uses_eq (e : Expr) : uses n e = (e.calls true).filterMap (CallSite.mention? n) := by
  cases e with
  | name id span => rfl
  | member owner id span => exact uses_eq owner
  | subscript owner index => simp [uses, calls, uses_eq owner, uses_eq index]
  | call callee args keywords =>
    have hargs := usesAll_eq args
    have hkeywords := usesAll_eq keywords
    rw [calls, filterMap_cons_reached]
    cases callee with
    | member owner id span =>
      have howner := uses_eq owner
      simp [uses, calls, span?, hargs, hkeywords, howner]
    | name id span => simp [uses, calls, hargs, hkeywords]
    | _ =>
      -- What is called is neither a name nor a member, and is passed by.
      simp [uses, span?, hargs, hkeywords, filterMap_calls_false]
  | sequence es => exact usesAll_eq es
  | starred e => exact uses_eq e
  | compound es => exact usesAll_eq es

theorem usesAll_eq (es : List Expr) :
    usesAll n es = (callsAll true es).filterMap (CallSite.mention? n) := by
  cases es with
  | nil => rfl
  | cons e es => simp [usesAll, callsAll, uses_eq e, usesAll_eq es]

end
end Expr

namespace Scope

theorem mentions_define (s : Scope) (ids : List String) (kind : SymbolKind) (span : Span) :
    (s.define ids kind span).mentions = s.mentions := by
  simp only [define]
  split <;> rfl

theorem mentions_visitAll (s : Scope) (es : List Expr) :
    (s.visitAll es).mentions =
      s.mentions ++ (callsAll true es).filterMap (CallSite.mention? s.names) :=
  congrArg (s.mentions ++ ·) (Expr.usesAll_eq es)

theorem names_bindModules (s : Scope) (modules : List Alias) :
    (s.bindModules modules).names = s.names.bindAll (modules.map Alias.moduleBinding) := by
  have h : ∀ n : Names, ({ n with modules := modules.foldl bindModule n.modules } : Names) =
      n.bindAll (modules.map Alias.moduleBinding) := by
    induction modules with
    | nil => exact fun n => rfl
    | cons a as ih =>
      intro n
      have ha : n.bind a.moduleBinding = { n with modules := bindModule n.modules a } := by
        rw [Alias.moduleBinding, bindModule]
        cases a.asName <;> rfl
      change _ = (n.bind a.moduleBinding).bindAll (as.map Alias.moduleBinding)
      rw [ha]
      exact ih { n with modules := bindModule n.modules a }
  exact h s.names

theorem names_bindNames (s : Scope) (module : String) (names : List Alias) :
    (s.bindNames module names).names =
      s.names.bindAll (names.map (Alias.memberBinding module)) := by
  have h : ∀ n : Names, ({ n with imported := names.foldl (fun t a =>
      t.insert (a.asName.getD a.name) (module, a.name)) n.imported } : Names) =
      n.bindAll (names.map (Alias.memberBinding module)) := by
    induction names with
    | nil => exact fun n => rfl
    | cons a as ih => exact fun n => ih (n.bind (a.memberBinding module))
  exact h s.names

mutual

/-- A statement leaves what is known of names behind its imports. -/
theorem visit_names (s : Scope) (t : Stmt) : (s.visit t).names = s.names.bindAll t.bindings := by
  cases t with
  | function name span decorators signature body =>
    simp only [visit]
    rw [visitBlock_names _ body]
    simp [Stmt.bindings]
  | class_ name span decorators bases keywords body =>
    simp only [visit]
    rw [visitBlock_names _ body]
    simp only [Stmt.bindings, Names.bindAll_withOwner, visitAll_names, mention_names, define_names]
    rw [← Names.owner_bindAll s.names (bindingsIn body)]
  | annotated target note value span =>
    simp only [visit]
    split <;> simp [Stmt.bindings, Names.bindAll]
  | importModules modules => exact names_bindModules s modules
  | importNames module names => exact names_bindNames s module names
  | clause parts body =>
    simp only [visit]
    rw [visitBlock_names _ body]
    simp [Stmt.bindings]
  | _ => simp [visit, Stmt.bindings, Names.bindAll]

theorem visitBlock_names (s : Scope) (ts : List Stmt) :
    (s.visitBlock ts).names = s.names.bindAll (bindingsIn ts) := by
  cases ts with
  | nil => rfl
  | cons t ts =>
    rw [visitBlock, visitBlock_names _ ts, visit_names s t, bindingsIn, Names.bindAll_append]

end
mutual

/-- A statement adds the mention of each node in it that the walk comes to. -/
theorem visit_mentions {owner : Option String} {before : List Binding} (s : Scope)
    (h : s.names = .behind owner before) (t : Stmt) :
    (s.visit t).mentions = s.mentions ++ (t.nodes owner before).filterMap Node.mention? := by
  cases t with
  | function name span decorators signature body =>
    let s₁ := (s.define [name] (if s.names.owner.isSome then .method else .function) span).visitAll
      (decorators ++ signature.defaults ++ signature.keywordDefaults)
    have hb := visitBlock_mentions { s₁ with depth := s₁.depth + 1 }
      (by simpa [s₁] using h) body
    have hs : ({ s₁ with depth := s₁.depth + 1 } : Scope).mentions = s₁.mentions := rfl
    refine hb.trans ?_
    rw [hs, mentions_visitAll, define_names, mentions_define, h]
    simp only [Stmt.nodes, List.filterMap_append, filterMap_placed, filterMap_mention?_unreached,
      List.append_nil, List.append_assoc]
  | class_ name span decorators bases keywords body =>
    let s₁ := ((s.define [name] (classKind bases) span).mention (bases.flatMap fun b =>
      b.base.mention (s.define [name] (classKind bases) span).names)).visitAll decorators
    have hnames : ({ s₁ with names.owner := some name } : Scope).names =
        .behind (some name) before := by
      rw [← Names.withOwner_behind owner, ← h]
      simp [s₁]
    have hb := visitBlock_mentions { s₁ with names.owner := some name } hnames body
    have hs : ({ s₁ with names.owner := some name } : Scope).mentions = s₁.mentions := rfl
    refine hb.trans ?_
    rw [hs, mentions_visitAll]
    simp only [Stmt.nodes, List.filterMap_append, filterMap_placed, filterMap_mention?_unreached,
      filterMap_baseSites, define_names, h, List.append_nil, List.append_assoc,
      Scope.mention, mentions_define]
  | assign targets value span =>
    simp only [visit, mentions_visitAll, mentions_define, define_names, h, Stmt.nodes,
      filterMap_placed]
  | annotated target note value span =>
    have hdefined : (s.visit (.annotated target note value span)).mentions = s.mentions ++
        (callsAll true value.toList).filterMap (CallSite.mention? s.names) := by
      simp only [visit, mentions_visitAll]
      split
      · rw [mentions_define, define_names]
      · rfl
    rw [hdefined, h]
    simp only [Stmt.nodes, filterMap_placed, List.filterMap_append, filterMap_mention?_unreached,
      List.nil_append]
  | simple parts => simp only [visit, mentions_visitAll, h, Stmt.nodes, filterMap_placed]
  | clause parts body =>
    simp only [visit]
    rw [visitBlock_mentions (s.visitAll parts) h body, mentions_visitAll, h]
    simp only [Stmt.nodes, filterMap_placed, List.filterMap_append, List.append_assoc]
  | _ => exact (List.append_nil _).symm

theorem visitBlock_mentions {owner : Option String} {before : List Binding} (s : Scope)
    (h : s.names = .behind owner before) (ts : List Stmt) :
    (s.visitBlock ts).mentions =
      s.mentions ++ (nodesIn owner before ts).filterMap Node.mention? := by
  cases ts with
  | nil => exact (List.append_nil _).symm
  | cons t ts =>
    -- The statements behind `t` know of its imports, too.
    have ht : (s.visit t).names = .behind owner (before ++ t.bindings) := by
      rw [visit_names, h, Names.behind, Names.behind, Names.bindAll_append]
    rw [visitBlock, visitBlock_mentions _ ht ts, visit_mentions s h t, nodesIn,
      List.filterMap_append, List.append_assoc]

end
end Scope

/-! ## Uses -/

structure Mention.Becomes (columns : ColumnMap) (k : Mention) (u : Use) : Prop where
  range : u.range = k.span.toRange columns
  name : u.name = k.name
  module : u.module = k.module
  container : u.container = k.container

namespace Node

/-- Whether the walk records the node: it comes there, and it is a name or a member. -/
def isMentioned (n : Node) : Bool := n.reached && n.callee.span?.isSome

/-- The name that a use of the node is to have: the identifier, or what a name that is bound to a
name of a module is called there. -/
def usedName? (n : Node) : Option String :=
  match n.callee with
  | .name id _ => some ((lastMember? n.before id).elim id Prod.snd)
  | .member _ id _ => some id
  | _ => none

/-- The use has the range of the callee or the base, and the name it is to have. -/
structure Records (columns : ColumnMap) (n : Node) (u : Use) : Prop where
  range : n.callee.span?.map (Span.toRange columns) = some u.range
  name : n.usedName? = some u.name

theorem mention?_span (n : Node) : n.mention?.map Mention.span = n.recorded? :=
  n.toCallSite.mention?_span _

theorem isSome_mention? (n : Node) : n.mention?.isSome = n.isMentioned := by
  rw [← Option.isSome_map, mention?_span, CallSite.recorded?, isMentioned]
  cases n.reached <;> rfl

theorem head?_of_mention? {n : Node} {k : Mention} (h : n.mention? = some k) :
    (n.callee.mention (.behind n.owner n.before)).head? = some k := by
  rw [mention?, CallSite.mention?, Option.ite_none_right_eq_some] at h
  exact h.2

theorem span_of_mention? {n : Node} {k : Mention} (h : n.mention? = some k) :
    n.callee.span? = some k.span := by
  have hspan := congrArg List.head? (n.callee.mention_span (.behind n.owner n.before))
  rw [List.head?_map, head?_of_mention? h] at hspan
  cases hs : n.callee.span? with
  | none => simp [hs] at hspan
  | some span => simpa [hs, eq_comm] using hspan

theorem usedName?_of_mention? {n : Node} {k : Mention} (h : n.mention? = some k) :
    n.usedName? = some k.name := by
  have hhead := head?_of_mention? h
  rw [usedName?]
  cases hc : n.callee with
  | name id span =>
    rw [hc, Expr.mention, Names.find?_imported_behind] at hhead
    change some ((lastMember? n.before id).elim id Prod.snd) = some k.name
    cases hm : lastMember? n.before id with
    | none =>
      rw [hm] at hhead
      cases hhead
      rfl
    | some original =>
      rw [hm] at hhead
      cases hhead
      rfl
  | member owner id span =>
    rw [hc] at hhead
    have hname : ∀ j ∈ (Expr.member owner id span).mention (.behind n.owner n.before),
        j.name = id := by
      cases owner with
      | name root at' =>
        simp only [Expr.mention]
        repeat' split
        all_goals simp
      | _ => simp [Expr.mention]
    rw [hname k (List.mem_of_head? hhead)]
  | _ =>
    rw [hc] at hhead
    cases hhead

end Node

theorem forall₂_filterMap {α β : Type} (f : α → Option β) (l : List α) :
    List.Forall₂ (fun b a => f a = some b) (l.filterMap f) (l.filter fun a => (f a).isSome) := by
  induction l with
  | nil => exact .nil
  | cons a l ih =>
    cases h : f a with
    | none => simpa [h] using ih
    | some b => simpa [h] using ih

/-- What is related to a part of a list, element by element, is so to different elements of it. -/
theorem exists_embedding {α β : Type} {R : α → β → Prop} {as : List α} {part bs : List β}
    (h : List.Forall₂ R as part) (hpart : part.Sublist bs) :
    ∃ place : Fin as.length ↪o Fin bs.length, ∀ i, R as[i] bs[place i] := by
  obtain ⟨hlength, hget⟩ := List.forall₂_iff_get.1 h
  obtain ⟨f, hf⟩ := List.sublist_iff_exists_fin_orderEmbedding_get_eq.1 hpart
  refine ⟨(Fin.castOrderIso hlength).toOrderEmbedding.trans f, fun i => ?_⟩
  have hi := hget i i.2 (hlength ▸ i.2)
  rwa [hf] at hi

namespace Module

def nodes (m : Module) : List Node := nodesIn none [] m.body

/-- The nodes that the walk records. -/
def mentioned (m : Module) : List Node := m.nodes.filter Node.isMentioned

theorem nodes_perm (m : Module) :
    (m.nodes.map Node.toCallSite).Perm (m.calls ++ m.bases.map fun b => ⟨b, true⟩) :=
  nodesIn_perm none [] m.body

/-- The uses of a file are what the mentions of its nodes become, one by one; which of them are
external is decided with what the whole file declares and imports. -/
theorem uses_made (m : Module) (file : String) (columns : ColumnMap) :
    List.Forall₂ (fun u n => ∃ k, n.mention? = some k ∧ k.Becomes columns u ∧
        u.external = k.isBuiltin ((m.extract file columns).declarations.map Declaration.name)
          (Names.behind none (bindingsIn m.body)).imported)
      (m.extract file columns).uses m.mentioned := by
  have hmentions : (Scope.visitBlock .empty m.body).mentions = m.nodes.filterMap Node.mention? := by
    have hempty : Scope.empty.names = .behind none [] := rfl
    exact Scope.visitBlock_mentions .empty hempty m.body
  have hnames : (Scope.visitBlock .empty m.body).names = .behind none (bindingsIn m.body) :=
    Scope.visitBlock_names .empty m.body
  have hnodes : m.mentioned = m.nodes.filter fun n => n.mention?.isSome := by
    simp only [mentioned, Node.isSome_mention?]
  rw [hnodes, extract]
  simp only [hmentions, hnames, List.forall₂_map_left_iff, List.map_map]
  exact (forall₂_filterMap Node.mention? m.nodes).imp fun k n h =>
    ⟨k, h, ⟨rfl, rfl, rfl, rfl⟩, rfl⟩

theorem uses_mentioned (m : Module) (file : String) (columns : ColumnMap) :
    List.Forall₂ (fun u n => ∃ k, n.mention? = some k ∧ k.Becomes columns u)
      (m.extract file columns).uses m.mentioned := by
  refine (m.uses_made file columns).imp fun u n h => ?_
  obtain ⟨k, hk, hu, -⟩ := h
  exact ⟨k, hk, hu⟩

/-- The uses of a file are those of different calls and bases, in their order: each has the range of
its callee or base, and its identifier or the name that an import has brought it from. -/
theorem uses_embed (m : Module) (file : String) (columns : ColumnMap) :
    (m.nodes.map Node.toCallSite).Perm (m.calls ++ m.bases.map fun b => ⟨b, true⟩) ∧
      ∃ node : Fin (m.extract file columns).uses.length ↪o Fin m.nodes.length,
        ∀ i, m.nodes[node i].Records columns (m.extract file columns).uses[i] := by
  have hrecords : List.Forall₂ (fun u n => Node.Records columns n u)
      (m.extract file columns).uses m.mentioned := by
    refine (m.uses_mentioned file columns).imp fun u n h => ?_
    obtain ⟨k, hk, hu⟩ := h
    refine ⟨?_, ?_⟩
    · rw [Node.span_of_mention? hk, hu.range]
      rfl
    · rw [Node.usedName?_of_mention? hk, hu.name]
  exact ⟨m.nodes_perm, exists_embedding hrecords List.filter_sublist⟩

end Module

end CodeAtlas.Offside
