import CodeAtlas.Proofs.Offside.Mentions
import CodeAtlas.Proofs.Offside.Words

/-!
# Hints of calls by dotted names

The callee `root.path.last` of a call, where an import has bound the root (`Node.Chain`), means a
member of what stands behind `path` in the target of the binding. The hint of the use says so
(`Module.hints_expand_iff`) if the root is bound as a module, and to that one last; a name of a
module is looked up for a root only where nothing stands between it and the last name.
-/

namespace CodeAtlas.Offside

namespace Imported

/-- The dotted name of what is imported; a module that ends in a dot takes no other. -/
def dotted : Imported → String
  | module m => m
  | member m id => Expr.submodule m id

/-- The dotted name of what stands behind a path in it. -/
def expand (target : Imported) (path : List String) : String :=
  ".".intercalate (target.dotted :: path)

theorem expand_concat (target : Imported) (path : List String) (last : String) :
    target.expand (path ++ [last]) = target.expand path ++ "." ++ last := by
  rw [expand, ← List.cons_append, String.intercalate_append_of_ne_nil (by simp) (by simp),
    String.intercalate_singleton]
  rfl

/-- Paths lead to the same place from modules of the same name only. -/
theorem expand_inj {target target' : Imported} {path : List String} :
    target.expand path = target'.expand path ↔ target.dotted = target'.dotted := by
  cases path with
  | nil => simp only [expand, String.intercalate_singleton]
  | cons part path =>
    simp only [expand, String.intercalate_cons_cons]
    rw [String.append_left_inj, String.append_left_inj]

end Imported

/-- What a name is bound to last is the last thing of its kind that it is bound to. -/
theorem lastTo?_of_getLast? {α : Type} {kind : Imported → Option α} {bs : List Binding}
    {id : String} {target : Imported} (h : (boundTo bs id).getLast? = some target) {a : α}
    (ha : kind target = some a) : lastTo? kind bs id = some a := by
  obtain ⟨ts, hts⟩ := List.getLast?_eq_some_iff.1 h
  simp [lastTo?, hts, ha]

namespace Expr

/-- A dotted name of several parts is a member of what all but the last of them name. -/
theorem exists_member {e : Expr} {root last : String} {path : List String}
    (h : e.dotted? = some (root :: (path ++ [last]))) :
    ∃ owner span, e = member owner last span ∧ owner.dotted? = some (root :: path) := by
  cases e with
  | name id span => simp [dotted?] at h
  | member owner id span =>
    obtain ⟨parts, howner, heq⟩ := Option.map_eq_some_iff.1 h
    rw [← List.cons_append] at heq
    obtain ⟨rfl, hlast⟩ := List.append_inj' heq rfl
    cases hlast
    exact ⟨owner, span, rfl, howner⟩
  | _ => cases h

theorem exists_name {e : Expr} {root : String} (h : e.dotted? = some [root]) :
    ∃ span, e = name root span := by
  cases e with
  | name id span =>
    cases h
    exact ⟨span, rfl⟩
  | member owner id span =>
    obtain ⟨parts, howner, heq⟩ := Option.map_eq_some_iff.1 h
    cases parts with
    | nil => cases owner <;> simp [dotted?] at howner
    | cons part parts => simp at heq
  | _ => cases h

end Expr

namespace Node

/-- The callee is `root.path.last`, where the imports before it have bound the root, lastly to the
target, and the root is not the receiver of a method. -/
structure Chain (n : Node) (root : String) (path : List String) (last : String)
    (target : Imported) : Prop where
  callee : n.callee.dotted? = some (root :: (path ++ [last]))
  bound : (boundTo n.before root).getLast? = some target
  notReceiver : ¬ ((root = "self" ∨ root = "cls") ∧ n.owner.isSome)

instance (n : Node) (root : String) (path : List String) (last : String) (target : Imported) :
    Decidable (n.Chain root path last target) :=
  decidable_of_iff (n.callee.dotted? = some (root :: (path ++ [last])) ∧
      (boundTo n.before root).getLast? = some target ∧
      ¬ ((root = "self" ∨ root = "cls") ∧ n.owner.isSome))
    ⟨fun h => ⟨h.1, h.2.1, h.2.2⟩, fun h => ⟨h.callee, h.bound, h.notReceiver⟩⟩

namespace Chain

variable {n : Node} {root : String} {path : List String} {last : String} {target : Imported}

theorem owner_behind (h : n.Chain root path last target) :
    ((root = "self" || root = "cls") && (Names.behind n.owner n.before).owner.isSome) = false := by
  rw [Names.behind, Names.owner_bindAll]
  simpa using h.notReceiver

/-- The mention has the last name. Its hint is that of the module that the root was last bound to,
if there is one, or else the target where the root is followed by the last name. -/
theorem mention (h : n.Chain root path last target) {k : Mention} (hk : n.mention? = some k) :
    k.name = last ∧ k.container = none ∧
      k.module = match lastModule? n.before root with
        | some m => some ((Imported.module m).expand path)
        | none => if path = [] then some target.dotted else none := by
  obtain ⟨owner, span, hcallee, howner⟩ := Expr.exists_member h.callee
  have hhead := head?_of_mention? hk
  have hmodules := Names.find?_modules_behind n.owner n.before root
  rw [hcallee] at hhead
  cases path with
  | nil =>
    obtain ⟨rootSpan, rfl⟩ := Expr.exists_name howner
    simp only [Expr.mention, h.owner_behind, Bool.false_eq_true, if_false, hmodules,
      Names.find?_imported_behind] at hhead
    cases hm : lastModule? n.before root with
    | some m =>
      rw [hm] at hhead
      cases hhead
      exact ⟨rfl, rfl, by simp [Imported.expand, Imported.dotted]⟩
    | none =>
      rw [hm] at hhead
      cases target with
      | module m =>
        -- What the root is bound to last is a module.
        have hbound : lastModule? n.before root = some m := lastTo?_of_getLast? h.bound rfl
        rw [hm] at hbound
        cases hbound
      | member m id =>
        have hbound : lastMember? n.before root = some (m, id) := lastTo?_of_getLast? h.bound rfl
        rw [hbound] at hhead
        cases hhead
        exact ⟨rfl, rfl, rfl⟩
  | cons part parts =>
    have hmention : (Expr.member owner last span).mention (.behind n.owner n.before) =
        [⟨last, span, (lastModule? n.before root).map fun m =>
          (Imported.module m).expand (part :: parts), none⟩] := by
      rw [← hmodules]
      cases owner with
      | name id rootSpan => cases howner
      | member owner id ownerSpan =>
        simp [Expr.mention, Expr.memberModule, howner, Imported.expand, Imported.dotted]
      | _ => cases howner
    rw [hmention] at hhead
    cases hhead
    refine ⟨rfl, rfl, ?_⟩
    cases lastModule? n.before root <;> rfl

/-- Hint and name lead from the target to the callee exactly if the root is bound as a module,
lastly to one called like the target, or it is never so bound and nothing but the last name follows
it. -/
theorem hint_iff (h : n.Chain root path last target) {k : Mention} (hk : n.mention? = some k) :
    k.module.map (· ++ "." ++ last) = some (target.expand (path ++ [last])) ↔
      lastModule? n.before root = some target.dotted ∨
        lastModule? n.before root = none ∧ path = [] := by
  rw [(h.mention hk).2.2, target.expand_concat]
  cases lastModule? n.before root with
  | some m =>
    simp only [Option.map_some, Option.some_inj, reduceCtorEq, false_and, or_false]
    rw [String.append_left_inj, String.append_left_inj, Imported.expand_inj]
    rfl
  | none =>
    simp only [reduceCtorEq, false_or, true_and]
    split
    · next hpath => simp [hpath, Imported.expand]
    · next hpath => simp [hpath]

theorem hint_eq_none_iff (h : n.Chain root path last target) {k : Mention}
    (hk : n.mention? = some k) :
    k.module = none ↔ lastModule? n.before root = none ∧ path ≠ [] := by
  rw [(h.mention hk).2.2]
  cases lastModule? n.before root <;> simp

end Chain
end Node

namespace Module

/-- A use of `root.path.last`, where an import has bound the root, has the last name, and its hint
leads there from what the root is bound to exactly in the cases of `Node.Chain.hint_iff`. It has no
hint exactly if the root has never been bound as a module and something stands between it and the
last name. -/
theorem hints_expand_iff (m : Module) (file : String) (columns : ColumnMap) :
    List.Forall₂ (fun u n => ∀ root path last target, n.Chain root path last target →
        u.name = last ∧ u.container = none ∧
        (u.module.map (· ++ "." ++ u.name) = some (target.expand (path ++ [last])) ↔
          lastModule? n.before root = some target.dotted ∨
            lastModule? n.before root = none ∧ path = []) ∧
        (u.module = none ↔ lastModule? n.before root = none ∧ path ≠ []))
      (m.extract file columns).uses m.mentioned := by
  refine (m.uses_mentioned file columns).imp fun u n hu root path last target h => ?_
  obtain ⟨k, hk, hbecomes⟩ := hu
  obtain ⟨hname, hcontainer, -⟩ := h.mention hk
  rw [hbecomes.name, hbecomes.container, hbecomes.module, hname, hcontainer]
  exact ⟨rfl, rfl, h.hint_iff hk, h.hint_eq_none_iff hk⟩

/-- A member of a name of a relative module, and one of a module in a module. -/
def importedCalls : String :=
  "from .util import helper as h\nimport os.path\nh.run()\nos.path.join()\n"

set_option maxRecDepth 100000 in
theorem importedCalls_hints :
    ∃ m, Module.parse importedCalls = .ok m ∧
      ∃ p ∈ (m.extract "a.py" ⟨#[]⟩).uses.zip m.mentioned,
      ∃ q ∈ (m.extract "a.py" ⟨#[]⟩).uses.zip m.mentioned,
        p.2.Chain "h" [] "run" (.member ".util" "helper") ∧
        p.1.module.map (· ++ "." ++ p.1.name) = some ".util.helper.run" ∧
        q.2.Chain "os" ["path"] "join" (.module "os") ∧
        q.1.module.map (· ++ "." ++ q.1.name) = some "os.path.join" := by
  obtain ⟨m, hm, p, hp, q, hq, hrun, hnone, hjoin, hsome⟩ := exists_parse importedCalls (fun m =>
    ∃ p ∈ (m.extract "a.py" ⟨#[]⟩).uses.zip m.mentioned,
    ∃ q ∈ (m.extract "a.py" ⟨#[]⟩).uses.zip m.mentioned,
      p.2.Chain "h" [] "run" (.member ".util" "helper") ∧ lastModule? p.2.before "h" = none ∧
      q.2.Chain "os" ["path"] "join" (.module "os") ∧
      lastModule? q.2.before "os" = some "os") (by decide +kernel)
  obtain ⟨-, h⟩ := List.forall₂_iff_zip.1 (hints_expand_iff m "a.py" ⟨#[]⟩)
  have hhelper := (h hp _ _ _ _ hrun).2.2.1.2 (.inr ⟨hnone, rfl⟩)
  have hmodule := (h hq _ _ _ _ hjoin).2.2.1.2 (.inl hsome)
  exact ⟨m, hm, p, hp, q, hq, hrun, hhelper, hjoin, hmodule⟩

set_option maxRecDepth 100000 in
/-- A call of a member of a class in an imported module has no hint. -/
theorem member_of_imported_unhinted :
    ∃ m, Module.parse "from pkg import mod\nmod.Cls.create()\n" = .ok m ∧
      ∃ p ∈ (m.extract "a.py" ⟨#[]⟩).uses.zip m.mentioned,
        p.2.Chain "mod" ["Cls"] "create" (.member "pkg" "mod") ∧ p.1.module = none :=
  exists_parse _ _ (by decide +kernel)

end Module
end CodeAtlas.Offside
