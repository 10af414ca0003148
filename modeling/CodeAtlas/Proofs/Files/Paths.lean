import Mathlib
import CodeAtlas.Files.Path

/-!
# The texts and the order of paths

A path can be read back from its text (`Path.ofText_toText`), so entries may be kept by the texts of
their paths. The root that a path starts with is told by its slashes, as no component starts with
one, and the components are what lies between the slashes that follow.

Paths are ordered by their components, the root that a path starts with being the first of them. No
two paths have the same components (`Path.components_inj`), so that sorting paths that are all
different makes a strictly increasing list (`Path.strict_mergeSort`), and a strictly increasing list
is known by its members (`Path.eq_of_strict`).
-/

namespace CodeAtlas

namespace Text

theorem splitOn_eq (sep : Char) (cs : List Char) : splitOn sep cs = cs.splitOn sep := by
  induction cs with
  | nil => rfl
  | cons c cs ih =>
    rw [splitOn, List.splitOn, List.splitOnP_cons_eq_if_modifyHead, ih, List.splitOn]
    cases h : cs.splitOnP (· == sep) with
    | nil => exact absurd h (List.splitOnP_ne_nil _ _)
    | cons p ps => simp [List.modifyHead]

theorem splitOn_cons_self (sep : Char) (cs : List Char) :
    splitOn sep (sep :: cs) = [] :: splitOn sep cs := by
  rw [splitOn]
  cases h : splitOn sep cs with
  | nil => exact absurd h (splitOn_ne_nil sep cs)
  | cons p ps => exact if_pos rfl

end Text

namespace Path

theorem ext {p q : Path} (ha : p.anchor = q.anchor) (hn : p.names = q.names) : p = q := by
  cases p
  cases q
  simp only [mk.injEq]
  exact ⟨ha, hn⟩

theorem child_names {name : String} (h : IsComponent name) (d : Path) :
    (d.child name).names = d.names ++ [name] := by
  simp [child, join, ofNames, isAbsolute, h]

/-- What stands between the slashes of a path's text. -/
def parts (p : Path) : List String :=
  if p.anchor = .relative ∧ p.names = [] then ["."] else p.names

/-- The text behind the slashes that a path starts with. -/
def body (p : Path) : List Char := ['/'].intercalate (p.parts.map String.toList)

theorem toText_toList (p : Path) : p.toText.toList = p.anchor.text.toList ++ p.body := by
  rw [toText, body, parts]
  split
  · next h =>
    rw [h.1]
    rfl
  · rw [String.toList_append, String.toList_intercalate]
    rfl

theorem mem_parts {p : Path} {s : String} (h : s ∈ p.parts) : s ≠ "" ∧ '/' ∉ s.toList := by
  rw [parts] at h
  split at h
  · rw [List.mem_singleton.1 h]
    decide
  · have hc := p.isComponent s h
    exact ⟨hc.1, hc.2.2⟩

/-- No component is empty or starts with a slash. -/
theorem body_cons {p : Path} (h : p.parts ≠ []) : ∃ c cs, p.body = c :: cs ∧ c ≠ '/' := by
  rw [body]
  cases hp : p.parts with
  | nil => exact absurd hp h
  | cons s rest =>
    obtain ⟨hne, hs⟩ := mem_parts (hp ▸ List.mem_cons_self : s ∈ p.parts)
    obtain ⟨c, t, hct⟩ := List.exists_cons_of_ne_nil (mt String.toList_eq_nil_iff.1 hne)
    have hc : c ≠ '/' := by
      rintro rfl
      exact hs (hct ▸ List.mem_cons_self)
    cases rest with
    | nil => simp [hct, hc]
    | cons s' rest => simp [List.intercalate_cons_cons, hct, hc]

theorem body_eq_nil_iff {p : Path} : p.body = [] ↔ p.parts = [] := by
  constructor
  · intro h
    refine Classical.byContradiction fun hne => ?_
    obtain ⟨c, cs, hc, -⟩ := body_cons hne
    simp [h] at hc
  · intro h
    rw [body, h]
    rfl

theorem body_ne_cons (p : Path) (cs : List Char) : p.body ≠ '/' :: cs := by
  intro h
  by_cases hp : p.parts = []
  · simp [body_eq_nil_iff.2 hp] at h
  · obtain ⟨c, cs', hc, hne⟩ := body_cons hp
    exact hne (List.cons.inj (hc.symm.trans h)).1

/-- The components are what lies between the slashes. -/
theorem splitOn_body {p : Path} (h : p.parts ≠ []) :
    Text.splitOn '/' p.body = p.parts.map String.toList := by
  rw [Text.splitOn_eq, body]
  refine List.splitOn_intercalate '/' ?_ (by simpa using h)
  intro l hl
  obtain ⟨s, hs, rfl⟩ := List.mem_map.1 hl
  exact (mem_parts hs).2

/-- A single dot that stands for no component is dropped when it is read. -/
theorem filter_splitOn_body (p : Path) :
    ((Text.splitOn '/' p.body).map String.ofList).filter (fun s => IsComponent s) = p.names := by
  by_cases h : p.parts = []
  · have hn : p.names = [] := by
      rw [parts] at h
      split at h
      · cases h
      · exact h
    rw [body_eq_nil_iff.2 h, hn]
    decide
  · rw [splitOn_body h, List.map_map]
    simp only [Function.comp_def, String.ofList_toList, List.map_id']
    rw [parts]
    split
    · next hp =>
      rw [hp.2]
      decide
    · exact List.filter_eq_self.2 fun s hs => decide_eq_true (p.isComponent s hs)

/-- A path can be read back from its text. -/
theorem ofText_toText (p : Path) : ofText p.toText = p := by
  refine ext ?_ ?_
  · change anchorOf p.toText.toList = _
    rw [toText_toList]
    cases p.anchor <;> cases hb : p.body with
    | nil => rfl
    | cons c cs =>
      have hc : c ≠ '/' := fun hc => body_ne_cons p cs (hc ▸ hb)
      simp [Anchor.text, anchorOf, hc]
  · change ((Text.splitOn '/' p.toText.toList).map String.ofList).filter _ = _
    rw [toText_toList, ← filter_splitOn_body p]
    -- The slashes in front make pieces without characters.
    have hempty : ¬ IsComponent (String.ofList []) := by decide
    cases p.anchor with
    | relative => rfl
    | root =>
      change ((Text.splitOn '/' ('/' :: p.body)).map String.ofList).filter _ = _
      simp [Text.splitOn_cons_self, hempty]
    | doubleRoot =>
      change ((Text.splitOn '/' ('/' :: '/' :: p.body)).map String.ofList).filter _ = _
      simp [Text.splitOn_cons_self, hempty]

/-- Paths are told apart by their texts. -/
theorem toText_inj {p q : Path} (h : p.toText = q.toText) : p = q := by
  rw [← ofText_toText p, h, ofText_toText]

/-! ## Order -/

/-- A root is no component that could stand between slashes. -/
theorem components_ne {p q : Path} (hp : p.anchor = .relative) (hq : q.anchor ≠ .relative) :
    p.components ≠ q.components := by
  intro h
  have hroot : q.anchor.text ∈ p.names ∧ '/' ∈ q.anchor.text.toList := by
    rw [components, components, hp] at h
    change p.names = _ at h
    rw [h]
    cases ha : q.anchor with
    | relative => exact absurd ha hq
    | root | doubleRoot => exact ⟨by simp [Anchor.components], by decide⟩
  exact (p.isComponent _ hroot.1).2.2 hroot.2

/-- Paths are told apart by their components. -/
theorem components_inj {p q : Path} (h : p.components = q.components) : p = q := by
  by_cases hp : p.anchor = .relative <;> by_cases hq : q.anchor = .relative
  · rw [components, components, hp, hq] at h
    exact ext (hp.trans hq.symm) h
  · exact absurd h (components_ne hp hq)
  · exact absurd h.symm (components_ne hq hp)
  · have hcons : ∀ r : Path, r.anchor ≠ .relative → r.components = r.anchor.text :: r.names := by
      intro r hr
      rw [components]
      cases ha : r.anchor with
      | relative => exact absurd ha hr
      | root | doubleRoot => rfl
    rw [hcons p hp, hcons q hq] at h
    obtain ⟨htext, hnames⟩ := List.cons.inj h
    refine ext ?_ hnames
    revert htext hp hq
    cases p.anchor <;> cases q.anchor <;> simp [Anchor.text]

theorem lt_iff {a b : Path} : a.lt b = true ↔ a.components < b.components := by
  rw [lt, decide_eq_true_iff]

theorem not_lt_iff {a b : Path} : (!b.lt a) = true ↔ a.components ≤ b.components := by
  rw [Bool.not_eq_true', ← Bool.not_eq_true, lt_iff, not_lt]

/-- Sorting paths that are all different makes them strictly increasing. -/
theorem strict_mergeSort {ps : List Path} (h : ps.Nodup) :
    (ps.mergeSort fun a b => !b.lt a).Pairwise fun a b => a.lt b = true := by
  have hle : (ps.mergeSort fun a b => !b.lt a).Pairwise fun a b => (!b.lt a) = true := by
    refine List.pairwise_mergeSort (fun a b c => ?_) (fun a b => ?_) ps
    · rw [not_lt_iff, not_lt_iff, not_lt_iff]
      exact le_trans
    · rw [Bool.or_eq_true, not_lt_iff, not_lt_iff]
      exact le_total _ _
  have hne := (List.mergeSort_perm ps fun a b => !b.lt a).nodup_iff.2 h
  refine (hle.and hne).imp fun {a b} hab => ?_
  rw [not_lt_iff] at hab
  exact lt_iff.2 (lt_of_le_of_ne hab.1 fun heq => hab.2 (components_inj heq))

/-- Strictly increasing lists with the same members are the same. -/
theorem eq_of_strict {ps qs : List Path} (hp : ps.Pairwise fun a b => a.lt b = true)
    (hq : qs.Pairwise fun a b => a.lt b = true) (h : ∀ p, p ∈ ps ↔ p ∈ qs) : ps = qs := by
  have nodup : ∀ {rs : List Path}, (rs.Pairwise fun a b => a.lt b = true) → rs.Nodup := by
    intro rs hr
    refine hr.imp fun {a b} hab heq => ?_
    rw [lt_iff, heq] at hab
    exact lt_irrefl _ hab
  have hperm : ps.Perm qs := (List.perm_ext_iff_of_nodup (nodup hp) (nodup hq)).2 h
  refine hperm.eq_of_pairwise (fun a b _ _ hab hba => ?_) hp hq
  exact absurd (lt_iff.1 hab) (lt_asymm (lt_iff.1 hba))

end Path
end CodeAtlas
