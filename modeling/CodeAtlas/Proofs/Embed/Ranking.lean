import Mathlib
import CodeAtlas.Indexer.Query

/-!
# What a search finds

Everything of the scope that has a vector of the query's dimension and is similar enough is found
(`Store.similar`), and a search lists the best of it: higher scores first, equal ones as they stand
in the store (`Store.search_ranks`). Every number but NaN has a place in a linear order
(`floatPlace`), and comparing two numbers compares their places (`float_le_iff`). Scores that are
compared are never NaN, which is what makes sorting by them stable and sound (`exists_ranking`).
-/

namespace CodeAtlas

/-! ## The order of scores -/

section

open Float.Model

/-- Where an unpacked number stands: its side of zero, its exponent, its mantissa. NaN, which has no
place, is put in front. -/
def unpackedPlace : UnpackedFloat → Int ×ₗ Int ×ₗ Int
  | .notANumber => toLex (-3, toLex (0, 0))
  | .infinity .negative => toLex (-2, toLex (0, 0))
  | .finite .negative m e _ => toLex (-1, toLex (-e, -m))
  | .zero _ => toLex (0, toLex (0, 0))
  | .finite .positive m e _ => toLex (1, toLex (e, m))
  | .infinity .positive => toLex (2, toLex (0, 0))

theorem compare_then_isLE {e e' : Int} {m m' : Nat} :
    ((compare e e').then (compare m m')).isLE = true ↔ e < e' ∨ e = e' ∧ m ≤ m' := by
  rw [Ordering.isLE_then_iff_or, Int.compare_eq_lt, compare_eq_iff_eq, Nat.isLE_compare]

theorem compare_then_isGE {e e' : Int} {m m' : Nat} :
    ((compare e e').then (compare m m')).isGE = true ↔ e' < e ∨ e = e' ∧ m' ≤ m := by
  rw [← Ordering.isLE_swap, Ordering.swap_then, Int.compare_swap, Nat.compare_swap,
    compare_then_isLE, eq_comm]

theorem compare_sign_isLE {s s' : UnpackedFloat.Sign} :
    (compare s s').isLE = true ↔ s = .negative ∨ s' = .positive := by
  cases s <;> cases s' <;> simp [compare]

theorem unpacked_le_iff {a b : UnpackedFloat} :
    a.le b = true ↔ a ≠ .notANumber ∧ b ≠ .notANumber ∧ unpackedPlace a ≤ unpackedPlace b := by
  rcases a with ⟨⟨⟩⟩ | _ | _ | ⟨⟨⟩, m, e, hm⟩ <;>
    rcases b with ⟨⟨⟩⟩ | _ | _ | ⟨⟨⟩, m', e', hm'⟩ <;>
      simp [UnpackedFloat.le, UnpackedFloat.compare, unpackedPlace, Prod.Lex.toLex_le_toLex,
        compare_sign_isLE, compare_then_isLE, compare_then_isGE]

/-- Where a number stands. -/
def floatPlace (a : Float) : Int ×ₗ Int ×ₗ Int := unpackedPlace a.toModel.unpack

variable {a b : Float}

theorem isNaN_eq_false_iff : a.isNaN = false ↔ a.toModel.unpack ≠ .notANumber := by
  rw [Float.isNaN, Float.Model.isNaN]
  cases a.toModel.unpack <;> simp [UnpackedFloat.isNaN]

/-- Only numbers that are not NaN compare, and they do as their places. -/
theorem float_le_iff :
    a ≤ b ↔ a.isNaN = false ∧ b.isNaN = false ∧ floatPlace a ≤ floatPlace b := by
  have hle : a ≤ b ↔ a.toModel.unpack.le b.toModel.unpack = true :=
    decide_eq_true_iff (p := a.toModel ≤ b.toModel)
  rw [hle, unpacked_le_iff, isNaN_eq_false_iff, isNaN_eq_false_iff]
  rfl

end

/-! ## Sorting hits -/

/-- The first hit goes before the second one: its score is higher, or equal and its number less. -/
def Hit.Before (a b : Hit × Nat) : Prop :=
  b.1.score ≤ a.1.score ∧ (a.1.score ≤ b.1.score → a.2 < b.2)

/-- Whether the first hit scores no lower than the second one, with NaN below all numbers. -/
def Hit.leads (a b : Hit) : Bool := decide (floatPlace b.score ≤ floatPlace a.score)

theorem Hit.leads_trans (a b c : Hit) (h : a.leads b = true) (h' : b.leads c = true) :
    a.leads c = true := by
  rw [leads, decide_eq_true_iff] at h h' ⊢
  exact h'.trans h

theorem Hit.leads_total (a b : Hit) : (a.leads b || b.leads a) = true := by
  rw [Bool.or_eq_true, leads, leads, decide_eq_true_iff, decide_eq_true_iff]
  exact le_total _ _

theorem Hit.leads_iff {a b : Hit} (ha : a.score.isNaN = false) (hb : b.score.isNaN = false) :
    a.leads b = true ↔ b.score ≤ a.score := by
  rw [leads, decide_eq_true_iff, float_le_iff]
  exact ⟨fun h => ⟨hb, ha, h⟩, fun h => h.2.2⟩

/-- Of two numbered hits in the order of a stable sort, the first one goes before the second. -/
theorem Hit.before_of_zipIdxLE {a b : Hit × Nat} (ha : a.1.score.isNaN = false)
    (hb : b.1.score.isNaN = false) (hne : a.2 ≠ b.2) (h : List.zipIdxLE leads a b = true) :
    Before a b := by
  rw [List.zipIdxLE] at h
  split at h
  · next hab =>
    refine ⟨(leads_iff ha hb).1 hab, fun hba => ?_⟩
    rw [if_pos ((leads_iff hb ha).2 hba), decide_eq_true_iff] at h
    exact Nat.lt_of_le_of_ne h hne
  · cases h

/-- Hits whose scores are numbers are sorted by a ranking of them that leaves none out. -/
theorem exists_ranking {hits : List Hit} (hnan : ∀ h ∈ hits, h.score.isNaN = false) :
    ∃ ranking : List (Hit × Nat), ranking.Perm hits.zipIdx ∧ ranking.Pairwise Hit.Before ∧
      (hits.mergeSort fun a b => decide (b.score ≤ a.score)) = ranking.map Prod.fst := by
  have hperm := List.mergeSort_perm hits.zipIdx (List.zipIdxLE Hit.leads)
  have hsorted := List.pairwise_mergeSort (List.zipIdxLE_trans Hit.leads_trans)
    (List.zipIdxLE_total Hit.leads_total) hits.zipIdx
  refine ⟨_, hperm, ?_, ?_⟩
  · have hnumber : ∀ a ∈ hits.zipIdx.mergeSort (List.zipIdxLE Hit.leads),
        a.1.score.isNaN = false :=
      fun a ha => hnan a.1 (List.fst_mem_of_mem_zipIdx (hperm.mem_iff.1 ha))
    have hdistinct : (hits.zipIdx.mergeSort (List.zipIdxLE Hit.leads)).Pairwise
        fun a b => a.2 ≠ b.2 := by
      apply List.pairwise_map.1
      change (List.map Prod.snd _).Nodup
      rw [(hperm.map Prod.snd).nodup_iff, List.zipIdx_map_snd]
      exact List.nodup_range'
    refine (hsorted.and hdistinct).imp_of_mem fun {a b} ha hb h => ?_
    exact Hit.before_of_zipIdxLE (hnumber a ha) (hnumber b hb) h.2 h.1
  · -- Among numbers, comparing scores and comparing their places is the same.
    have hsame : ∀ a ∈ hits, ∀ b ∈ hits, decide (b.score ≤ a.score) = a.leads b := by
      intro a ha b hb
      rw [Bool.eq_iff_iff, decide_eq_true_iff, Hit.leads_iff (hnan a ha) (hnan b hb)]
    rw [List.mergeSort_zipIdx]
    simpa using List.map_mergeSort (f := id) hsame

/-! ## What is searched -/

/-- The cosine of the angle between two vectors of one dimension; zero if one has no length. -/
def similarity (a b : Embedding) : Float :=
  if magnitude a == 0.0 || magnitude b == 0.0 then 0.0
  else dotProduct a b / (magnitude a * magnitude b)

theorem cosine_eq (a b : Embedding) : cosine a b =
    if a.length = b.length then .ok (similarity a b)
    else .error (.dimensionMismatch a.length b.length) := by
  simp only [cosine, similarity, ne_eq, ite_not]
  split
  · split <;> rfl
  · rfl

/-- A candidate is a hit if it has the query's dimension and is similar enough. -/
theorem Candidate.hit?_eq (query : Embedding) (minSimilarity : Float) (c : Candidate) :
    c.hit? query minSimilarity =
      if query.length = c.vector.length ∧ minSimilarity ≤ similarity query c.vector then
        some ⟨c.file, c.symbol, similarity query c.vector⟩ else none := by
  rw [hit?, cosine_eq]
  by_cases hlength : query.length = c.vector.length
  · simp [hlength]
  · simp [hlength]

/-- What has a vector in an entry: the file, then its symbols. -/
def Entry.bearers (e : Entry) : List Candidate :=
  (e.embedding.map fun v => ⟨e.path, none, v⟩).toList ++
    e.symbols.filterMap fun x => x.embedding.map fun v => ⟨e.path, some x, v⟩

/-- Whether a search of the scope looks at the candidate. -/
def Scope.admits (scope : Scope) (c : Candidate) : Bool :=
  match scope with
  | .all => true
  | .files => c.symbol.isNone
  | .symbols => c.symbol.isSome

@[simp] theorem Scope.admits_file (scope : Scope) (path : String) (v : Embedding) :
    scope.admits ⟨path, none, v⟩ = decide (scope ≠ .symbols) := by
  cases scope <;> rfl

@[simp] theorem Scope.admits_symbol (scope : Scope) (path : String) (x : Symbol) (v : Embedding) :
    scope.admits ⟨path, some x, v⟩ = decide (scope ≠ .files) := by
  cases scope <;> rfl

namespace Store

variable (s : Store) (query : Embedding) (minSimilarity : Float) (scope : Scope)

theorem candidates_eq :
    s.candidates scope = (s.entries.values.flatMap Entry.bearers).filter scope.admits := by
  rw [candidates, List.filter_flatMap]
  congr 1
  funext e
  rw [Entry.bearers, List.filter_append, List.filter_filterMap]
  have hall : ∀ o : Option Embedding, o.filter (fun _ => true) = o := by
    rintro (_ | v) <;> rfl
  cases e.embedding <;> cases scope <;> simp [Option.filter_map, Function.comp_def, hall]

/-- The embedded files and symbols of the scope, in the order of the store, that have the query's
dimension and are similar enough to it. -/
def similar : List Hit :=
  ((s.entries.values.flatMap Entry.bearers).filter fun c =>
    scope.admits c && query.length = c.vector.length &&
      decide (minSimilarity ≤ similarity query c.vector)).map
    fun c => ⟨c.file, c.symbol, similarity query c.vector⟩

theorem filterMap_candidates :
    (s.candidates scope).filterMap (Candidate.hit? query minSimilarity) =
      s.similar query minSimilarity scope := by
  rw [candidates_eq, similar, ← List.filterMap_eq_map', List.filterMap_filter,
    List.filterMap_filter]
  congr 1
  funext c
  rw [Candidate.hit?_eq]
  by_cases hscope : scope.admits c = true
  · simp [hscope]
  · simp [hscope]

theorem isNaN_of_mem_similar {h : Hit} (hmem : h ∈ s.similar query minSimilarity scope) :
    h.score.isNaN = false := by
  obtain ⟨c, hc, rfl⟩ := List.mem_map.1 hmem
  have hmin : minSimilarity ≤ similarity query c.vector := by
    simpa using (Bool.and_eq_true_iff.1 (List.mem_filter.1 hc).2).2
  exact (float_le_iff.1 hmin).2.1

/-- All searches that differ in nothing but the number of hits list the beginning of one ranking. -/
theorem exists_ranking_search : ∃ ranking : List (Hit × Nat),
    ranking.Perm (s.similar query minSimilarity scope).zipIdx ∧ ranking.Pairwise Hit.Before ∧
      ∀ limit, s.search query limit minSimilarity scope =
        (ranking.take limit.toNat).map Prod.fst := by
  obtain ⟨ranking, hperm, hsorted, heq⟩ :=
    exists_ranking fun h => s.isNaN_of_mem_similar query minSimilarity scope
  refine ⟨ranking, hperm, hsorted, fun limit => ?_⟩
  rw [search, rank, filterMap_candidates, heq, List.map_take]

/-- A search finds no two times the same and nothing that is not similar enough, as many as there
are and are asked for, higher scores first and equal ones in the order of the store. What it leaves
out scores no higher than what it finds, and asking for more only adds to the end. -/
theorem search_ranks :
    (∀ limit : Int, ∃ kept left : List (Hit × Nat),
      (kept ++ left).Perm (s.similar query minSimilarity scope).zipIdx ∧
      s.search query limit minSimilarity scope = kept.map Prod.fst ∧
      (kept.length : Int) = min (max limit 0) (s.similar query minSimilarity scope).length ∧
      kept.Pairwise Hit.Before ∧ ∀ a ∈ kept, ∀ b ∈ left, b.1.score ≤ a.1.score) ∧
    (∀ limit limit' : Int, limit ≤ limit' → s.search query limit minSimilarity scope <+:
      s.search query limit' minSimilarity scope) ∧
    ∀ h ∈ s.similar query minSimilarity scope, h.score.isNaN = false := by
  obtain ⟨ranking, hperm, hsorted, heq⟩ := s.exists_ranking_search query minSimilarity scope
  refine ⟨fun limit => ?_, fun limit limit' hle => ?_, fun h hh =>
    s.isNaN_of_mem_similar query minSimilarity scope hh⟩
  · have hsplit := hsorted
    rw [← List.take_append_drop limit.toNat ranking, List.pairwise_append] at hsplit
    obtain ⟨hkept, -, hcross⟩ := hsplit
    refine ⟨ranking.take limit.toNat, ranking.drop limit.toNat, ?_, heq limit, ?_, hkept,
      fun a ha b hb => (hcross a ha b hb).1⟩
    · rwa [List.take_append_drop]
    · have hlength : ranking.length = (s.similar query minSimilarity scope).length := by
        simpa using hperm.length_eq
      rw [List.length_take, hlength]
      omega
  · rw [heq, heq]
    exact (List.take_prefix_take_left (by omega)).map _

end Store
end CodeAtlas
