/-!
# Tables in order of insertion

`Table κ α` maps keys to values and remembers the order in which the keys were first inserted.
Writing a key that is already there keeps its place; erasing a key and inserting it again puts it
at the end. No key occurs twice, and that is part of the type.

* `find?_eq_some_iff`: a look-up finds exactly the pairs;
* `find?_insert_self`, `find?_insert_of_ne`: what it sees after an insertion;
* `find?_insertIfNew`: the value that was there first stays;
* `find?_erase_self`, `find?_erase_of_ne`: what it sees after an erasure;
* `mem_of_find?_ofList`, `contains_ofList`, `pairs_ofList`: what is in a table that was written pair
  by pair;
* `find?_perm`: it does not depend on the order of the pairs;
* `insert_eq_map`: writing under a key that is there changes one value and nothing else.
-/

namespace CodeAtlas

/-- Key-value pairs in order of first insertion, each key once. -/
structure Table (κ : Type) (α : Type) where
  pairs : List (κ × α)
  nodup : (pairs.map Prod.fst).Nodup

namespace Table

variable {κ α : Type} [DecidableEq κ]

/-- The table without keys. -/
def empty : Table κ α := ⟨[], by simp⟩

instance : Inhabited (Table κ α) := ⟨empty⟩

/-- The keys, in order. -/
def keys (t : Table κ α) : List κ := t.pairs.map Prod.fst

/-- The values, in the order of their keys. -/
def values (t : Table κ α) : List α := t.pairs.map Prod.snd

/-- The number of keys. -/
def size (t : Table κ α) : Nat := t.pairs.length

/-- The value under a key. -/
def find? (t : Table κ α) (k : κ) : Option α := (t.pairs.find? (·.1 = k)).map Prod.snd

/-- Whether the key is there. -/
def contains (t : Table κ α) (k : κ) : Bool := (t.find? k).isSome

/-- Replaces the value of `k` where it stands, or appends the pair. -/
def insertPairs (k : κ) (v : α) : List (κ × α) → List (κ × α)
  | [] => [(k, v)]
  | p :: ps => if p.1 = k then (k, v) :: ps else p :: insertPairs k v ps

theorem mem_keys_insertPairs {k x : κ} {v : α} {ps : List (κ × α)} :
    x ∈ (insertPairs k v ps).map Prod.fst ↔ x = k ∨ x ∈ ps.map Prod.fst := by
  induction ps with
  | nil => simp [insertPairs]
  | cons p ps ih =>
    simp only [insertPairs]
    split
    · next h => simp [← h]
    · simp only [List.map_cons, List.mem_cons, ih]
      constructor
      · rintro (h | h | h) <;> simp [h]
      · rintro (h | h | h) <;> simp [h]

theorem nodup_insertPairs {k : κ} {v : α} {ps : List (κ × α)} (h : (ps.map Prod.fst).Nodup) :
    ((insertPairs k v ps).map Prod.fst).Nodup := by
  induction ps with
  | nil => simp [insertPairs]
  | cons p ps ih =>
    simp only [List.map_cons, List.nodup_cons] at h
    simp only [insertPairs]
    split
    · next hk => simpa [← hk] using h
    · next hk =>
      simp only [List.map_cons, List.nodup_cons]
      refine ⟨fun hm => ?_, ih h.2⟩
      rcases mem_keys_insertPairs.1 hm with e | hm
      · exact hk e
      · exact h.1 hm

/-- Writes a value; a key that is already there keeps its place. -/
def insert (t : Table κ α) (k : κ) (v : α) : Table κ α :=
  ⟨insertPairs k v t.pairs, nodup_insertPairs t.nodup⟩

/-- Keeps the pairs that pass the test. -/
def filter (t : Table κ α) (keep : κ → α → Bool) : Table κ α :=
  ⟨t.pairs.filter fun p => keep p.1 p.2, (List.filter_sublist.map Prod.fst).nodup t.nodup⟩

/-- Removes a key. -/
def erase (t : Table κ α) (k : κ) : Table κ α := t.filter fun x _ => x ≠ k

/-- Writes the pairs one after the other. -/
def ofList (ps : List (κ × α)) : Table κ α := ps.foldl (fun t p => t.insert p.1 p.2) empty

/-- Applies a function to every value. -/
def map {β : Type} (t : Table κ α) (f : κ → α → β) : Table κ β :=
  ⟨t.pairs.map fun p => (p.1, f p.1 p.2), by
    simpa [Function.comp_def, List.map_map] using t.nodup⟩

/-- Writes a value only where there is none yet. -/
def insertIfNew (t : Table κ α) (k : κ) (v : α) : Table κ α :=
  if t.contains k then t else t.insert k v

theorem find?_insert_self (t : Table κ α) (k : κ) (v : α) : (t.insert k v).find? k = some v := by
  simp only [find?, insert]
  generalize t.pairs = ps
  induction ps with
  | nil => simp [insertPairs]
  | cons p ps ih =>
    simp only [insertPairs]
    split
    · simp
    · next h => simpa [List.find?_cons, h] using ih

theorem find?_insert_of_ne (t : Table κ α) {k x : κ} (v : α) (h : x ≠ k) :
    (t.insert k v).find? x = t.find? x := by
  simp only [find?, insert]
  generalize t.pairs = ps
  induction ps with
  | nil => simp [insertPairs, Ne.symm h]
  | cons p ps ih =>
    simp only [insertPairs]
    split
    · next hk => simp [hk, Ne.symm h]
    · by_cases hx : p.1 = x
      · simp [hx]
      · simpa [List.find?_cons, hx] using ih

theorem find?_erase_self (t : Table κ α) (k : κ) : (t.erase k).find? k = none := by
  simp [find?, erase, filter]

theorem find?_erase_of_ne (t : Table κ α) {k x : κ} (h : x ≠ k) :
    (t.erase k).find? x = t.find? x := by
  simp only [find?, erase, filter]
  generalize t.pairs = ps
  induction ps with
  | nil => simp
  | cons p ps ih =>
    by_cases hk : p.1 = k
    · have : ¬ p.1 = x := fun e => h (e.symm.trans hk)
      simpa [List.filter_cons, List.find?_cons, hk, Ne.symm h] using ih
    · by_cases hx : p.1 = x
      · simp [hx, h]
      · simpa [List.filter_cons, List.find?_cons, hk, hx] using ih

theorem find?_insert (t : Table κ α) (k x : κ) (v : α) :
    (t.insert k v).find? x = if x = k then some v else t.find? x := by
  split
  · next h => rw [h, find?_insert_self]
  · next h => exact find?_insert_of_ne t v h

theorem find?_erase (t : Table κ α) (k x : κ) :
    (t.erase k).find? x = if x = k then none else t.find? x := by
  split
  · next h => rw [h, find?_erase_self]
  · next h => exact find?_erase_of_ne t h

theorem find?_insertIfNew (t : Table κ α) (k x : κ) (v : α) :
    (t.insertIfNew k v).find? x = (t.find? x).or (if x = k then some v else none) := by
  rw [insertIfNew, contains]
  cases hk : t.find? k with
  | some w =>
    rw [if_pos Option.isSome_some]
    by_cases h : x = k <;> simp [h, hk]
  | none =>
    rw [if_neg (by simp), find?_insert]
    by_cases h : x = k <;> simp [h, hk]

@[simp] theorem find?_empty (k : κ) : (empty : Table κ α).find? k = none := rfl

/-- A look-up finds exactly the pairs, since no key occurs twice. -/
theorem find?_eq_some_iff {t : Table κ α} {k : κ} {v : α} :
    t.find? k = some v ↔ (k, v) ∈ t.pairs := by
  obtain ⟨ps, h⟩ := t
  simp only [find?]
  induction ps with
  | nil => simp
  | cons p ps ih =>
    obtain ⟨x, w⟩ := p
    simp only [List.map_cons, List.nodup_cons] at h
    rw [List.find?_cons]
    by_cases hx : x = k
    · subst hx
      have hk : (x, v) ∉ ps := fun hm => h.1 (List.mem_map_of_mem hm)
      simp [hk, eq_comm]
    · simp [hx, Ne.symm hx, ih h.2]

theorem mem_values {t : Table κ α} {v : α} : v ∈ t.values ↔ ∃ k, t.find? k = some v := by
  simp [values, find?_eq_some_iff]

theorem mem_keys {t : Table κ α} {k : κ} : k ∈ t.keys ↔ t.contains k = true := by
  simp [keys, contains, Option.isSome_iff_exists, find?_eq_some_iff]

/-- What is found in a table that was written pair by pair is one of the pairs, or was there. -/
theorem mem_of_find?_foldl {ps : List (κ × α)} {t : Table κ α} {k : κ} {v : α}
    (h : (ps.foldl (fun t p => t.insert p.1 p.2) t).find? k = some v) :
    (k, v) ∈ ps ∨ t.find? k = some v := by
  induction ps generalizing t with
  | nil => exact .inr h
  | cons p ps ih =>
    rcases ih h with h | h
    · exact .inl (List.mem_cons_of_mem _ h)
    · rw [find?_insert] at h
      split at h
      · next hk =>
        obtain rfl := Option.some.inj h
        exact .inl (hk ▸ List.mem_cons_self)
      · exact .inr h

theorem mem_of_find?_ofList {ps : List (κ × α)} {k : κ} {v : α}
    (h : (ofList ps).find? k = some v) : (k, v) ∈ ps := by
  rcases mem_of_find?_foldl h with h | h
  · exact h
  · cases h

theorem contains_foldl {ps : List (κ × α)} {t : Table κ α} {k : κ} :
    (ps.foldl (fun t p => t.insert p.1 p.2) t).contains k = true ↔
      k ∈ ps.map Prod.fst ∨ t.contains k = true := by
  induction ps generalizing t with
  | nil => simp
  | cons p ps ih =>
    rw [List.foldl_cons, ih, List.map_cons, List.mem_cons]
    simp only [contains, find?_insert]
    by_cases hk : k = p.1 <;> simp [hk]

theorem contains_ofList {ps : List (κ × α)} {k : κ} :
    (ofList ps).contains k = true ↔ k ∈ ps.map Prod.fst := by
  rw [ofList, contains_foldl]
  simp [contains]

theorem insertPairs_of_not_mem {k : κ} {v : α} {ps : List (κ × α)}
    (h : k ∉ ps.map Prod.fst) : insertPairs k v ps = ps ++ [(k, v)] := by
  induction ps with
  | nil => rfl
  | cons p ps ih =>
    rw [List.map_cons, List.mem_cons, not_or] at h
    rw [insertPairs, if_neg (Ne.symm h.1), ih h.2, List.cons_append]

theorem pairs_foldl {ps : List (κ × α)} {t : Table κ α}
    (h : ((t.pairs ++ ps).map Prod.fst).Nodup) :
    (ps.foldl (fun t p => t.insert p.1 p.2) t).pairs = t.pairs ++ ps := by
  induction ps generalizing t with
  | nil => rw [List.append_nil, List.foldl_nil]
  | cons p ps ih =>
    have hnew : p.1 ∉ t.pairs.map Prod.fst := by
      rw [List.map_append, List.map_cons, List.nodup_append] at h
      exact fun hm => h.2.2 _ hm _ List.mem_cons_self rfl
    have hinsert : (t.insert p.1 p.2).pairs = t.pairs ++ [p] := insertPairs_of_not_mem hnew
    have happend : (t.insert p.1 p.2).pairs ++ ps = t.pairs ++ p :: ps := by
      rw [hinsert, List.append_assoc, List.singleton_append]
    rw [List.foldl_cons, ih (by rw [happend]; exact h), happend]

/-- Pairs that are written one by one stay as they are if no key occurs twice. -/
theorem pairs_ofList {ps : List (κ × α)} (h : (ps.map Prod.fst).Nodup) :
    (ofList ps).pairs = ps :=
  (pairs_foldl (t := empty) h).trans (List.nil_append ps)

omit [DecidableEq κ] in
theorem ext_pairs {t t' : Table κ α} (h : t.pairs = t'.pairs) : t = t' := by
  cases t
  cases t'
  cases h
  rfl

/-- A look-up does not depend on the order of the pairs. -/
theorem find?_perm {t t' : Table κ α} (h : t.pairs.Perm t'.pairs) (k : κ) :
    t.find? k = t'.find? k := by
  refine Option.ext fun v => ?_
  rw [find?_eq_some_iff, find?_eq_some_iff]
  exact h.mem_iff

@[simp] theorem find?_map {β : Type} (t : Table κ α) (f : κ → α → β) (k : κ) :
    (t.map f).find? k = (t.find? k).map (f k) := by
  simp only [find?, map]
  generalize t.pairs = ps
  induction ps with
  | nil => rfl
  | cons p ps ih =>
    by_cases hk : p.1 = k
    · simp [hk]
    · simpa [List.find?_cons, hk] using ih

omit [DecidableEq κ] in
theorem values_map {β : Type} (t : Table κ α) (f : α → β) :
    (t.map fun _ => f).values = t.values.map f := by
  rw [values, values, map, List.map_map, List.map_map]
  rfl

theorem map_insert {β : Type} (t : Table κ α) (k : κ) (v : α) (f : α → β) :
    (t.insert k v).map (fun _ => f) = (t.map fun _ => f).insert k (f v) := by
  refine ext_pairs ?_
  simp only [map, insert]
  generalize t.pairs = ps
  induction ps with
  | nil => rfl
  | cons p ps ih =>
    rw [insertPairs, List.map_cons, insertPairs]
    split
    · rfl
    · rw [List.map_cons, ih]

/-- Values may be changed before they are written or afterwards. -/
theorem map_ofList {β : Type} (ps : List (κ × α)) (f : α → β) :
    (ofList ps).map (fun _ => f) = ofList (ps.map fun p => (p.1, f p.2)) := by
  have hfold : ∀ t : Table κ α, (ps.foldl (fun t p => t.insert p.1 p.2) t).map (fun _ => f) =
      (ps.map fun p => (p.1, f p.2)).foldl (fun t p => t.insert p.1 p.2) (t.map fun _ => f) := by
    induction ps with
    | nil => exact fun t => rfl
    | cons p ps ih =>
      intro t
      rw [List.foldl_cons, ih, map_insert, List.map_cons, List.foldl_cons]
  exact hfold empty

/-- A key that is there has a place, where its value can be replaced. -/
theorem pairs_insert {t : Table κ α} {k : κ} {v : α} (h : t.find? k = some v) :
    ∃ front back, t.pairs = front ++ (k, v) :: back ∧
      ∀ w, (t.insert k w).pairs = front ++ (k, w) :: back := by
  simp only [find?, insert] at h ⊢
  generalize t.pairs = ps at h ⊢
  induction ps with
  | nil => simp at h
  | cons p ps ih =>
    by_cases hk : p.1 = k
    · obtain rfl : p.2 = v := by simpa [hk] using h
      exact ⟨[], ps, by simp [← hk], fun w => by simp [insertPairs, hk]⟩
    · obtain ⟨front, back, hps, hw⟩ := ih (by simpa [List.find?_cons, hk] using h)
      exact ⟨p :: front, back, by rw [hps]; rfl, fun w => by simp [insertPairs, hk, hw w]⟩

/-- Writing under a key that is there is changing its value and no other. -/
theorem insert_eq_map {t : Table κ α} {k : κ} {v w : α} {f : κ → α → α} (h : t.find? k = some v)
    (hk : f k v = w) (hf : ∀ x a, x ≠ k → t.find? x = some a → f x a = a) :
    t.insert k w = t.map f := by
  obtain ⟨front, back, hps, hw⟩ := pairs_insert h
  have hn := t.nodup
  rw [hps, List.map_append, List.map_cons, List.nodup_append] at hn
  obtain ⟨-, hback, hapart⟩ := hn
  have keep : ∀ p, p ∈ front ∨ p ∈ back → (p.1, f p.1 p.2) = p := by
    intro p hp
    have hmem : p ∈ t.pairs := by
      rw [hps]
      rcases hp with hp | hp <;> simp [hp]
    have hne : p.1 ≠ k := by
      rcases hp with hp | hp
      · exact hapart _ (List.mem_map_of_mem hp) _ List.mem_cons_self
      · intro hk
        have hmem : p.1 ∈ back.map Prod.fst := List.mem_map_of_mem hp
        exact (List.nodup_cons.1 hback).1 (hk ▸ hmem)
    rw [hf p.1 p.2 hne (find?_eq_some_iff.2 hmem)]
  have hfront : front.map (fun p => (p.1, f p.1 p.2)) = front :=
    (List.map_congr_left fun p hp => keep p (.inl hp)).trans (List.map_id front)
  have hback : back.map (fun p => (p.1, f p.1 p.2)) = back :=
    (List.map_congr_left fun p hp => keep p (.inr hp)).trans (List.map_id back)
  refine ext_pairs ?_
  rw [hw]
  simp only [map, hps, List.map_append, List.map_cons, hfront, hback, hk]

end Table
end CodeAtlas
