import Mathlib.Algebra.Ring.Nat
import CodeAtlas.Proofs.Indexer.Intake

/-!
# Counting vectors

An embedder counts the vectors that it finds. An entry that has none beforehand has as many
afterwards as were counted (`Setup.embed_vectors`), and so have entries that get their vectors one
after the other (`Setup.embedAll_vectors`).
-/

namespace CodeAtlas

/-- The number of vectors of an entry: its own and those of its symbols. -/
def Entry.vectors (e : Entry) : Nat := e.embedding.toList.length + e.embeddedSymbols.length

namespace Entry

theorem bare_of_symbols_nil {e : Entry} (he : e.embedding = none) (hs : e.symbols = []) :
    e.bare = e := by
  rw [bare, hs, List.map_nil, ← hs, ← he]

theorem embedding_of_bare {e : Entry} (h : e.bare = e) : e.embedding = none := by
  rw [← h]
  rfl

theorem symbol_embedding_of_bare {e : Entry} (h : e.bare = e) {x : Symbol} (hx : x ∈ e.symbols) :
    x.embedding = none := by
  rw [← h] at hx
  obtain ⟨y, -, rfl⟩ := List.mem_map.1 hx
  rfl

theorem embeddedSymbols_of_bare {e : Entry} (h : e.bare = e) : e.embeddedSymbols = [] := by
  rw [embeddedSymbols, List.filter_eq_nil_iff]
  intro x hx
  rw [symbol_embedding_of_bare h hx]
  exact Bool.false_ne_true

end Entry

namespace Embedder

variable {σ : Type} {m : Embedder σ} {s s' : σ} {n : Nat}

theorem embedFile_vectors {e e' : Entry} (he : e.embedding = none)
    (h : m.embedFile e s = (.ok (e', n), s')) :
    e'.embedding.toList.length = n ∧ e'.symbols = e.symbols := by
  rw [embedFile] at h
  split at h
  · cases h
    rw [he]
    exact ⟨rfl, rfl⟩
  · obtain ⟨v, -, hv⟩ := Except.map_eq_ok_iff.1 (congrArg Prod.fst h)
    cases hv
    exact ⟨rfl, rfl⟩

theorem embedSymbol_vectors {content : String} {x x' : Symbol} (hx : x.embedding = none)
    (h : m.embedSymbol content x s = (.ok (x', n), s')) : x'.embedding.toList.length = n := by
  rw [embedSymbol] at h
  dsimp only at h
  split at h
  · cases h
    rw [hx]
    rfl
  · obtain ⟨v, -, hv⟩ := Except.map_eq_ok_iff.1 (congrArg Prod.fst h)
    cases hv
    rfl

theorem embedSymbols_vectors {content : String} {xs xs' : List Symbol}
    (hxs : ∀ x ∈ xs, x.embedding = none)
    (h : m.embedSymbols content xs s = (.ok (xs', n), s')) :
    (xs'.filter fun x => x.embedding.isSome).length = n := by
  induction xs generalizing s s' xs' n with
  | nil =>
    cases h
    rfl
  | cons x xs ih =>
    rw [embedSymbols] at h
    split at h
    · cases h
    · next y k s₁ hy =>
      obtain ⟨⟨ys, j⟩, hys, hv⟩ := Except.map_eq_ok_iff.1 (congrArg Prod.fst h)
      cases hv
      have hone : y.embedding.toList.length = k :=
        embedSymbol_vectors (hxs x List.mem_cons_self) hy
      have hrest : (ys.filter fun x => x.embedding.isSome).length = j :=
        ih (fun z hz => hxs z (List.mem_cons_of_mem _ hz)) (Prod.ext hys rfl)
      rw [← hone, ← hrest, List.filter_cons]
      cases y.embedding with
      | none => exact (Nat.zero_add _).symm
      | some v => exact Nat.add_comm _ 1

theorem embedEntry_vectors {extent : Extent} {e e' : Entry} (he : e.bare = e)
    (h : m.embedEntry extent e s = (.ok (e', n), s')) : e'.vectors = n := by
  rw [embedEntry] at h
  split at h
  · cases h
  · next e₁ k s₁ hfile =>
    -- The vector of the file leaves the symbols as they are.
    have h₁ : e₁.embedding.toList.length = k ∧ e₁.symbols = e.symbols := by
      split at hfile
      · exact embedFile_vectors (Entry.embedding_of_bare he) hfile
      · cases hfile
        rw [Entry.embedding_of_bare he]
        exact ⟨rfl, rfl⟩
    split at h
    · obtain ⟨⟨xs, j⟩, hxs, hv⟩ := Except.map_eq_ok_iff.1 (congrArg Prod.fst h)
      cases hv
      have hsymbols : (xs.filter fun x => x.embedding.isSome).length = j := by
        refine embedSymbols_vectors ?_ (Prod.ext hxs rfl)
        rw [h₁.2]
        exact fun x hx => Entry.symbol_embedding_of_bare he hx
      rw [Entry.vectors, ← h₁.1, ← hsymbols]
      rfl
    · cases h
      have hnone : e'.embeddedSymbols = [] := by
        rw [Entry.embeddedSymbols, h₁.2]
        exact Entry.embeddedSymbols_of_bare he
      rw [Entry.vectors, h₁.1, hnone]
      rfl

end Embedder

namespace Setup

variable {σ : Type} {u : Setup σ} {s s' : σ} {n : Nat}

theorem embed_vectors {e e' : Entry} (he : e.bare = e) (h : u.embed e s = (.ok (e', n), s')) :
    e'.vectors = n := by
  have hnone : e.vectors = 0 := by
    rw [Entry.vectors, Entry.embedding_of_bare he, Entry.embeddedSymbols_of_bare he]
    rfl
  rw [embed] at h
  split at h
  · cases h
    exact hnone
  · split at h
    · exact Embedder.embedEntry_vectors he h
    · cases h
      exact hnone

/-- Of entries without vectors, as many vectors are counted as they have in the end. -/
theorem embedAll_vectors {es es' : List Entry} (hes : ∀ e ∈ es, e.bare = e)
    (h : u.embedAll es s = (.ok (es', n), s')) : (es'.map Entry.vectors).sum = n := by
  induction es generalizing s s' es' n with
  | nil =>
    cases h
    rfl
  | cons e es ih =>
    rw [embedAll] at h
    split at h
    · cases h
    · next d k s₁ he =>
      obtain ⟨⟨ds, j⟩, hds, hv⟩ := Except.map_eq_ok_iff.1 (congrArg Prod.fst h)
      cases hv
      have hone : d.vectors = k := embed_vectors (hes e List.mem_cons_self) he
      have hrest : (ds.map Entry.vectors).sum = j :=
        ih (fun e he => hes e (List.mem_cons_of_mem _ he)) (Prod.ext hds rfl)
      rw [List.map_cons, List.sum_cons, hone, hrest]

theorem analyzed_bare {e : Entry} (he : e.embedding = none) (hs : e.symbols = [])
    (r : Except String (Except ParseError Extraction)) : (analyzed e r).1.bare = (analyzed e r).1 := by
  rcases r with reason | err | x
  · exact Entry.bare_of_symbols_nil he hs
  · exact Entry.bare_of_symbols_nil he hs
  · simp [analyzed, Entry.bare, he, Symbol.bare, Symbol.ofDeclaration]

/-- What is made of a file has no vectors. -/
theorem extractFile_bare (fs : FileSystem) (path : Path) (generation : Int) (stamp : Nat) :
    (u.extractFile fs path generation stamp).1.bare =
      (u.extractFile fs path generation stamp).1 := by
  simp only [extractFile]
  split
  · exact Entry.bare_of_symbols_nil rfl rfl
  · exact Entry.bare_of_symbols_nil rfl rfl
  · split
    · exact Entry.bare_of_symbols_nil rfl rfl
    · split
      · exact Entry.bare_of_symbols_nil rfl rfl
      · exact analyzed_bare rfl rfl _

end Setup
end CodeAtlas
