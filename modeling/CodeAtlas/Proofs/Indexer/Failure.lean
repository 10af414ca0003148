import CodeAtlas.Proofs.Ignore.Trouble
import CodeAtlas.Proofs.Indexer.Intake

/-!
# Failures that are no faults of configuration

A build that finds no directory among its roots fails with a fault of configuration, and empties the
store. Nothing else that a build does fails with one: replacing links, reading patterns, finding
files and asking a model have other reasons to fail (`discoverAll_configured`,
`BuildJob.prepare_configured`).

Asking a model mostly fails with an `Error.IsEmbedding`, which is forgiven where an entry gets its
vectors. What a build prepares can fail only with the other errors that asking fails with
(`BuildJob.prepare_failsWith`).
-/

namespace CodeAtlas

/-- Whether an error is that no root is a directory. -/
def Error.IsNoRoots (e : Error) : Prop := ∃ roots, e = .noRoots roots

/-- The errors that are faults of configuration. -/
inductive Error.IsConfiguration : Error → Prop
  | noRoots (roots : List String) : IsConfiguration (.noRoots roots)
  | unreadable (path : String) : IsConfiguration (.configUnreadable path)
  | notMapping (path kind : String) : IsConfiguration (.configNotMapping path kind)
  | invalid (complaints : List Complaint) : IsConfiguration (.configInvalid complaints)

/-- Whether an error says why a text has no vector. -/
def Error.IsEmbedding (e : Error) : Prop := ∃ cause, e = .embedding cause

theorem Error.IsNoRoots.isConfiguration {e : Error} (h : e.IsNoRoots) : e.IsConfiguration := by
  obtain ⟨roots, rfl⟩ := h
  exact .noRoots roots

/-- The computation does not fail for a fault of configuration. -/
abbrev Configured {α : Type} (r : Except Error α) : Prop := r.FailsWith fun e => ¬ e.IsConfiguration

theorem error_configured {α : Type} {e : Error} (h : ¬ e.IsConfiguration) :
    Configured (.error e : Except Error α) := .error h

/-! ## Finding files -/

theorem FileSystem.resolve_configured (fs : FileSystem) (p : Path) : Configured (fs.resolve p) :=
  resolve_failsWith (fun _ => nofun) p

theorem Pattern.ofText_configured (text : String) : Configured (Pattern.ofText text) := by
  unfold Pattern.ofText
  refine .ite (error_configured nofun) <| .ite (.ok _) <| .ite (.ok _) <| .ite (.ok _) ?_
  split
  · exact error_configured nofun
  · exact .ite (.ok _) (error_configured nofun)

theorem IgnoreFilter.make_configured (fs : FileSystem) (root : Path) (options : IgnoreOptions) :
    Configured (make fs root options) :=
  (fs.resolve_configured root).bind fun _ _ =>
    (Except.FailsWith.mapM fun _ _ => Pattern.ofText_configured _).bind fun _ _ => .ok _

theorem discover_configured (fs : FileSystem) (roots : List Path)
    (filters : List (Path × IgnoreFilter)) (options : IgnoreOptions) :
    Configured (discover fs roots filters options) :=
  discover_failsWith (fun _ => nofun) fun _ _ d _ _ _ => IgnoreFilter.make_configured fs d options

namespace Indexer

variable {σ : Type} (u : Setup σ) (fs : FileSystem)

theorem validRoots_configured (ix : Indexer) : Configured (ix.validRoots fs) :=
  (Except.FailsWith.mapM fun _ _ => fs.resolve_configured _).bind fun _ _ => .ok _

theorem filterFor_configured (root : Path) (ix : Indexer) :
    Configured (ix.filterFor u fs root).1 := by
  rw [filterFor]
  split
  · exact .ok _
  · split
    · next h => exact h ▸ IgnoreFilter.make_configured fs _ _
    · exact .ok _

theorem filtersFor_configured (roots : List Path) (ix : Indexer) :
    Configured (ix.filtersFor u fs roots).1 := by
  induction roots generalizing ix with
  | nil => exact .ok _
  | cons root roots ih =>
    have h := filterFor_configured u fs root ix
    rw [filtersFor]
    split
    · next h' =>
      rw [h'] at h
      exact .error (h _ rfl)
    · exact (ih _).map _

theorem discoverAll_configured (roots : List Path) (ix : Indexer) :
    Configured (ix.discoverAll u fs roots).1 := by
  have h := filtersFor_configured u fs
    (roots ++ sortPaths (ix.attachedFolders.filter fun f => !roots.contains f)) ix
  rw [discoverAll]
  split
  · next h' =>
    rw [h'] at h
    exact .error (h _ rfl)
  · exact (discover_configured _ _ _ _).map _

end Indexer

/-! ## Vectors -/

theorem Embedding.numeral_configured (s : String) : Configured (numeral s) := by
  rw [numeral]
  split
  · exact .ok _
  · exact error_configured nofun

theorem Embedding.component_configured (v : Value) : Configured (component v) := by
  unfold component
  split
  · exact .ite (error_configured nofun) (.ok _)
  · exact .ok _
  · exact .ok _
  · exact numeral_configured _
  · exact .ite (numeral_configured _) (error_configured nofun)
  · exact error_configured nofun

theorem Embedding.check_configured (dimension : Int) (xs : List Float) :
    Configured (check dimension xs) :=
  .ite (error_configured nofun) <| .ite (error_configured nofun) (.ok _)

theorem Embedding.ofValue_configured (dimension : Int) (v : Value) :
    Configured (ofValue dimension v) := by
  rw [ofValue]
  split
  · exact error_configured nofun
  · exact (Except.FailsWith.mapM fun _ _ => component_configured _).bind fun _ _ =>
      check_configured _ _

namespace Embedder

variable {σ : Type} {m : Embedder σ}

theorem judge_configured (reply : Reply) : Configured (m.judge reply) := by
  unfold judge
  split
  · exact Embedding.ofValue_configured _ _
  · exact Embedding.check_configured _ _
  all_goals exact error_configured nofun

theorem embed_configured (text : String) (s : σ) : Configured (m.embed text s).1 := by
  rw [embed]
  split
  · exact error_configured nofun
  · split
    · exact error_configured nofun
    · exact judge_configured _

/-- Asking fails only for want of a vector, or with an error of which `Q` holds. -/
def FailsWith (m : Embedder σ) (Q : Error → Prop) : Prop :=
  ∀ text s, (m.embed text s).1.FailsWith fun e => e.IsEmbedding ∨ Q e

variable {Q : Error → Prop}

theorem forgive_failsWith {r : Except Error Embedding}
    (h : r.FailsWith fun e => e.IsEmbedding ∨ Q e) : (forgive r).FailsWith Q := by
  unfold forgive
  split
  · exact .ok _
  · exact .ok _
  · next hne => exact .error ((h _ rfl).resolve_left fun ⟨cause, hc⟩ => hne cause hc)

theorem tryEmbed_failsWith (H : m.FailsWith Q) (text : String) (s : σ) :
    (m.tryEmbed text s).1.FailsWith Q := forgive_failsWith (H text s)

theorem embedFile_failsWith (H : m.FailsWith Q) (e : Entry) (s : σ) :
    (m.embedFile e s).1.FailsWith Q := by
  rw [embedFile]
  split
  · exact .ok _
  · exact (tryEmbed_failsWith H _ _).map _

theorem embedSymbol_failsWith (H : m.FailsWith Q) (content : String) (x : Symbol) (s : σ) :
    (m.embedSymbol content x s).1.FailsWith Q := by
  rw [embedSymbol]
  dsimp only
  split
  · exact .ok _
  · exact (forgive_failsWith (H _ _)).map _

theorem embedSymbols_failsWith (H : m.FailsWith Q) (content : String) (xs : List Symbol) (s : σ) :
    (m.embedSymbols content xs s).1.FailsWith Q := by
  induction xs generalizing s with
  | nil => exact .ok _
  | cons x xs ih =>
    have h := embedSymbol_failsWith H content x s
    rw [embedSymbols]
    split
    · next h' =>
      rw [h'] at h
      exact .error (h _ rfl)
    · exact (ih _).map _

theorem embedEntry_failsWith (H : m.FailsWith Q) (extent : Extent) (e : Entry) (s : σ) :
    (m.embedEntry extent e s).1.FailsWith Q := by
  have h : (if extent.file then m.embedFile e s else (.ok (e, 0), s)).1.FailsWith Q := by
    split
    · exact embedFile_failsWith H e s
    · exact .ok _
  rw [embedEntry]
  split
  · next h' =>
    rw [h'] at h
    exact .error (h _ rfl)
  · split
    · exact (embedSymbols_failsWith H _ _ _).map _
    · exact .ok _

end Embedder

namespace Setup

variable {σ : Type} {u : Setup σ} {Q : Error → Prop}

theorem embed_failsWith (H : ∀ m, u.embedder = some m → m.FailsWith Q) (e : Entry) (s : σ) :
    (u.embed e s).1.FailsWith Q := by
  rw [embed]
  split
  · exact .ok _
  · next m hm =>
    split
    · exact Embedder.embedEntry_failsWith (H m hm) _ _ _
    · exact .ok _

theorem embedAll_failsWith (H : ∀ m, u.embedder = some m → m.FailsWith Q) (es : List Entry)
    (s : σ) : (u.embedAll es s).1.FailsWith Q := by
  induction es generalizing s with
  | nil => exact .ok _
  | cons e es ih =>
    have h := embed_failsWith H e s
    rw [embedAll]
    split
    · next h' =>
      rw [h'] at h
      exact .error (h _ rfl)
    · exact (ih _).map _

end Setup

namespace BuildJob

variable {σ : Type} {u : Setup σ} {job : BuildJob} {results : List (Entry × List Use)}

/-- Linking does not fail on what was read. -/
theorem prepare_failsWith {Q : Error → Prop} (hu : ∀ m, u.embedder = some m → m.FailsWith Q)
    (s : σ) (H : ∀ r ∈ results, ∃ path, r.1.TakenFrom path job.generation job.stamp) :
    (job.prepare u results s).1.FailsWith Q := by
  obtain ⟨linked, stats, hl, -, -⟩ := link_read H
  rw [prepare, hl]
  exact (Setup.embedAll_failsWith hu _ s).map _

theorem prepare_configured (s : σ)
    (H : ∀ r ∈ results, ∃ path, r.1.TakenFrom path job.generation job.stamp) :
    Configured (job.prepare u results s).1 :=
  prepare_failsWith (fun _ _ text s e he => .inr (Embedder.embed_configured text s e he)) s H

end BuildJob

end CodeAtlas
