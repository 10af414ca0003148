import CodeAtlas.Proofs.Embed.Counts
import CodeAtlas.Proofs.Indexer.Tasks

/-!
# What a build prepares

A build links the entries that it has read, and gives each of them its vectors
(`BuildJob.prepare_eq`). Both are counted on the way, and the counts are those of the references and
the vectors in the generation that is prepared (`BuildJob.prepare_counted`). That is all that a
build does with what it has read, if nothing comes between (`Indexer.finish_reading`).
-/

namespace CodeAtlas

/-- The counts are those of the references and of the vectors in the entries. -/
structure Prepared.Counted (p : Prepared) : Prop where
  references : p.references = countReferences p.entries
  embeddings : p.embeddings = (p.entries.values.map Entry.vectors).sum

theorem Entry.references_bare (e : Entry) : e.bare.references = e.references := by
  simp only [references, bare, List.flatMap_map]
  rfl

/-- Vectors have no influence on the references of entries. -/
theorem flatMap_references_of_bare {es es' : List Entry}
    (h : es'.map Entry.bare = es.map Entry.bare) :
    es'.flatMap Entry.references = es.flatMap Entry.references := by
  have hbare : ∀ es : List Entry,
      (es.map Entry.bare).flatMap Entry.references = es.flatMap Entry.references := by
    intro es
    rw [List.flatMap_map]
    exact congrArg (es.flatMap ·) (funext Entry.references_bare)
  rw [← hbare es', h, hbare es]

theorem Entry.referredBy_bare {e : Entry} (h : e.bare = e) (rs : List Reference) :
    (e.referredBy rs).bare = e.referredBy rs := by
  rw [bare, referredBy, ← h]
  simp [bare, Symbol.referredBy, Symbol.bare, Symbol.handle]

namespace Setup

variable {σ : Type} {u : Setup σ}

/-- No answer of the model keeps an entry from being made. -/
def Embeds (u : Setup σ) : Prop :=
  ∀ e s, ∃ r, (u.embed e s).1 = .ok r

theorem Embeds.of_none (hu : u.embedder = none) : u.Embeds := by
  intro e s
  rw [Setup.embed, hu]
  exact ⟨(e, 0), rfl⟩

/-- Nor does one keep several entries from being made. -/
theorem Embeds.embedAll (hu : u.Embeds) (es : List Entry) (s : σ) :
    ∃ r, (u.embedAll es s).1 = .ok r := by
  induction es generalizing s with
  | nil => exact ⟨([], 0), rfl⟩
  | cons e es ih =>
    obtain ⟨r, hr⟩ := hu e s
    rw [Setup.embedAll]
    split
    · next h =>
      rw [h] at hr
      cases hr
    · next n s₁ h =>
      obtain ⟨rest, hrest⟩ := ih s₁
      dsimp only
      rw [hrest]
      exact ⟨_, rfl⟩

end Setup

namespace BuildJob

variable {σ : Type} {u : Setup σ} {job : BuildJob} {results : List (Entry × List Use)} {s : σ}

/-- The entries that a build has read, by their paths. -/
def read (results : List (Entry × List Use)) : Table String Entry :=
  .ofList (results.map fun r => (r.1.path, r.1))

/-- What becomes of a use in what a build has read. -/
def outcome (job : BuildJob) (results : List (Entry × List Use)) : Use → Outcome :=
  (NameTable.ofEntries job.roots (read results).values).outcome (read results)

/-- The entries that a build has read, with the references of all uses that it has read. -/
def linked (job : BuildJob) (results : List (Entry × List Use)) : List Entry :=
  (read results).values.map
    (Entry.referredBy (recorded (job.outcome results) job.generation (results.flatMap Prod.snd)))

variable (H : ∀ r ∈ results, ∃ path, r.1.TakenFrom path job.generation job.stamp)

include H

theorem read_generation : IsGeneration (read results) job.generation := isGeneration_read H

omit H in
theorem mem_read {e : Entry} (he : e ∈ (read results).values) : ∃ r ∈ results, r.1 = e := by
  obtain ⟨q, hq⟩ := Table.mem_values.1 he
  obtain ⟨r, hr, heq⟩ := List.mem_map.1 (Table.mem_of_find?_ofList hq)
  exact ⟨r, hr, (Prod.mk.inj heq).2⟩

theorem linked_paths : (job.linked results).map Entry.path = (read results).keys := by
  rw [linked, List.map_map, Table.values, Table.keys, List.map_map]
  refine List.map_congr_left fun x hx => ?_
  exact (read_generation H).path x.1 x.2 (Table.find?_eq_some_iff.2 hx)

/-- What a build prepares are its linked entries with their vectors. -/
theorem prepare_eq (s : σ) : job.prepare u results s =
    ((u.embedAll (job.linked results) s).1.map fun (es, n) =>
        ⟨.ofList (es.map fun e => (e.path, e)),
          (tally (job.outcome results) (results.flatMap Prod.snd)).resolved, n⟩,
      (u.embedAll (job.linked results) s).2) := by
  have hg := read_generation H
  have hn : ∀ e ∈ (read results).values, e.generation = job.generation := by
    intro e he
    obtain ⟨q, hq⟩ := Table.mem_values.1 he
    exact hg.generation q e hq
  have hlink : link job.roots (results.flatMap Prod.snd) (read results) job.generation = _ :=
    hg.placed.link_eq hn job.roots (results.flatMap Prod.snd)
  simp only [prepare]
  rw [← read, hlink]
  dsimp only
  rw [Table.values_map]
  rfl

/-- The entries that get their vectors keep their order, and none takes another's place. -/
theorem values_embedded {es : List Entry} {n : Nat} {s' : σ}
    (h : u.embedAll (job.linked results) s = (.ok (es, n), s')) :
    (Table.ofList (es.map fun e => (e.path, e))).values = es := by
  have hpaths : es.map Entry.path = (read results).keys := by
    have := congrArg (List.map Entry.path) (Setup.embedAll_bare h)
    rw [List.map_map, List.map_map] at this
    exact this.trans (linked_paths H)
  have hnodup : ((es.map fun e => (e.path, e)).map Prod.fst).Nodup := by
    rw [List.map_map]
    exact hpaths ▸ (read results).nodup
  rw [Table.values, Table.pairs_ofList hnodup, List.map_map]
  exact List.map_id es

/-- The references of a build's entries are those that it has recorded. -/
theorem length_linked : ((job.linked results).flatMap Entry.references).length =
    (tally (job.outcome results) (results.flatMap Prod.snd)).resolved := by
  have hnone : countReferences (read results) = 0 := by
    rw [countReferences, List.length_eq_zero_iff, List.flatMap_eq_nil_iff]
    intro e he
    obtain ⟨r, hr, rfl⟩ := mem_read he
    obtain ⟨path, h⟩ := H r hr
    exact h.references
  have hcount := ((read_generation H).placed.conserves job.roots (results.flatMap Prod.snd)
    job.generation).count
  rw [hnone, Nat.zero_add, countReferences, Table.values_map] at hcount
  exact hcount

/-- A build that has read no vectors counts what it prepares. -/
theorem prepare_counted (hb : ∀ r ∈ results, r.1.bare = r.1) {p : Prepared}
    (hp : (job.prepare u results s).1 = .ok p) : p.Counted := by
  rw [prepare_eq H] at hp
  obtain ⟨⟨es, n⟩, hes, rfl⟩ := Except.map_eq_ok_iff.1 hp
  have hembedded : u.embedAll (job.linked results) s = (.ok (es, n), _) := Prod.ext hes rfl
  have hlinked : ∀ e ∈ job.linked results, e.bare = e := by
    intro e he
    obtain ⟨e₀, he₀, rfl⟩ := List.mem_map.1 he
    obtain ⟨r, hr, rfl⟩ := mem_read he₀
    exact Entry.referredBy_bare (hb r hr) _
  constructor
  · rw [countReferences, values_embedded H hembedded,
      flatMap_references_of_bare (Setup.embedAll_bare hembedded)]
    exact (length_linked H).symm
  · rw [values_embedded H hembedded]
    exact (Setup.embedAll_vectors hlinked hembedded).symm

/-- If nothing is wrong with the model, nothing keeps a build from ending well. -/
theorem prepare_embeds (hu : u.Embeds) (s : σ) : ∃ p, (job.prepare u results s).1 = .ok p := by
  rw [prepare_eq H]
  obtain ⟨r, hr⟩ := hu.embedAll _ s
  rw [hr]
  exact ⟨_, rfl⟩

end BuildJob

/-! ## The whole course of a build -/

/-- What a build reads in files that stay as they are. -/
def BuildJob.reads {σ : Type} (u : Setup σ) (fs : FileSystem) (job : BuildJob)
    (files : List Path) : List (Entry × List Use) :=
  files.map fun path => u.extractFile fs path job.generation job.stamp

theorem BuildJob.reads_takenFrom {σ : Type} (u : Setup σ) (fs : FileSystem) (job : BuildJob)
    (files : List Path) :
    ∀ r ∈ job.reads u fs files, ∃ path, r.1.TakenFrom path job.generation job.stamp := by
  intro r hr
  obtain ⟨path, -, rfl⟩ := List.mem_map.1 hr
  exact ⟨path, Setup.extractFile_takenFrom fs path _ _⟩

namespace Indexer

variable {σ : Type} {u : Setup σ} {fs : FileSystem}

theorem endBuild_result (job : BuildJob) (r : Except Error Prepared) (ix : Indexer) :
    ix.endBuild job r =
      (.finished (r.map fun p => .report (some (job.report p))), (ix.endBuild job r).2) := by
  cases r <;> rfl

variable (u fs) in
/-- A build that nothing comes between reads its files, prepares what it has read, and ends. -/
theorem finish_reading (ix : Indexer) (job : BuildJob) (rest : List Path)
    (results : List (Entry × List Use)) (s : σ) :
    ix.finish u fs (.build { job with stage := .reading rest results }) s =
      let (r, s) := job.prepare u (results ++ job.reads u fs rest) s
      (r.map fun p => .report (some (job.report p)), (ix.endBuild job r).2, s) := by
  -- One file is read at each step; what has been read before stands in front.
  induction rest generalizing results with
  | nil =>
    rw [finish_of_waiting rfl, BuildJob.reads, List.map_nil, List.append_nil]
    have hend : ix.resume u fs (.build { job with
        stage := .prepared (job.prepare u results s).1 }) (job.prepare u results s).2 =
        (.finished ((job.prepare u results s).1.map fun p => .report (some (job.report p))),
          (ix.endBuild job (job.prepare u results s).1).2, (job.prepare u results s).2) := by
      simp only [resume]
      exact congrArg (fun x => (x.1, x.2, _)) (endBuild_result job _ ix)
    exact finish_of_finished hend
  | cons path rest ih =>
    rw [finish_of_waiting rfl]
    have hrest := ih (results ++ [u.extractFile fs path job.generation job.stamp])
    rw [List.append_assoc, List.singleton_append] at hrest
    exact hrest

variable (fs) in
/-- If nothing is wrong with the model, a build that nothing comes between reports. -/
theorem finish_report (hu : u.Embeds) (ix : Indexer) (job : BuildJob) (files : List Path)
    (s : σ) : ∃ r, (ix.finish u fs (.build { job with stage := .reading files [] }) s).1 =
      .ok (.report (some r)) := by
  obtain ⟨p, hp⟩ := BuildJob.prepare_embeds (job.reads_takenFrom u fs files) hu s
  rw [finish_reading, List.nil_append]
  dsimp only
  rw [hp]
  exact ⟨_, rfl⟩

end Indexer
end CodeAtlas
