import CodeAtlas.Indexer.Task
import CodeAtlas.Proofs.Data.Except
import CodeAtlas.Proofs.Resolve.Linking

/-!
# Taking in files

The entry that is made of a file is sound and holds no references (`Setup.extractFile_takenFrom`).
Vectors are added to entries without changing anything else (`Setup.embed_bare`), so what a build
prepares is a generation, made of the files that it has read (`BuildJob.prepare_ok`).
-/

namespace CodeAtlas

/-- The symbol without its vector. -/
def Symbol.bare (s : Symbol) : Symbol := { s with embedding := none }

/-- The entry without its vectors. -/
def Entry.bare (e : Entry) : Entry :=
  { e with embedding := none, symbols := e.symbols.map Symbol.bare }

/-- The entry was made of the file at a path, and nothing has been linked to it. -/
structure Entry.TakenFrom (e : Entry) (path : Path) (generation : Int) (stamp : Nat) : Prop where
  path : e.path = path.toText
  generation : e.generation = generation
  stamp : e.stamp = stamp
  sound : e.Sound
  references : e.references = []

/-! ## Entries that differ in their vectors -/

namespace Entry

variable {e e' : Entry}

theorem getElem?_of_bare (h : e'.bare = e.bare) {i : Nat} {s' : Symbol}
    (hs : e'.symbols[i]? = some s') : ∃ s, e.symbols[i]? = some s ∧ s'.bare = s.bare := by
  have hm : e'.symbols.map Symbol.bare = e.symbols.map Symbol.bare := congrArg Entry.symbols h
  have hi := congrArg (·[i]?) hm
  simp only [List.getElem?_map, hs, Option.map_some] at hi
  obtain ⟨s, hs, hb⟩ := Option.map_eq_some_iff.1 hi.symm
  exact ⟨s, hs, hb.symm⟩

theorem mem_of_bare (h : e'.bare = e.bare) {s' : Symbol} (hs : s' ∈ e'.symbols) :
    ∃ s ∈ e.symbols, s'.bare = s.bare := by
  obtain ⟨i, hi⟩ := List.getElem?_of_mem hs
  obtain ⟨s, hs, hb⟩ := getElem?_of_bare h hi
  exact ⟨s, List.mem_of_getElem? hs, hb⟩

theorem Sound.of_bare (H : e.Sound) (h : e'.bare = e.bare) : e'.Sound where
  slot i s' hs' := by
    obtain ⟨s, hs, hb⟩ := getElem?_of_bare h hs'
    exact (congrArg Symbol.slot hb).trans (H.slot i s hs)
  file s' hs' := by
    obtain ⟨s, hs, hb⟩ := mem_of_bare h hs'
    exact (congrArg Symbol.file hb).trans ((H.file s hs).trans (congrArg Entry.path h).symm)
  faulty hp := by
    have he : e.symbols = [] := H.faulty ((congrArg (·.parseError.isSome) h).symm.trans hp)
    have hm : e'.symbols.map Symbol.bare = e.symbols.map Symbol.bare := congrArg Entry.symbols h
    simpa [he] using hm
  target s' hs' r hr := by
    obtain ⟨s, hs, hb⟩ := mem_of_bare h hs'
    have hq : s'.references = s.references := (congrArg Symbol.references hb :)
    rw [hq] at hr
    exact (H.target s hs r hr).trans (congrArg Symbol.handle hb).symm
  generation s' hs' r hr := by
    obtain ⟨s, hs, hb⟩ := mem_of_bare h hs'
    have hq : s'.references = s.references := (congrArg Symbol.references hb :)
    rw [hq] at hr
    exact (H.generation s hs r hr).trans (congrArg Entry.generation h).symm

theorem TakenFrom.of_bare {path : Path} {n : Int} {stamp : Nat} (H : e.TakenFrom path n stamp)
    (h : e'.bare = e.bare) : e'.TakenFrom path n stamp where
  path := (congrArg Entry.path h).trans H.path
  generation := (congrArg Entry.generation h).trans H.generation
  stamp := (congrArg Entry.stamp h).trans H.stamp
  sound := H.sound.of_bare h
  references := by
    rw [references_eq_nil_iff]
    intro s' hs'
    obtain ⟨s, hs, hb⟩ := mem_of_bare h hs'
    exact (congrArg Symbol.references hb).trans (references_eq_nil_iff.1 H.references s hs)

end Entry

/-! ## Extraction -/

namespace Setup

variable {σ : Type} {u : Setup σ}

theorem ofDeclarations_sound (e : Entry) (ds : List Declaration) (hp : e.parseError = none) :
    Entry.Sound { e with symbols := ds.zipIdx.map fun (d, i) => Symbol.ofDeclaration e.path i d } where
  slot i s hs := by
    simp only [List.getElem?_map, List.getElem?_zipIdx, Option.map_eq_some_iff] at hs
    obtain ⟨-, ⟨d, -, rfl⟩, rfl⟩ := hs
    simp [Symbol.ofDeclaration]
  file s hs := by
    obtain ⟨⟨d, i⟩, -, rfl⟩ := List.mem_map.1 hs
    rfl
  faulty h := by simp [hp] at h
  target s hs r hr := by
    obtain ⟨⟨d, i⟩, -, rfl⟩ := List.mem_map.1 hs
    cases hr
  generation s hs r hr := by
    obtain ⟨⟨d, i⟩, -, rfl⟩ := List.mem_map.1 hs
    cases hr

theorem analyzed_takenFrom {e : Entry} {path : Path} {n : Int} {stamp : Nat}
    (h : e.TakenFrom path n stamp) (hs : e.symbols = []) (hp : e.parseError = none)
    (r : Except String (Except ParseError Extraction)) :
    (analyzed e r).1.TakenFrom path n stamp := by
  have bare : ∀ p, Entry.Sound { e with parseError := p } := fun p =>
    ⟨⟨h.sound.slot, h.sound.file⟩, fun _ => hs, h.sound.target, h.sound.generation⟩
  rcases r with reason | err | x
  · exact ⟨h.path, h.generation, h.stamp, bare _, h.references⟩
  · exact ⟨h.path, h.generation, h.stamp, bare _, h.references⟩
  · refine ⟨h.path, h.generation, h.stamp, ofDeclarations_sound e x.declarations hp, ?_⟩
    rw [Entry.references_eq_nil_iff]
    intro s hs
    obtain ⟨⟨d, i⟩, -, rfl⟩ := List.mem_map.1 hs
    rfl

/-- An entry without symbols is sound, whatever else is known of the file. -/
theorem takenFrom_of_symbols_nil {e : Entry} {path : Path} {n : Int} {stamp : Nat}
    (hp : e.path = path.toText) (hn : e.generation = n) (hk : e.stamp = stamp)
    (hs : e.symbols = []) : e.TakenFrom path n stamp where
  path := hp
  generation := hn
  stamp := hk
  sound := ⟨⟨by simp [hs], by simp [hs]⟩, fun _ => hs, by simp [hs], by simp [hs]⟩
  references := by simp [Entry.references, hs]

theorem extractFile_takenFrom (fs : FileSystem) (path : Path) (n : Int) (stamp : Nat) :
    (u.extractFile fs path n stamp).1.TakenFrom path n stamp := by
  simp only [extractFile]
  split
  · exact takenFrom_of_symbols_nil rfl rfl rfl rfl
  · exact takenFrom_of_symbols_nil rfl rfl rfl rfl
  · split
    · exact takenFrom_of_symbols_nil rfl rfl rfl rfl
    · split
      · exact takenFrom_of_symbols_nil rfl rfl rfl rfl
      · exact analyzed_takenFrom (takenFrom_of_symbols_nil rfl rfl rfl rfl) rfl rfl _

end Setup

/-! ## Vectors -/

namespace Embedder

variable {σ : Type} {m : Embedder σ} {s s' : σ} {e e' : Entry} {n : Nat}

theorem embedFile_bare (h : m.embedFile e s = (.ok (e', n), s')) : e'.bare = e.bare := by
  rw [embedFile] at h
  split at h
  · cases h
    rfl
  · obtain ⟨v, -, hv⟩ := Except.map_eq_ok_iff.1 (congrArg Prod.fst h)
    cases hv
    rfl

theorem embedSymbol_bare {content : String} {x x' : Symbol}
    (h : m.embedSymbol content x s = (.ok (x', n), s')) : x'.bare = x.bare := by
  rw [embedSymbol] at h
  dsimp only at h
  split at h
  · cases h
    rfl
  · obtain ⟨v, -, hv⟩ := Except.map_eq_ok_iff.1 (congrArg Prod.fst h)
    cases hv
    rfl

theorem embedSymbols_bare {content : String} {xs xs' : List Symbol}
    (h : m.embedSymbols content xs s = (.ok (xs', n), s')) :
    xs'.map Symbol.bare = xs.map Symbol.bare := by
  induction xs generalizing s s' xs' n with
  | nil =>
    cases h
    rfl
  | cons x xs ih =>
    rw [embedSymbols] at h
    split at h
    · cases h
    · next y k s₁ hx =>
      obtain ⟨⟨ys, j⟩, hys, hv⟩ := Except.map_eq_ok_iff.1 (congrArg Prod.fst h)
      cases hv
      rw [List.map_cons, List.map_cons, embedSymbol_bare hx, ih (Prod.ext hys rfl)]

theorem embedEntry_bare {extent : Extent} (h : m.embedEntry extent e s = (.ok (e', n), s')) :
    e'.bare = e.bare := by
  rw [embedEntry] at h
  split at h
  · cases h
  · next e₁ k s₁ he =>
    have h₁ : e₁.bare = e.bare := by
      split at he
      · exact embedFile_bare he
      · cases he
        rfl
    rw [← h₁]
    split at h
    · obtain ⟨⟨xs, j⟩, hxs, hv⟩ := Except.map_eq_ok_iff.1 (congrArg Prod.fst h)
      cases hv
      simp only [Entry.bare, embedSymbols_bare (Prod.ext hxs rfl)]
    · cases h
      rfl

end Embedder

namespace Setup

variable {σ : Type} {u : Setup σ} {s s' : σ}

/-- Adding vectors changes nothing but vectors. -/
theorem embed_bare {e e' : Entry} {n : Nat} (h : u.embed e s = (.ok (e', n), s')) :
    e'.bare = e.bare := by
  rw [embed] at h
  split at h
  · cases h
    rfl
  · split at h
    · exact Embedder.embedEntry_bare h
    · cases h
      rfl

theorem embedAll_bare {es es' : List Entry} {n : Nat} (h : u.embedAll es s = (.ok (es', n), s')) :
    es'.map Entry.bare = es.map Entry.bare := by
  induction es generalizing s s' es' n with
  | nil =>
    cases h
    rfl
  | cons e es ih =>
    rw [embedAll] at h
    split at h
    · cases h
    · next d k s₁ he =>
      obtain ⟨⟨ds, j⟩, hds, hv⟩ := Except.map_eq_ok_iff.1 (congrArg Prod.fst h)
      cases hv
      rw [List.map_cons, List.map_cons, embed_bare he, ih (Prod.ext hds rfl)]

end Setup

/-! ## Builds -/

namespace BuildJob

variable {σ : Type} {u : Setup σ} {job : BuildJob} {results : List (Entry × List Use)} {s : σ}

theorem isGeneration_read
    (H : ∀ r ∈ results, ∃ path, r.1.TakenFrom path job.generation job.stamp) :
    IsGeneration (.ofList (results.map fun r => (r.1.path, r.1))) job.generation := by
  have hread : ∀ e ∈ results.map Prod.fst, e.Sound ∧ e.generation = job.generation := by
    intro e he
    obtain ⟨r, hr, rfl⟩ := List.mem_map.1 he
    obtain ⟨path, h⟩ := H r hr
    exact ⟨h.sound, h.generation⟩
  have hg := IsGeneration.ofList hread
  rwa [List.map_map] at hg

/-- The entries that a build has read can be linked. -/
theorem link_read (H : ∀ r ∈ results, ∃ path, r.1.TakenFrom path job.generation job.stamp) :
    ∃ linked stats, link job.roots (results.flatMap Prod.snd)
        (.ofList (results.map fun r => (r.1.path, r.1))) job.generation = (linked, .ok stats) ∧
      IsGeneration linked job.generation ∧
      SameUnlinked (.ofList (results.map fun r => (r.1.path, r.1))) linked :=
  link_generation (isGeneration_read H) job.roots (results.flatMap Prod.snd)

/-- What a build prepares of the files that it has read: a generation with an entry for each file
and for nothing else. -/
theorem prepare_ok {p : Prepared} (hp : (job.prepare u results s).1 = .ok p)
    (H : ∀ r ∈ results, ∃ path, r.1.TakenFrom path job.generation job.stamp) :
    IsGeneration p.entries job.generation ∧
      (∀ q e, p.entries.find? q = some e → e.stamp = job.stamp) ∧
      ∀ q, p.entries.contains q = true ↔ q ∈ results.map (·.1.path) := by
  obtain ⟨linked, stats, hl, hlg, hsame⟩ := link_read H
  -- The entries that get vectors are those that were read, up to references and vectors.
  have hstamp : ∀ q e, linked.find? q = some e → e.stamp = job.stamp := by
    intro q e he
    obtain ⟨e₀, he₀, hu⟩ := hsame.find? he
    obtain ⟨r, hr, heq⟩ := List.mem_map.1 (Table.mem_of_find?_ofList he₀)
    obtain ⟨path, h⟩ := H r hr
    obtain ⟨-, rfl⟩ := Prod.mk.inj heq
    have hk : e.stamp = r.1.stamp := (congrArg Entry.stamp hu :)
    exact hk.trans h.stamp
  simp only [prepare] at hp
  rw [hl] at hp
  obtain ⟨⟨es, n⟩, hes, rfl⟩ := Except.map_eq_ok_iff.1 hp
  have hbare := Setup.embedAll_bare (Prod.ext hes rfl)
  have old : ∀ e ∈ es, ∃ q e₀, linked.find? q = some e₀ ∧ e.bare = e₀.bare := by
    intro e he
    have hm : e.bare ∈ linked.values.map Entry.bare := hbare ▸ List.mem_map_of_mem he
    obtain ⟨e₀, h₀, hb⟩ := List.mem_map.1 hm
    obtain ⟨q, hq⟩ := Table.mem_values.1 h₀
    exact ⟨q, e₀, hq, hb.symm⟩
  refine ⟨IsGeneration.ofList fun e he => ?_, fun q e he => ?_, fun q => ?_⟩
  · obtain ⟨q, e₀, h₀, hb⟩ := old e he
    exact ⟨(hlg.sound q e₀ h₀).of_bare hb,
      (congrArg Entry.generation hb).trans (hlg.generation q e₀ h₀)⟩
  · obtain ⟨e', he', heq⟩ := List.mem_map.1 (Table.mem_of_find?_ofList he)
    obtain ⟨-, rfl⟩ := Prod.mk.inj heq
    obtain ⟨q', e₀, h₀, hb⟩ := old e' he'
    exact (congrArg Entry.stamp hb).trans (hstamp q' e₀ h₀)
  · have hkeys : es.map Entry.path = linked.keys := by
      have := congrArg (List.map Entry.path) hbare
      simp only [List.map_map, Function.comp_def, Entry.bare] at this
      rw [this, Table.values, Table.keys, List.map_map]
      refine List.map_congr_left fun x hx => ?_
      exact hlg.path x.1 x.2 (Table.find?_eq_some_iff.2 hx)
    rw [Table.contains_ofList, List.map_map, Function.comp_def, hkeys, Table.mem_keys,
      hsame.contains, Table.contains_ofList, List.map_map]
    rfl

end BuildJob
end CodeAtlas
