import CodeAtlas.Proofs.Indexer.Failure

/-!
# What an operation does at first

`Indexer.Pruned` relates an index to what is left of it when files are forgotten, and `Onward`
says how an operation goes on to its next file. An operation that is begun while a build is going
on comes to nothing (`start_busy`). Otherwise a build enters its own stages or ends at once
(`start_entered`), and anything else goes on to its first file (`start_onward`).
-/

namespace CodeAtlas

/-- What an operation comes to that is begun while a build is going on. -/
def Operation.idle : Operation → Result
  | build => .report none
  | update _ => .entry none
  | remove _ => .removed false
  | removeDirectory _ => .count 0
  | scan _ => .entries []
  | attachFile _ => .entry none
  | attachFolder _ => .entries []

namespace Indexer

/-- The second index has at most lost entries; its filters and attachments may be others. -/
structure Pruned (ix ix' : Indexer) : Prop where
  building : ix'.building = ix.building
  generation : ix'.store.generation = ix.store.generation
  clock : ix'.clock = ix.clock
  report : ix'.lastReport = ix.lastReport
  notified : ix'.notified = ix.notified
  entries : ∀ p, ix'.store.get? p = ix.store.get? p ∨ ix'.store.get? p = none

namespace Pruned

variable {ix ix' ix'' : Indexer}

theorem refl (ix : Indexer) : Pruned ix ix := ⟨rfl, rfl, rfl, rfl, rfl, fun _ => .inl rfl⟩

theorem trans (h : Pruned ix ix') (h' : Pruned ix' ix'') : Pruned ix ix'' where
  building := h'.building.trans h.building
  generation := h'.generation.trans h.generation
  clock := h'.clock.trans h.clock
  report := h'.report.trans h.report
  notified := h'.notified.trans h.notified
  entries p := by
    rcases h'.entries p with e' | e'
    · rw [e']
      exact h.entries p
    · exact .inr e'

/-- An entry that is left was there before. -/
theorem get? (h : Pruned ix ix') {p : String} {e : Entry} (he : ix'.store.get? p = some e) :
    ix.store.get? p = some e := by
  rcases h.entries p with h | h
  · rw [← h, he]
  · rw [h] at he
    cases he

theorem filters (ix : Indexer) (filters : Table Path IgnoreFilter) :
    Pruned ix { ix with filters } := ⟨rfl, rfl, rfl, rfl, rfl, fun _ => .inl rfl⟩

theorem attach (ix : Indexer) (files folders : List Path) :
    Pruned ix { ix with attachedFiles := files, attachedFolders := folders } :=
  ⟨rfl, rfl, rfl, rfl, rfl, fun _ => .inl rfl⟩

theorem forget (ix : Indexer) (path : Path) : Pruned ix (ix.forget path).2 where
  building := rfl
  generation := rfl
  clock := rfl
  report := rfl
  notified := rfl
  entries p := by
    simp only [Indexer.forget, Store.get?, Store.remove, Table.find?_erase]
    split
    · exact .inr rfl
    · exact .inl rfl

theorem forgetBelow (ix : Indexer) (directory : Path) : Pruned ix (ix.forgetBelow directory).2 := by
  have all : ∀ (ps : List String) (s : Store), (ps.foldl Store.remove s).generation = s.generation ∧
      ∀ p, (ps.foldl Store.remove s).get? p = s.get? p ∨ (ps.foldl Store.remove s).get? p = none := by
    intro ps
    induction ps with
    | nil => exact fun s => ⟨rfl, fun p => .inl rfl⟩
    | cons q ps ih =>
      intro s
      refine ⟨(ih _).1, fun p => ?_⟩
      rcases (ih (s.remove q)).2 p with h | h
      · rw [List.foldl_cons, h]
        simp only [Store.get?, Store.remove, Table.find?_erase]
        split
        · exact .inr rfl
        · exact .inl rfl
      · exact .inr h
  exact ⟨rfl, (all _ _).1, rfl, rfl, rfl, (all _ _).2⟩

end Pruned

variable {σ : Type} (u : Setup σ) (fs : FileSystem)

/-! ## Filters -/

theorem filterFor_filters (root : Path) (ix : Indexer) :
    ∃ filters, (ix.filterFor u fs root).2 = { ix with filters } := by
  rw [filterFor]
  split
  · exact ⟨ix.filters, rfl⟩
  · split
    · exact ⟨ix.filters, rfl⟩
    · exact ⟨_, rfl⟩

theorem filtersFor_filters (roots : List Path) (ix : Indexer) :
    ∃ filters, (ix.filtersFor u fs roots).2 = { ix with filters } := by
  induction roots generalizing ix with
  | nil => exact ⟨ix.filters, rfl⟩
  | cons root roots ih =>
    have h := filterFor_filters u fs root ix
    rw [filtersFor]
    split
    · next h' =>
      rw [h'] at h
      exact h
    · next h' =>
      rw [h'] at h
      obtain ⟨filters, rfl⟩ := h
      exact ih _

theorem discoverAll_filters (roots : List Path) (ix : Indexer) :
    ∃ filters, (ix.discoverAll u fs roots).2 = { ix with filters } := by
  have h := filtersFor_filters u fs
    (roots ++ sortPaths (ix.attachedFolders.filter fun f => !roots.contains f)) ix
  rw [discoverAll]
  split
  · next h' =>
    rw [h'] at h
    exact h
  · next h' =>
    rw [h'] at h
    exact h

theorem tracks_filters (path : Path) (ix : Indexer) :
    ∃ filters, (ix.tracks u fs path).2 = { ix with filters } := by
  rw [tracks]
  split
  · exact ⟨ix.filters, rfl⟩
  · split
    · exact ⟨ix.filters, rfl⟩
    · exact ⟨ix.filters, rfl⟩
    · next root _ =>
      have h := filterFor_filters u fs root ix
      split
      · next h' =>
        rw [h'] at h
        exact h
      · next h' =>
        rw [h'] at h
        exact h

/-! ## Going on -/

variable {u fs}

/-- An operation ends, or goes on to its next file. -/
inductive Onward (ix : Indexer) : Standing → Indexer → Prop
  | finished {ix' : Indexer} (r : Except Error Result) (h : Pruned ix ix') :
    Onward ix (.finished r) ix'
  | waiting {ix' : Indexer} (purpose : Purpose) (path : Path) (h : Pruned ix ix') :
    ix.building = false →
    Onward ix (.waiting (.file purpose (ix'.takeIn path).1)) (ix'.takeIn path).2

theorem Onward.of_pruned {ix ix' ix'' : Indexer} {standing : Standing} (h : Pruned ix ix')
    (H : Onward ix' standing ix'') : Onward ix standing ix'' := by
  cases H with
  | finished r h' => exact .finished r (h.trans h')
  | waiting purpose path h' hb => exact .waiting purpose path (h.trans h') (h.building ▸ hb)

/-- What an update does at first while no build is going on: the path cannot be told, or whether the
file takes part, or it takes no part, or it is gone, or it is taken in. -/
inductive Begun (u : Setup σ) (fs : FileSystem) (ix : Indexer) (path : Path) :
    Except Error (Option FileJob) → Indexer → Prop
  | unnamed {e : Error} (hn : ix.normalize fs path = .error e) : Begun u fs ix path (.error e) ix
  | untold {q : Path} {e : Error} {filters : Table Path IgnoreFilter}
    (hn : ix.normalize fs path = .ok q)
    (ht : ix.tracks u fs q = (.error e, { ix with filters })) :
    Begun u fs ix path (.error e) { ix with filters }
  | untracked {q : Path} {filters : Table Path IgnoreFilter} (hn : ix.normalize fs path = .ok q)
    (ht : ix.tracks u fs q = (.ok false, { ix with filters })) :
    Begun u fs ix path (.ok none) { ix with filters }
  | gone {q : Path} {filters : Table Path IgnoreFilter} (hn : ix.normalize fs path = .ok q)
    (ht : ix.tracks u fs q = (.ok true, { ix with filters })) (hf : fs.isFile q = false) :
    Begun u fs ix path (.ok none) (forget q { ix with filters }).2
  | taken {q : Path} {filters : Table Path IgnoreFilter} (hn : ix.normalize fs path = .ok q)
    (ht : ix.tracks u fs q = (.ok true, { ix with filters })) (hf : fs.isFile q = true) :
    Begun u fs ix path (.ok (some (takeIn q { ix with filters }).1)) (takeIn q { ix with filters }).2

theorem beginUpdate_begun {path : Path} {ix ix' : Indexer} {r : Except Error (Option FileJob)}
    (hb : ix.building = false) (h : ix.beginUpdate u fs path = (r, ix')) :
    Begun u fs ix path r ix' := by
  rw [beginUpdate, if_neg (by simp [hb])] at h
  cases hn : ix.normalize fs path with
  | error e =>
    rw [hn] at h
    cases h
    exact .unnamed hn
  | ok q =>
    rw [hn] at h
    dsimp only at h
    obtain ⟨filters, hf⟩ := tracks_filters u fs q ix
    cases ht : ix.tracks u fs q with
    | mk tracked ix₁ =>
      rw [ht] at h hf
      obtain rfl : ix₁ = { ix with filters } := hf
      rcases tracked with e | _ | _
      · cases h
        exact .untold hn ht
      · cases h
        exact .untracked hn ht
      · dsimp only at h
        split at h
        · next hfile =>
          cases h
          exact .taken hn ht hfile
        · next hfile =>
          cases h
          exact .gone hn ht (by simpa using hfile)

theorem beginUpdate_busy {path : Path} {ix : Indexer} (hb : ix.building = true) :
    ix.beginUpdate u fs path = (.ok none, ix) := by
  rw [beginUpdate, if_pos hb]

/-- An update either takes in a file or ends at once. -/
theorem beginUpdate_cases {path : Path} {ix ix' : Indexer} {r : Except Error (Option FileJob)}
    (h : ix.beginUpdate u fs path = (r, ix')) :
    (Pruned ix ix' ∧ ∀ job, r ≠ .ok (some job)) ∨
      ix.building = false ∧ ∃ ix₁ p, Pruned ix ix₁ ∧ r = .ok (some (ix₁.takeIn p).1) ∧
        ix' = (ix₁.takeIn p).2 := by
  cases hb : ix.building with
  | true =>
    cases (beginUpdate_busy hb).symm.trans h
    exact .inl ⟨.refl ix, by simp⟩
  | false =>
    cases beginUpdate_begun hb h with
    | unnamed hn => exact .inl ⟨.refl ix, by simp⟩
    | untold hn ht => exact .inl ⟨.filters ix _, by simp⟩
    | untracked hn ht => exact .inl ⟨.filters ix _, by simp⟩
    | gone hn ht hf => exact .inl ⟨(Pruned.filters ix _).trans (.forget _ _), by simp⟩
    | taken hn ht hf => exact .inr ⟨rfl, _, _, .filters ix _, rfl, rfl⟩

theorem scanNext_busy {done : List Entry} {rest : List Path} {ix : Indexer}
    (hb : ix.building = true) :
    ix.scanNext u fs done rest = (.finished (.ok (.entries done)), ix) := by
  induction rest with
  | nil => rfl
  | cons path rest ih =>
    rw [scanNext, beginUpdate_busy hb]
    exact ih

theorem scanNext_onward (done : List Entry) (rest : List Path) (ix : Indexer) :
    Onward ix (ix.scanNext u fs done rest).1 (ix.scanNext u fs done rest).2 := by
  induction rest generalizing ix with
  | nil => exact .finished _ (.refl ix)
  | cons path rest ih =>
    rw [scanNext]
    split
    · next h =>
      rcases beginUpdate_cases h with ⟨hp, -⟩ | ⟨-, _, _, -, hr, -⟩
      · exact .finished _ hp
      · cases hr
    · next h =>
      rcases beginUpdate_cases h with ⟨hp, -⟩ | ⟨-, _, _, -, hr, -⟩
      · exact .of_pruned hp (ih _)
      · cases hr
    · next h =>
      rcases beginUpdate_cases h with ⟨-, hn⟩ | ⟨hb, ix₁, p, hp, hr, rfl⟩
      · exact absurd rfl (hn _)
      · cases hr
        exact .waiting _ p hp hb

theorem folderNext_onward (done : List Entry) (rest : List Path) {ix : Indexer}
    (hb : ix.building = false) :
    Onward ix (ix.folderNext done rest).1 (ix.folderNext done rest).2 := by
  cases rest with
  | nil => exact .finished _ (.refl ix)
  | cons path rest => exact .waiting _ path (.refl ix) hb

/-! ## First steps -/

theorem start_busy {op : Operation} {ix : Indexer} (hb : ix.building = true) :
    ix.start u fs op = (.finished (.ok op.idle), ix) := by
  cases op with
  | build => simp [start, beginBuild, hb, Operation.idle]
  | update path => simp [start, beginUpdate_busy hb, Operation.idle]
  | remove path => simp [start, hb, Operation.idle]
  | removeDirectory path => simp [start, hb, Operation.idle]
  | scan path => simp [start, beginScan, hb, Operation.idle]
  | attachFile path => simp [start, beginAttachFile, hb, Operation.idle]
  | attachFolder path => simp [start, beginAttachFolder, hb, Operation.idle]

theorem beginUpdate_onward {path : Path} {ix : Indexer} :
    Onward ix (ix.start u fs (.update path)).1 (ix.start u fs (.update path)).2 := by
  rw [start]
  split
  · next h =>
    rcases beginUpdate_cases h with ⟨hp, -⟩ | ⟨-, _, _, -, hr, -⟩
    · exact .finished _ hp
    · cases hr
  · next h =>
    rcases beginUpdate_cases h with ⟨hp, -⟩ | ⟨-, _, _, -, hr, -⟩
    · exact .finished _ hp
    · cases hr
  · next h =>
    rcases beginUpdate_cases h with ⟨-, hn⟩ | ⟨hb, ix₁, p, hp, hr, rfl⟩
    · exact absurd rfl (hn _)
    · cases hr
      exact .waiting _ p hp hb

theorem beginAttachFile_onward {path : Path} {ix : Indexer} (hb : ix.building = false) :
    Onward ix (ix.beginAttachFile fs path).1 (ix.beginAttachFile fs path).2 := by
  rw [beginAttachFile, if_neg (by simp [hb])]
  split
  · exact .finished _ (.refl ix)
  · split
    · exact .finished _ (.refl ix)
    · split
      · exact .finished _ (.refl ix)
      · exact .waiting _ _ (.attach ix _ _) hb

theorem beginAttachFolder_onward {path : Path} {ix : Indexer} (hb : ix.building = false) :
    Onward ix (ix.beginAttachFolder u fs path).1 (ix.beginAttachFolder u fs path).2 := by
  rw [beginAttachFolder, if_neg (by simp [hb])]
  split
  · exact .finished _ (.refl ix)
  · next folder _ =>
    split
    · exact .finished _ (.refl ix)
    · have ha := Pruned.attach ix ix.attachedFiles (ix.attachedFolders.insert folder)
      obtain ⟨filters, hf⟩ := filterFor_filters u fs folder
        { ix with attachedFolders := ix.attachedFolders.insert folder }
      dsimp only
      split
      · next h =>
        rw [h] at hf
        exact .finished _ (hf ▸ ha.trans (.filters _ filters))
      · next h =>
        rw [h] at hf
        subst hf
        split
        · exact .finished _ (ha.trans (.filters _ filters))
        · exact .of_pruned (ha.trans (.filters _ filters)) (folderNext_onward [] _ hb)

variable (u fs) in
/-- What an operation other than a build does at first. -/
theorem start_onward {op : Operation} {ix : Indexer} (hop : op ≠ .build)
    (hb : ix.building = false) : Onward ix (ix.start u fs op).1 (ix.start u fs op).2 := by
  cases op with
  | build => exact absurd rfl hop
  | update path => exact beginUpdate_onward
  | remove path =>
    rw [start, if_neg (by simp [hb])]
    split
    · exact .finished _ (.refl ix)
    · exact .finished _ (.forget ix _)
  | removeDirectory path =>
    rw [start, if_neg (by simp [hb])]
    split
    · exact .finished _ (.refl ix)
    · exact .finished _ (.forgetBelow ix _)
  | scan path =>
    rw [start, beginScan, if_neg (by simp [hb])]
    dsimp only
    split
    · exact .finished _ (.refl ix)
    · exact scanNext_onward [] _ ix
  | attachFile path => exact beginAttachFile_onward hb
  | attachFolder path => exact beginAttachFolder_onward hb

variable (u fs) in
/-- What a build does at first. -/
inductive Entered (ix : Indexer) : Standing → Indexer → Prop
  | failed {e : Error} (filters : Table Path IgnoreFilter) (h : ¬ e.IsConfiguration) :
    Entered ix (.finished (.error e)) { ix with filters }
  | rootless (h : ix.validRoots fs = .ok []) :
    Entered ix (.finished (.error (.noRoots (ix.roots.map Path.toText))))
      { ix with
        store := ix.store.clear
        notified := ix.notified ++ [.noRoots (ix.roots.map Path.toText)] }
  | begun (filters : Table Path IgnoreFilter) (roots : List Path) (found : Discovery)
    (hr : ix.validRoots fs = .ok roots)
    (hd : ({ ix with filters := .empty } : Indexer).discoverAll u fs roots =
      (.ok found, { ix with filters })) :
    Entered ix
      (.waiting (.build
        ⟨roots, found, ix.store.nextGeneration, ix.clock, .reading found.files []⟩))
      { ix with filters, building := true, clock := ix.clock + 1 }

variable (u fs) in
theorem start_entered {ix : Indexer} (hb : ix.building = false) :
    Entered u fs ix (ix.start u fs .build).1 (ix.start u fs .build).2 := by
  rw [start, beginBuild, if_neg (by simp [hb])]
  have hr := validRoots_configured fs ix
  split
  · next h => exact .failed ix.filters (hr _ h)
  · next h => exact .rootless h
  · next roots _ hroots =>
    obtain ⟨filters, hf⟩ := discoverAll_filters u fs roots
      { ix with filters := .empty }
    have hd := discoverAll_configured u fs roots { ix with filters := .empty }
    split
    · next h =>
      rw [h] at hf hd
      subst hf
      exact .failed filters (hd _ rfl)
    · next h =>
      rw [h] at hf
      subst hf
      exact .begun filters roots _ hroots h

end Indexer
end CodeAtlas
