import CodeAtlas.Proofs.Indexer.Invariant
import CodeAtlas.Proofs.Indexer.Tracking

/-!
# Binary files and attachments

A filter ignores what has the suffix of a binary format, whatever its patterns say
(`IgnoreFilter.isBinary_of_kept`), so that neither a walk nor an update takes such a file in, and it
is refused when it is to be attached. What is stored, attached or about to be taken in is therefore
never binary, and nothing is attached twice: `Activity.Tidy` is preserved by every move
(`Tidy.step`), and `textual_run` says so of all that an index comes to.
-/

namespace CodeAtlas

namespace Path

theorem isBinary_of_names_eq_nil {p : Path} (h : p.names = []) : p.isBinary = false := by
  rw [isBinary, lowerSuffix, suffix, name, h]
  decide +kernel

/-- Whether a path is binary is told by its last component. -/
theorem isBinary_of_join {d p : Path} (h : (d.join p).isBinary = false) : p.isBinary = false := by
  by_cases hn : p.names = []
  · exact isBinary_of_names_eq_nil hn
  · have hname : (d.join p).name = p.name := by
      rw [join]
      split
      · rfl
      · rw [name, name, List.getLast?_append_of_ne_nil _ hn]
    rw [isBinary, lowerSuffix, suffix, hname] at h
    exact h

end Path

variable {fs : FileSystem} {p : Path}

theorem IgnoreFilter.isBinary_of_kept {f : IgnoreFilter} (h : f.ignores fs p = .ok false) :
    p.isBinary = false := by
  refine Path.isBinary_of_join (d := f.root) ?_
  rw [IgnoreFilter.ignores] at h
  cases hb : (f.root.join p).isBinary with
  | false => rfl
  | true =>
    -- The patterns, which could take the file back in, are not asked.
    rw [if_pos (by simp [hb])] at h
    cases h

theorem isBinary_of_mem_discover {roots : List Path} {filters : List (Path × IgnoreFilter)}
    {options : IgnoreOptions} {found : Discovery}
    (h : discover fs roots filters options = .ok found) (hp : p ∈ found.files) :
    p.isBinary = false := by
  obtain ⟨root, -, d, f, -, hr⟩ := (mem_discover h p).1 hp
  exact IgnoreFilter.isBinary_of_kept hr.taken.kept

/-! ## What is about to be taken in -/

/-- The files that are taken in for the purpose without being asked about again. -/
def Purpose.files : Purpose → List Path
  | folder rest _ => rest
  | _ => []

/-- The files that a task takes in without asking about them again. -/
def Task.files : Task → List Path
  | file purpose job => job.path :: purpose.files
  | build job => job.found.files

/-- No file that the operation goes on with is binary. -/
def Standing.Textual (standing : Standing) : Prop :=
  ∀ t, standing.task? = some t → ∀ f ∈ t.files, f.isBinary = false

/-- No file that is stored or attached is binary, and nothing is attached twice. -/
structure Indexer.Tidy (ix : Indexer) : Prop where
  stored : ∀ q e, ix.store.get? q = some e → (Path.ofText q).isBinary = false
  attached : ∀ f ∈ ix.attachedFiles, f.isBinary = false
  files : ix.attachedFiles.Nodup
  folders : ix.attachedFolders.Nodup

theorem Standing.Textual.finished (r : Except Error Result) : (Standing.finished r).Textual := by
  intro t ht
  cases ht

theorem Standing.Textual.waiting {t : Task} (h : ∀ f ∈ t.files, f.isBinary = false) :
    (Standing.waiting t).Textual := by
  intro t' ht
  cases ht
  exact h

theorem Standing.Textual.file {purpose : Purpose} {job : FileJob} (hj : job.path.isBinary = false)
    (hp : ∀ f ∈ purpose.files, f.isBinary = false) :
    (Standing.waiting (.file purpose job)).Textual := .waiting (List.forall_mem_cons.2 ⟨hj, hp⟩)

namespace Indexer
namespace Tidy

variable {σ : Type} {ix ix' : Indexer}

/-- Filters, the clock and whether a build is going on make no difference. -/
theorem congr (H : ix.Tidy) (hs : ix'.store = ix.store)
    (hf : ix'.attachedFiles = ix.attachedFiles) (hd : ix'.attachedFolders = ix.attachedFolders) :
    ix'.Tidy where
  stored := by
    rw [hs]
    exact H.stored
  attached := by
    rw [hf]
    exact H.attached
  files := by
    rw [hf]
    exact H.files
  folders := by
    rw [hd]
    exact H.folders

theorem forget (H : ix.Tidy) (q : Path) : (ix.forget q).2.Tidy where
  stored p e he := H.stored p e ((Pruned.forget ix q).get? he)
  attached f hf := H.attached f (List.mem_of_mem_filter hf)
  files := H.files.filter _
  folders := H.folders

theorem forgetBelow (H : ix.Tidy) (d : Path) : (ix.forgetBelow d).2.Tidy where
  stored p e he := H.stored p e ((Pruned.forgetBelow ix d).get? he)
  attached f hf := H.attached f (List.mem_of_mem_filter hf)
  files := H.files.filter _
  folders := H.folders

theorem attachFile (H : ix.Tidy) {q : Path} (hq : q.isBinary = false) :
    ({ ix with attachedFiles := ix.attachedFiles.insert q } : Indexer).Tidy where
  stored := H.stored
  attached f hf := by
    rcases List.mem_insert_iff.1 hf with rfl | hf
    · exact hq
    · exact H.attached f hf
  files := H.files.insert
  folders := H.folders

theorem attachFolder (H : ix.Tidy) (d : Path) :
    ({ ix with attachedFolders := ix.attachedFolders.insert d } : Indexer).Tidy where
  stored := H.stored
  attached := H.attached
  files := H.files
  folders := H.folders.insert

theorem filters (H : ix.Tidy) (filters : Table Path IgnoreFilter) :
    ({ ix with filters } : Indexer).Tidy := H.congr rfl rfl rfl

variable (u : Setup σ)

variable {u} in
/-- What takes part in an index is not binary, be it attached or not. -/
theorem isBinary_of_tracks (h : (ix.tracks u fs p).1 = .ok true) : p.isBinary = false := by
  rcases tracks_iff.1 h with ⟨-, hb⟩ | ⟨-, root, f, -, -, hkept⟩
  · exact hb
  · exact IgnoreFilter.isBinary_of_kept hkept

variable {u} in
theorem beginUpdate (H : ix.Tidy) {r : Except Error (Option FileJob)}
    (h : ix.beginUpdate u fs p = (r, ix')) :
    ix'.Tidy ∧ ∀ job, r = .ok (some job) → job.path.isBinary = false := by
  cases hb : ix.building with
  | true =>
    cases (beginUpdate_busy hb).symm.trans h
    refine ⟨H, fun job hj => ?_⟩
    cases hj
  | false =>
    cases beginUpdate_begun hb h with
    | unnamed hn =>
      refine ⟨H, fun job hj => ?_⟩
      cases hj
    | untold hn ht =>
      refine ⟨H.filters _, fun job hj => ?_⟩
      cases hj
    | untracked hn ht =>
      refine ⟨H.filters _, fun job hj => ?_⟩
      cases hj
    | gone hn ht hf =>
      refine ⟨(H.filters _).forget _, fun job hj => ?_⟩
      cases hj
    | taken hn ht hf =>
      refine ⟨H.congr rfl rfl rfl, ?_⟩
      intro job hj
      cases hj
      exact isBinary_of_tracks (congrArg Prod.fst ht)

theorem scanNext (H : ix.Tidy) (fs : FileSystem) (done : List Entry) (rest : List Path) :
    (ix.scanNext u fs done rest).1.Textual ∧ (ix.scanNext u fs done rest).2.Tidy := by
  induction rest generalizing ix with
  | nil => exact ⟨.finished _, H⟩
  | cons path rest ih =>
    rw [Indexer.scanNext]
    split
    · next h => exact ⟨.finished _, (H.beginUpdate h).1⟩
    · next h => exact ih (H.beginUpdate h).1
    · next h =>
      obtain ⟨H', hjob⟩ := H.beginUpdate h
      exact ⟨.file (hjob _ rfl) (by simp [Purpose.files]), H'⟩

theorem folderNext (H : ix.Tidy) (done : List Entry) {rest : List Path}
    (hrest : ∀ f ∈ rest, f.isBinary = false) :
    (ix.folderNext done rest).1.Textual ∧ (ix.folderNext done rest).2.Tidy := by
  cases rest with
  | nil => exact ⟨.finished _, H⟩
  | cons path rest => exact ⟨.waiting hrest, H.congr rfl rfl rfl⟩

/-! ## First steps -/

theorem beginBuild (H : ix.Tidy) (hb : ix.building = false) (fs : FileSystem) :
    (ix.start u fs .build).1.Textual ∧ (ix.start u fs .build).2.Tidy := by
  have he := start_entered u fs hb
  generalize (ix.start u fs .build).1 = standing at he ⊢
  generalize (ix.start u fs .build).2 = ix' at he ⊢
  cases he with
  | failed filters h => exact ⟨.finished _, H.filters _⟩
  | rootless h =>
    refine ⟨.finished _, ?_, H.attached, H.files, H.folders⟩
    intro q e he
    simp [Store.get?, Store.clear] at he
  | begun filters roots found hr hd =>
    refine ⟨.waiting ?_, H.congr rfl rfl rfl⟩
    intro f hf
    have hfiles : ix.buildFiles u fs = .ok found.files := by
      rw [buildFiles, hr]
      exact congrArg (fun r => r.1.map Discovery.files) hd
    rcases (mem_buildFiles hfiles f).1 hf with ⟨ha, -⟩ | ⟨d, g, -, hreach⟩
    · exact H.attached f ha
    · exact IgnoreFilter.isBinary_of_kept hreach.taken.kept

theorem beginAttachFile (H : ix.Tidy) (fs : FileSystem) (p : Path) :
    (ix.beginAttachFile fs p).1.Textual ∧ (ix.beginAttachFile fs p).2.Tidy := by
  rw [Indexer.beginAttachFile]
  split
  · exact ⟨.finished _, H⟩
  · split
    · exact ⟨.finished _, H⟩
    · next q _ =>
      split
      · exact ⟨.finished _, H⟩
      · split
        · exact ⟨.finished _, H⟩
        · next hb =>
          have hq : q.isBinary = false := by simpa using hb
          exact ⟨.file hq (by simp [Purpose.files]), (H.attachFile hq).congr rfl rfl rfl⟩

theorem beginAttachFolder (H : ix.Tidy) (fs : FileSystem) (p : Path) :
    (ix.beginAttachFolder u fs p).1.Textual ∧ (ix.beginAttachFolder u fs p).2.Tidy := by
  rw [Indexer.beginAttachFolder]
  split
  · exact ⟨.finished _, H⟩
  · split
    · exact ⟨.finished _, H⟩
    · next folder _ =>
      split
      · exact ⟨.finished _, H⟩
      · have hix : (({ ix with
            attachedFolders := ix.attachedFolders.insert folder } : Indexer).filterFor u fs
              folder).2.Tidy := by
          obtain ⟨filters, hf⟩ := filterFor_filters u fs folder
            { ix with attachedFolders := ix.attachedFolders.insert folder }
          rw [hf]
          exact (H.attachFolder folder).filters filters
        dsimp only
        split
        · next h =>
          rw [h] at hix
          exact ⟨.finished _, hix⟩
        · next h =>
          rw [h] at hix
          split
          · exact ⟨.finished _, hix⟩
          · next found hfound =>
            exact hix.folderNext [] fun f hf => isBinary_of_mem_discover hfound hf

theorem start (H : ix.Tidy) (fs : FileSystem) (op : Operation) :
    (ix.start u fs op).1.Textual ∧ (ix.start u fs op).2.Tidy := by
  cases hb : ix.building with
  | true =>
    rw [start_busy hb]
    exact ⟨.finished _, H⟩
  | false =>
    cases op with
    | build => exact H.beginBuild u hb fs
    | update path =>
      rw [Indexer.start]
      split
      · next h => exact ⟨.finished _, (H.beginUpdate h).1⟩
      · next h => exact ⟨.finished _, (H.beginUpdate h).1⟩
      · next h =>
        obtain ⟨H', hjob⟩ := H.beginUpdate h
        exact ⟨.file (hjob _ rfl) (by simp [Purpose.files]), H'⟩
    | remove path =>
      rw [Indexer.start, if_neg (by simp [hb])]
      split
      · exact ⟨.finished _, H⟩
      · exact ⟨.finished _, H.forget _⟩
    | removeDirectory path =>
      rw [Indexer.start, if_neg (by simp [hb])]
      split
      · exact ⟨.finished _, H⟩
      · exact ⟨.finished _, H.forgetBelow _⟩
    | scan path =>
      rw [Indexer.start, beginScan, if_neg (by simp [hb])]
      dsimp only
      split
      · exact ⟨.finished _, H⟩
      · exact H.scanNext u fs [] _
    | attachFile path => exact H.beginAttachFile fs path
    | attachFolder path => exact H.beginAttachFolder u fs path

/-! ## Further steps -/

theorem keep (H : ix.Tidy) {job : FileJob} {e : Entry} (he : e.path = job.path.toText)
    (hj : job.path.isBinary = false) : (ix.keep job e).2.Tidy := by
  rw [Indexer.keep]
  split
  · exact H
  · refine ⟨?_, H.attached, H.files, H.folders⟩
    intro q e' hq
    simp only [Store.get?, Store.put, Table.find?_insert] at hq
    split at hq
    · next heq =>
      rw [heq, he, Path.ofText_toText]
      exact hj
    · exact H.stored q e' hq

theorem settle (H : ix.Tidy) (fs : FileSystem) {purpose : Purpose} {job : FileJob} {e : Entry}
    (he : e.path = job.path.toText)
    (ht : ∀ f ∈ (Task.file purpose job).files, f.isBinary = false) :
    (ix.settle u fs purpose job e).1.Textual ∧ (ix.settle u fs purpose job e).2.Tidy := by
  have H' := H.keep he (ht _ List.mem_cons_self)
  rw [Indexer.settle]
  cases purpose with
  | single => exact ⟨.finished _, H'⟩
  | scan rest done => exact H'.scanNext u fs _ rest
  | folder rest done =>
    dsimp only
    split
    · exact ⟨.finished _, H'⟩
    · exact H'.folderNext _ fun f hf => ht f (List.mem_cons_of_mem _ hf)

theorem resume (H : ix.Tidy) (fs : FileSystem) {t : Task} (hs : t.Sound)
    (ht : ∀ f ∈ t.files, f.isBinary = false) (x : σ) :
    (ix.resume u fs t x).1.Textual ∧ (ix.resume u fs t x).2.1.Tidy := by
  cases t with
  | file purpose job =>
    rw [Indexer.resume]
    split
    · exact ⟨.waiting ht, H⟩
    · exact ⟨.waiting ht, H⟩
    · exact ⟨.finished _, H⟩
    · next hstage => exact H.settle u fs (FileJob.Sound.takenFrom hs hstage).path ht
  | build job =>
    have hr : Resumed ix _ _ _ := resume_resumed u fs hs x
    generalize (ix.resume u fs (.build job) x).1 = standing at hr ⊢
    generalize (ix.resume u fs (.build job) x).2.1 = ix' at hr ⊢
    cases hr with
    | working hc _ =>
      cases hc with
      | build job stage => exact ⟨.waiting ht, H⟩
    | unbuilt h => exact ⟨.finished _, H.congr rfl rfl rfl⟩
    | built prepared h =>
      refine ⟨.finished _, ?_, H.attached, H.files, H.folders⟩
      -- All that is installed is of files that the build has found.
      intro q e he
      rw [Store.get?, h.generation.install] at he
      have hq : prepared.entries.contains q = true := by rw [Table.contains, he]; rfl
      obtain ⟨f, hf, rfl⟩ := List.mem_map.1 ((h.contains q).1 hq)
      rw [Path.ofText_toText]
      exact ht f hf

end Tidy
end Indexer

namespace Activity

variable {σ : Type} {u : Setup σ} {a : Activity}

/-- No file that is stored, attached or about to be taken in is binary, and nothing is attached
twice. -/
structure Tidy (a : Activity) : Prop where
  index : a.index.Tidy
  waiting : ∀ n t, a.waiting n = some t → ∀ f ∈ t.files, f.isBinary = false

namespace Tidy

theorem fresh (roots : List Path) : (fresh roots).Tidy where
  index := by
    refine ⟨fun q e he => ?_, fun f hf => ?_, .nil, .nil⟩
    · cases he
    · cases hf
  waiting n t ht := by cases ht

theorem note (h : a.Tidy) {ix : Indexer} (hix : ix.Tidy) (n : Nat) {standing : Standing}
    (hs : standing.Textual) (calls : Nat) :
    (note { a with index := ix, calls } n standing.task?).Tidy where
  index := hix
  waiting m t ht := by
    rcases note_waiting_eq_some ht with ⟨-, ht⟩ | ⟨-, ht⟩
    · exact hs t ht
    · exact h.waiting m t ht

theorem step (H : a.Sound) (h : a.Tidy) (m : Move σ) : (a.step u m).2.Tidy := by
  cases m with
  | call op fs =>
    obtain ⟨hs, hix⟩ := h.index.start u fs op
    rw [step_call]
    exact h.note hix _ hs _
  | resume n fs x =>
    cases hn : a.waiting n with
    | none =>
      rw [step_resume_none u hn]
      exact h
    | some t =>
      obtain ⟨hs, hix⟩ := h.index.resume u fs (H.task n t hn) (h.waiting n t hn) x
      rw [step_resume u hn]
      exact h.note hix n hs _

theorem run (H : a.Sound) (h : a.Tidy) (ms : List (Move σ)) : (a.run u ms).Tidy := by
  induction ms generalizing a with
  | nil => exact h
  | cons m ms ih => exact ih (H.step m) (h.step H m)

end Tidy

variable (u) in
theorem tidy_run (roots : List Path) (ms : List (Move σ)) : ((fresh roots).run u ms).Tidy :=
  (Tidy.fresh roots).run (fresh_sound roots) ms

/-- Whatever operations have been called, and however they have interleaved: no entry is that of a
binary file, and no binary file is attached. -/
theorem textual_run (u : Setup σ) (roots : List Path) (ms : List (Move σ)) :
    let ix := ((fresh roots).run u ms).index
    (∀ q e, ix.store.get? q = some e → e.path = q ∧ (Path.ofText e.path).isBinary = false) ∧
      ∀ f ∈ ix.attachedFiles, f.isBinary = false := by
  intro ix
  have H : ((fresh roots).run u ms).Sound := sound_run u roots ms
  have h : ((fresh roots).run u ms).Tidy := tidy_run u roots ms
  refine ⟨?_, h.index.attached⟩
  intro q e he
  have hpath : e.path = q := H.store.path q e he
  refine ⟨hpath, ?_⟩
  rw [hpath]
  exact h.index.stored q e he

end Activity
end CodeAtlas
