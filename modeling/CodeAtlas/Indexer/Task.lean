import CodeAtlas.Indexer.State
import CodeAtlas.Resolve.Link

/-!
# Operations on an index

Operations read files and ask models beside the index, and others may run meanwhile. Whatever has to
wait is a `Task`: `Indexer.start` begins an operation and `Indexer.resume` brings a task one step
further, both in one go. A build reads its files one by one, so that files may change between two of
them. What is written is decided in the last step, by the state of the index at that time: an entry
is dropped if a build is going on or has ended since it was begun.

* `Indexer.run`: a whole operation, nothing else going on.
-/

namespace CodeAtlas

/-- What can be asked of an index. -/
inductive Operation
  | build
  /-- A file may have changed, appeared or gone. -/
  | update (path : Path)
  | remove (path : Path)
  | removeDirectory (path : Path)
  /-- A directory has appeared. -/
  | scan (path : Path)
  | attachFile (path : Path)
  | attachFolder (path : Path)
deriving DecidableEq, Repr

/-- What an operation comes to. -/
inductive Result
  /-- Of a build; there is no report if another build was going on. -/
  | report (r : Option BuildReport)
  | entry (e : Option Entry)
  | entries (es : List Entry)
  | removed (found : Bool)
  | count (n : Nat)

/-- How far the work on a file has come. -/
inductive FileStage
  | begun
  | extracted (entry : Entry)
  | embedded (result : Except Error Entry)

/-- A file that is being taken into the index. -/
structure FileJob where
  path : Path
  /-- The generation that the index had when the job was begun. -/
  generation : Int
  stamp : Nat
  stage : FileStage

/-- A generation that is ready to be installed. -/
structure Prepared where
  entries : Table String Entry
  references : Nat
  embeddings : Nat

/-- How far a build has come. -/
inductive BuildStage
  /-- The files that are still to be read, and what was found in the others. -/
  | reading (rest : List Path) (results : List (Entry × List Use))
  | prepared (result : Except Error Prepared)

/-- A build that is going on. -/
structure BuildJob where
  roots : List Path
  found : Discovery
  /-- The generation that will be installed. -/
  generation : Int
  stamp : Nat
  stage : BuildStage

/-- What a file is taken in for. -/
inductive Purpose
  | single
  /-- For a directory that has appeared: the files to come, and the entries so far. -/
  | scan (rest : List Path) (done : List Entry)
  /-- For a folder that is attached. -/
  | folder (rest : List Path) (done : List Entry)

/-- An operation that waits. -/
inductive Task
  | file (purpose : Purpose) (job : FileJob)
  | build (job : BuildJob)

/-- How an operation stands. -/
inductive Standing
  | waiting (t : Task)
  | finished (r : Except Error Result)

/-! ## The work beside the index -/

/-- Links the uses of a build and gives its entries their vectors. -/
def BuildJob.prepare {σ : Type} (u : Setup σ) (job : BuildJob) (results : List (Entry × List Use))
    (s : σ) : Except Error Prepared × σ :=
  let entries : Table String Entry := .ofList (results.map fun r => (r.1.path, r.1))
  match link job.roots (results.flatMap Prod.snd) entries job.generation with
  | (_, .error e) => (.error e, s)
  | (entries, .ok stats) =>
    let (r, s) := u.embedAll entries.values s
    (r.map fun (es, n) => ⟨.ofList (es.map fun e => (e.path, e)), stats.resolved, n⟩, s)

/-- What a build that installs a generation reports. -/
def BuildJob.report (job : BuildJob) (p : Prepared) : BuildReport :=
  let es := p.entries.values
  { generation := job.generation
    files := es.length
    symbols := (es.flatMap Entry.symbols).length
    parseErrors := es.countP fun e => e.parseError.isSome
    references := p.references
    embeddings := p.embeddings
    problems := job.found.problems }

namespace Indexer

variable {σ : Type}

/-! ## First steps -/

/-- Begins to take in a file. -/
def takeIn (path : Path) (ix : Indexer) : FileJob × Indexer :=
  (⟨path, ix.store.generation, ix.clock, .begun⟩, { ix with clock := ix.clock + 1 })

/-- Begins to look at a file that may have changed. There is nothing to do for a file that takes no
part in the index, and one that is gone is forgotten. -/
def beginUpdate (u : Setup σ) (fs : FileSystem) (path : Path) (ix : Indexer) :
    Except Error (Option FileJob) × Indexer :=
  if ix.building then (.ok none, ix)
  else match ix.normalize fs path with
    | .error e => (.error e, ix)
    | .ok path =>
      match ix.tracks u fs path with
      | (.error e, ix) => (.error e, ix)
      | (.ok false, ix) => (.ok none, ix)
      | (.ok true, ix) =>
        if fs.isFile path then
          let taken := ix.takeIn path
          (.ok (some taken.1), taken.2)
        else (.ok none, (ix.forget path).2)

/-- Goes on with the files of a directory that has appeared. -/
def scanNext (u : Setup σ) (fs : FileSystem) (done : List Entry) :
    List Path → Indexer → Standing × Indexer
  | [], ix => (.finished (.ok (.entries done)), ix)
  | path :: rest, ix =>
    match ix.beginUpdate u fs path with
    | (.error e, ix) => (.finished (.error e), ix)
    | (.ok none, ix) => scanNext u fs done rest ix
    | (.ok (some job), ix) => (.waiting (.file (.scan rest done) job), ix)

/-- Goes on with the files of a folder that is attached. -/
def folderNext (done : List Entry) : List Path → Indexer → Standing × Indexer
  | [], ix => (.finished (.ok (.entries done)), ix)
  | path :: rest, ix =>
    let (job, ix) := ix.takeIn path
    (.waiting (.file (.folder rest done) job), ix)

/-- Begins a build. Without a root that is a directory the store is emptied, and the host is told. -/
def beginBuild (u : Setup σ) (fs : FileSystem) (ix : Indexer) : Standing × Indexer :=
  if ix.building then (.finished (.ok (.report none)), ix)
  else match ix.validRoots fs with
    | .error e => (.finished (.error e), ix)
    | .ok [] =>
      let e : Error := .noRoots (ix.roots.map Path.toText)
      (.finished (.error e), { ix with store := ix.store.clear, notified := ix.notified ++ [e] })
    | .ok roots =>
      match discoverAll u fs roots { ix with filters := .empty } with
      | (.error e, ix) => (.finished (.error e), ix)
      | (.ok found, ix) =>
        (.waiting (.build
           ⟨roots, found, ix.store.nextGeneration, ix.clock, .reading found.files []⟩),
         { ix with building := true, clock := ix.clock + 1 })

/-- Begins to take in the files of a directory that has appeared, if it lies in a root. -/
def beginScan (u : Setup σ) (fs : FileSystem) (path : Path) (ix : Indexer) : Standing × Indexer :=
  if ix.building then (.finished (.ok (.entries [])), ix)
  else
    let files : Except Error (List Path) := do
      let folder ← ix.normalize fs path
      if !fs.isDirectory folder then return []
      if (← ix.containingRoot? fs folder).isNone then return []
      return (← discover fs [folder] [] {}).files
    match files with
    | .error e => (.finished (.error e), ix)
    | .ok files => ix.scanNext u fs [] files

/-- Begins to attach a file. Files in binary formats are not attached. -/
def beginAttachFile (fs : FileSystem) (path : Path) (ix : Indexer) : Standing × Indexer :=
  if ix.building then (.finished (.ok (.entry none)), ix)
  else match fs.resolve path with
    | .error e => (.finished (.error e), ix)
    | .ok path =>
      if !fs.isFile path then (.finished (.error (.notAFile path.toText)), ix)
      else if path.isBinary then (.finished (.ok (.entry none)), ix)
      else
        let (job, ix) := takeIn path { ix with attachedFiles := ix.attachedFiles.insert path }
        (.waiting (.file .single job), ix)

/-- Begins to attach a folder. -/
def beginAttachFolder (u : Setup σ) (fs : FileSystem) (path : Path) (ix : Indexer) :
    Standing × Indexer :=
  if ix.building then (.finished (.ok (.entries [])), ix)
  else match fs.resolve path with
    | .error e => (.finished (.error e), ix)
    | .ok folder =>
      if !fs.isDirectory folder then (.finished (.error (.notADirectory folder.toText)), ix)
      else
        let ix := { ix with attachedFolders := ix.attachedFolders.insert folder }
        match ix.filterFor u fs folder with
        | (.error e, ix) => (.finished (.error e), ix)
        | (.ok f, ix) =>
          match discover fs [folder] [(folder, f)] {} with
          | .error e => (.finished (.error e), ix)
          | .ok found => ix.folderNext [] found.files

/-- Begins an operation. -/
def start (u : Setup σ) (fs : FileSystem) (op : Operation) (ix : Indexer) : Standing × Indexer :=
  match op with
  | .build => ix.beginBuild u fs
  | .update path =>
    match ix.beginUpdate u fs path with
    | (.error e, ix) => (.finished (.error e), ix)
    | (.ok none, ix) => (.finished (.ok (.entry none)), ix)
    | (.ok (some job), ix) => (.waiting (.file .single job), ix)
  | .remove path =>
    if ix.building then (.finished (.ok (.removed false)), ix)
    else match ix.normalize fs path with
      | .error e => (.finished (.error e), ix)
      | .ok path =>
        let (found, ix) := ix.forget path
        (.finished (.ok (.removed found)), ix)
  | .removeDirectory path =>
    if ix.building then (.finished (.ok (.count 0)), ix)
    else match ix.normalize fs path with
      | .error e => (.finished (.error e), ix)
      | .ok path =>
        let (n, ix) := ix.forgetBelow path
        (.finished (.ok (.count n)), ix)
  | .scan path => ix.beginScan u fs path
  | .attachFile path => ix.beginAttachFile fs path
  | .attachFolder path => ix.beginAttachFolder u fs path

/-! ## Further steps -/

/-- Puts an entry into the store, unless a build is going on or has ended meanwhile. -/
def keep (job : FileJob) (e : Entry) (ix : Indexer) : Option Entry × Indexer :=
  if ix.building || ix.store.generation ≠ job.generation then (none, ix)
  else (some e, { ix with store := ix.store.put e })

/-- Puts an entry into the store and goes on with what it was made for. -/
def settle (u : Setup σ) (fs : FileSystem) (purpose : Purpose) (job : FileJob) (e : Entry)
    (ix : Indexer) : Standing × Indexer :=
  let (kept, ix) := ix.keep job e
  match purpose with
  | .single => (.finished (.ok (.entry kept)), ix)
  | .scan rest done => ix.scanNext u fs (done ++ kept.toList) rest
  | .folder rest done =>
    match kept with
    | none => (.finished (.ok (.entries done)), ix)
    | some e => ix.folderNext (done ++ [e]) rest

/-- Ends a build: the new generation replaces the old one, or the store stays as it is. -/
def endBuild (job : BuildJob) (r : Except Error Prepared) (ix : Indexer) : Standing × Indexer :=
  match r with
  | .error e => (.finished (.error e), { ix with building := false })
  | .ok p =>
    let report := job.report p
    (.finished (.ok (.report (some report))),
     { ix with
        building := false, store := .install p.entries job.generation, lastReport := some report })

/-- Brings a task one step further. -/
def resume (u : Setup σ) (fs : FileSystem) (t : Task) (ix : Indexer) (s : σ) :
    Standing × Indexer × σ :=
  match t with
  | .file purpose job =>
    match job.stage with
    | .begun =>
      let (e, _) := u.extractFile fs job.path job.generation job.stamp
      (.waiting (.file purpose { job with stage := .extracted e }), ix, s)
    | .extracted e =>
      let (r, s) := u.embed e s
      (.waiting (.file purpose { job with stage := .embedded (r.map Prod.fst) }), ix, s)
    | .embedded (.error e) => (.finished (.error e), ix, s)
    | .embedded (.ok e) =>
      let (standing, ix) := ix.settle u fs purpose job e
      (standing, ix, s)
  | .build job =>
    match job.stage with
    | .reading (path :: rest) results =>
      let found := u.extractFile fs path job.generation job.stamp
      (.waiting (.build { job with stage := .reading rest (results ++ [found]) }), ix, s)
    | .reading [] results =>
      let (r, s) := job.prepare u results s
      (.waiting (.build { job with stage := .prepared r }), ix, s)
    | .prepared r =>
      let (standing, ix) := ix.endBuild job r
      (standing, ix, s)

end Indexer

/-! ## Whole operations -/

/-- How many steps a file needs at most. -/
def FileStage.size : FileStage → Nat
  | begun => 2
  | extracted _ => 1
  | embedded _ => 0

/-- How many steps the files to come need at most. -/
def Purpose.size : Purpose → Nat
  | single => 0
  | scan rest _ => 3 * rest.length
  | folder rest _ => 3 * rest.length

/-- How many steps a build needs. -/
def BuildStage.size : BuildStage → Nat
  | reading rest _ => rest.length + 1
  | prepared _ => 0

/-- How many steps a task needs at most, after the next one. -/
def Task.size : Task → Nat
  | file purpose job => purpose.size + job.stage.size
  | build job => job.stage.size

namespace Indexer

variable {σ : Type}

theorem beginUpdate_stage {u : Setup σ} {fs : FileSystem} {path : Path} {ix ix' : Indexer}
    {job : FileJob} (h : ix.beginUpdate u fs path = (.ok (some job), ix')) : job.stage = .begun := by
  unfold beginUpdate at h
  repeat' split at h
  all_goals simp at h
  obtain ⟨rfl, -⟩ := h
  rfl

theorem scanNext_size {u : Setup σ} {fs : FileSystem} {done : List Entry} {rest : List Path}
    {ix ix' : Indexer} {t : Task} (h : ix.scanNext u fs done rest = (.waiting t, ix')) :
    t.size < 3 * rest.length := by
  induction rest generalizing ix with
  | nil => simp [scanNext] at h
  | cons path rest ih =>
    unfold scanNext at h
    split at h
    · simp at h
    · have := ih h
      simp only [List.length_cons]
      omega
    · next job _ hj =>
      simp only [Prod.mk.injEq, Standing.waiting.injEq] at h
      obtain ⟨rfl, -⟩ := h
      simp [Task.size, Purpose.size, beginUpdate_stage hj, FileStage.size]
      omega

theorem folderNext_size {done : List Entry} {rest : List Path} {ix ix' : Indexer} {t : Task}
    (h : ix.folderNext done rest = (.waiting t, ix')) : t.size < 3 * rest.length := by
  cases rest with
  | nil => simp [folderNext] at h
  | cons path rest =>
    simp only [folderNext, takeIn, Prod.mk.injEq, Standing.waiting.injEq] at h
    obtain ⟨rfl, -⟩ := h
    simp [Task.size, Purpose.size, FileStage.size]
    omega

theorem settle_size {u : Setup σ} {fs : FileSystem} {purpose : Purpose} {job : FileJob} {e : Entry}
    {ix ix' : Indexer} {t : Task} (h : ix.settle u fs purpose job e = (.waiting t, ix')) :
    t.size < purpose.size := by
  unfold settle at h
  cases purpose with
  | single => simp at h
  | scan rest done => exact scanNext_size h
  | folder rest done =>
    dsimp only at h
    split at h
    · simp at h
    · exact folderNext_size h

theorem resume_size {u : Setup σ} {fs : FileSystem} {t t' : Task} {ix ix' : Indexer} {s s' : σ}
    (h : ix.resume u fs t s = (.waiting t', ix', s')) : t'.size < t.size := by
  cases t with
  | build job =>
    simp only [resume] at h
    split at h
    · next hs =>
      simp only [Prod.mk.injEq, Standing.waiting.injEq] at h
      obtain ⟨rfl, -⟩ := h
      simp [Task.size, BuildStage.size, hs]
    · next hs =>
      simp only [Prod.mk.injEq, Standing.waiting.injEq] at h
      obtain ⟨rfl, -⟩ := h
      simp [Task.size, BuildStage.size, hs]
    · simp only [endBuild] at h
      split at h <;> simp_all
  | file purpose job =>
    simp only [resume] at h
    split at h
    · next hs =>
      simp only [Prod.mk.injEq, Standing.waiting.injEq] at h
      obtain ⟨rfl, -⟩ := h
      simp [Task.size, FileStage.size, hs]
    · next hs =>
      simp only [Prod.mk.injEq, Standing.waiting.injEq] at h
      obtain ⟨rfl, -⟩ := h
      simp [Task.size, FileStage.size, hs]
    · simp at h
    · next e hs =>
      have hw : (ix.settle u fs purpose job e).1 = .waiting t' := by simp_all
      have := settle_size (Prod.ext hw rfl)
      have hz : (Task.file purpose job).size = purpose.size := by
        simp [Task.size, hs, FileStage.size]
      rwa [hz]

/-- Brings a task to its end, nothing else going on. -/
def finish (u : Setup σ) (fs : FileSystem) (t : Task) (ix : Indexer) (s : σ) :
    Except Error Result × Indexer × σ :=
  match _h : ix.resume u fs t s with
  | (.finished r, ix, s) => (r, ix, s)
  | (.waiting t', ix, s) => finish u fs t' ix s
termination_by t.size
decreasing_by exact resume_size ‹_›

/-- Runs a whole operation, nothing else going on. -/
def run (u : Setup σ) (fs : FileSystem) (op : Operation) (ix : Indexer) (s : σ) :
    Except Error Result × Indexer × σ :=
  match ix.start u fs op with
  | (.finished r, ix) => (r, ix, s)
  | (.waiting t, ix) => ix.finish u fs t s

end Indexer
end CodeAtlas
