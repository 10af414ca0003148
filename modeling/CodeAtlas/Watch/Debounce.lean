import CodeAtlas.Data.Table
import CodeAtlas.Error

/-!
# Debounced changes

File events come in bursts. What changed is kept by path until a pause, only the last change of each
path, and is then reported in the order in which the paths first changed. Events of files are only
kept if their path is accepted.

A directory that goes away, or comes from elsewhere, has no events for the files in it: it is
reported itself, whatever its path.

A listener is made of a filter of paths and of a callback that changes are reported to. It is called
with events, to report what waits or to forget it, and by its timer, one call after the other. Filter
and callback may keep a state and may fail: when the filter fails the rest of the event is dropped, and
what has been taken up of it stays; when the callback fails the change counts as reported.
-/

namespace CodeAtlas

/-- How a path changed. -/
inductive ChangeKind
  | created
  | changed
  | deleted
  | directoryCreated
  | directoryDeleted
deriving DecidableEq, Repr

namespace ChangeKind

/-- The word for a kind of change. -/
def name : ChangeKind → String
  | created => "created"
  | changed => "changed"
  | deleted => "deleted"
  | directoryCreated => "dir_created"
  | directoryDeleted => "dir_deleted"

/-- The kind that a word stands for; any other word means that a file changed. -/
def ofName (s : String) : ChangeKind :=
  ([created, deleted, directoryCreated, directoryDeleted].find? (·.name = s)).getD changed

theorem ofName_name (k : ChangeKind) : ofName k.name = k := by cases k <;> rfl

end ChangeKind

/-- A path and how it changed. -/
structure Change where
  kind : ChangeKind
  path : String
deriving DecidableEq, Repr

/-- An event in a file system; the flag tells whether a directory has it. -/
inductive FileEvent
  | created (path : String) (isDirectory : Bool)
  | modified (path : String) (isDirectory : Bool)
  | deleted (path : String) (isDirectory : Bool)
  | moved (source target : String) (isDirectory : Bool)
deriving DecidableEq, Repr

namespace FileEvent

/-- Whether a directory has the event. -/
def isDirectory : FileEvent → Bool
  | created _ directory | modified _ directory | deleted _ directory | moved _ _ directory => directory

/-- The changes that an event can mean, in order. -/
def candidates : FileEvent → List Change
  | .created path false => [⟨.created, path⟩]
  | .modified path false => [⟨.changed, path⟩]
  | .deleted path false => [⟨.deleted, path⟩]
  | .moved source target false => [⟨.deleted, source⟩, ⟨.created, target⟩]
  | .deleted path true => [⟨.directoryDeleted, path⟩]
  | .moved source target true => [⟨.directoryDeleted, source⟩, ⟨.directoryCreated, target⟩]
  | .created _ true | .modified _ true => []

/-- The changes that an event means. -/
def changes (accepts : String → Bool) (e : FileEvent) : List Change :=
  let file (kind : ChangeKind) (path : String) : List Change :=
    if accepts path then [⟨kind, path⟩] else []
  match e with
  | .created path false => file .created path
  | .modified path false => file .changed path
  | .deleted path false => file .deleted path
  | .moved source target false => file .deleted source ++ file .created target
  | .deleted path true => [⟨.directoryDeleted, path⟩]
  | .moved source target true => [⟨.directoryDeleted, source⟩, ⟨.directoryCreated, target⟩]
  | .created _ true | .modified _ true => []

end FileEvent

/-- The changes that wait to be reported, and whether a timer for that is running. -/
structure Debounce where
  pending : Table String ChangeKind := .empty
  armed : Bool := false

namespace Debounce

/-- Takes up a change, which starts the timer anew. -/
def add (d : Debounce) (c : Change) : Debounce :=
  { pending := d.pending.insert c.path c.kind, armed := true }

/-- Takes up an event. -/
def handle (accepts : String → Bool) (d : Debounce) (e : FileEvent) : Debounce :=
  (e.changes accepts).foldl add d

/-- The changes that wait, in the order in which they are reported. -/
def changes (d : Debounce) : List Change := d.pending.pairs.map fun p => ⟨p.2, p.1⟩

/-- Reports changes one after the other. An error while one is reported concerns no other. -/
def report {σ : Type} (callback : Change → σ → Except Error Unit × σ) (changes : List Change)
    (s : σ) : σ :=
  changes.foldl (fun s c => (callback c s).2) s

/-- Reports all changes that wait, as the timer does when it runs out. -/
def flush {σ : Type} (callback : Change → σ → Except Error Unit × σ) (d : Debounce) (s : σ) :
    Debounce × σ :=
  ({}, report callback d.changes s)

/-- Forgets all changes that wait. -/
def cancel (_ : Debounce) : Debounce := {}

end Debounce

/-- A filter of paths and a callback for changes. -/
structure Listener (σ : Type) where
  accepts : String → σ → Except Error Bool × σ
  callback : Change → σ → Except Error Unit × σ

namespace Listener

/-- What a listener is called for. -/
inductive Call
  | event (e : FileEvent)
  /-- Reports what waits. -/
  | flush
  /-- Reports what waits, since the timer has run out. -/
  | timer
  /-- Forgets what waits. -/
  | cancel
deriving DecidableEq, Repr

variable {σ : Type}

/-- Those of the changes whose paths the filter accepts. They are asked about one after the other, and
none once the filter has failed. -/
def filtered (l : Listener σ) : List Change → σ → List Change × σ
  | [], s => ([], s)
  | c :: cs, s =>
    match l.accepts c.path s with
    | (.ok true, s) => let (rest, s) := l.filtered cs s; (c :: rest, s)
    | (.ok false, s) => l.filtered cs s
    | (.error _, s) => ([], s)

/-- The changes of an event that are taken up. The filter is not asked about directories. -/
def taken (l : Listener σ) (e : FileEvent) (s : σ) : List Change × σ :=
  if e.isDirectory then (e.candidates, s) else l.filtered e.candidates s

/-- What a call makes of the changes that wait and of the state of the listener. -/
def step (l : Listener σ) (x : Debounce × σ) : Call → Debounce × σ
  | .event e => let (cs, s) := l.taken e x.2; (cs.foldl Debounce.add x.1, s)
  | .flush | .timer => x.1.flush l.callback x.2
  | .cancel => (x.1.cancel, x.2)

/-- What calls make of them, one after the other. -/
def run (l : Listener σ) (calls : List Call) (x : Debounce × σ) : Debounce × σ :=
  calls.foldl l.step x

/-- The listener with a filter that only looks at the path. -/
def ofFilter (accepts : String → Bool) (callback : Change → σ → Except Error Unit × σ) :
    Listener σ := ⟨fun path s => (.ok (accepts path), s), callback⟩

theorem filtered_ofFilter (accepts : String → Bool)
    (callback : Change → σ → Except Error Unit × σ) (cs : List Change) (s : σ) :
    (ofFilter accepts callback).filtered cs s = (cs.filter fun c => accepts c.path, s) := by
  induction cs with
  | nil => rfl
  | cons c cs ih =>
    have hasked : (ofFilter accepts callback).accepts c.path s = (.ok (accepts c.path), s) := rfl
    rw [filtered, hasked, List.filter_cons]
    cases accepts c.path with
    | false => exact ih
    | true => exact congrArg (fun x => (c :: x.1, x.2)) ih

/-- Without a state of its own a filter passes on the changes that an event means under it. -/
theorem taken_ofFilter (accepts : String → Bool) (callback : Change → σ → Except Error Unit × σ)
    (e : FileEvent) (s : σ) : (ofFilter accepts callback).taken e s = (e.changes accepts, s) := by
  have hfile : ∀ kind path, [(⟨kind, path⟩ : Change)].filter (fun c => accepts c.path) =
      if accepts path then [⟨kind, path⟩] else [] := by
    intro kind path
    rw [List.filter_cons, List.filter_nil]
  cases e with
  | created path directory | modified path directory | deleted path directory =>
    cases directory with
    | true => rfl
    | false => exact (filtered_ofFilter ..).trans (congrArg (·, s) (hfile _ path))
  | moved source target directory =>
    cases directory with
    | true => rfl
    | false =>
      refine (filtered_ofFilter ..).trans (congrArg (·, s) ?_)
      rw [FileEvent.candidates, ← List.singleton_append, List.filter_append, hfile, hfile]
      rfl

/-- Such a listener takes up events as changes are collected under the filter. -/
theorem step_ofFilter (accepts : String → Bool) (callback : Change → σ → Except Error Unit × σ)
    (e : FileEvent) (d : Debounce) (s : σ) :
    (ofFilter accepts callback).step (d, s) (.event e) = (d.handle accepts e, s) := by
  rw [step, taken_ofFilter]
  rfl

end Listener
end CodeAtlas
