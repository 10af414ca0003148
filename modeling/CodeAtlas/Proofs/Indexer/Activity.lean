import CodeAtlas.Proofs.Indexer.Tasks

/-!
# Operations that interleave

An `Activity` is an index together with the operations on it that wait. It moves when an operation
is called, and when one that waits goes on; each move sees the files and the state of models as they
are at that moment, and nothing is said of how these change between moves.

A whole operation, nothing else going on, is its call and some further moves
(`Activity.run_operation`).
-/

namespace CodeAtlas

/-- The task of an operation that waits. -/
def Standing.task? : Standing → Option Task
  | waiting t => some t
  | finished _ => none

/-- An index and the operations on it that wait, by the numbers of their calls. -/
structure Activity where
  index : Indexer
  waiting : Nat → Option Task
  calls : Nat

/-- What happens next. -/
inductive Move (σ : Type)
  /-- An operation is called. -/
  | call (op : Operation) (fs : FileSystem)
  /-- An operation that waits goes on. -/
  | resume (n : Nat) (fs : FileSystem) (s : σ)

namespace Activity

variable {σ : Type}

/-- Notes what a call waits with. -/
def note (a : Activity) (n : Nat) (t : Option Task) : Activity :=
  { a with waiting := fun m => if m = n then t else a.waiting m }

/-- Makes a move, and tells how the operation stands that has moved. -/
def step (u : Setup σ) (a : Activity) : Move σ → Option Standing × Activity
  | .call op fs =>
    let (standing, index) := a.index.start u fs op
    (some standing, note { a with index, calls := a.calls + 1 } a.calls standing.task?)
  | .resume n fs s =>
    match a.waiting n with
    | none => (none, a)
    | some t =>
      let (standing, index, _) := a.index.resume u fs t s
      (some standing, note { a with index } n standing.task?)

/-- Makes one move after the other. -/
def run (u : Setup σ) (a : Activity) (ms : List (Move σ)) : Activity :=
  ms.foldl (fun a m => (a.step u m).2) a

/-- An index of which nothing has been asked yet. -/
def fresh (roots : List Path) : Activity := ⟨{ roots }, fun _ => none, 0⟩

/-! ## Moves -/

theorem note_waiting (a : Activity) (n : Nat) (t : Option Task) (m : Nat) :
    (a.note n t).waiting m = if m = n then t else a.waiting m := rfl

/-- Only what is noted last about a call counts. -/
theorem note_note (a : Activity) (n : Nat) (t t' : Option Task) :
    (a.note n t).note n t' = a.note n t' := by
  simp only [note, mk.injEq, true_and, and_true]
  funext m
  split <;> rfl

theorem step_call (u : Setup σ) (a : Activity) (op : Operation) (fs : FileSystem) :
    a.step u (.call op fs) = (some (a.index.start u fs op).1,
      note { a with index := (a.index.start u fs op).2, calls := a.calls + 1 } a.calls
        (a.index.start u fs op).1.task?) := rfl

theorem step_resume (u : Setup σ) {a : Activity} {n : Nat} {t : Task} (h : a.waiting n = some t)
    (fs : FileSystem) (s : σ) :
    a.step u (.resume n fs s) = (some (a.index.resume u fs t s).1,
      note { a with index := (a.index.resume u fs t s).2.1 } n
        (a.index.resume u fs t s).1.task?) := by
  rw [step, h]

theorem step_resume_none (u : Setup σ) {a : Activity} {n : Nat} (h : a.waiting n = none)
    (fs : FileSystem) (s : σ) : a.step u (.resume n fs s) = (none, a) := by
  rw [step, h]

theorem run_cons (u : Setup σ) (a : Activity) (m : Move σ) (ms : List (Move σ)) :
    a.run u (m :: ms) = (a.step u m).2.run u ms := rfl

theorem run_append (u : Setup σ) (a : Activity) (ms ms' : List (Move σ)) :
    a.run u (ms ++ ms') = (a.run u ms).run u ms' := List.foldl_append

/-! ## Whole operations -/

/-- A task that waits is brought to its end by moves of its own, the last of which gives the
result. -/
theorem step_finish (u : Setup σ) (fs : FileSystem) {a : Activity} {n : Nat} {t : Task}
    (h : a.waiting n = some t) (s : σ) :
    ∃ ms s', (a.run u ms).step u (.resume n fs s') =
      (some (.finished (a.index.finish u fs t s).1),
        note { a with index := (a.index.finish u fs t s).2.1 } n none) := by
  -- Every move leaves less to do for the same call.
  induction hk : t.size using Nat.strongRecOn generalizing a t s with
  | ind k ih =>
    rw [Indexer.finish]
    split
    · next r ix s' hr =>
      refine ⟨[], s, (step_resume u h fs s).trans ?_⟩
      rw [hr]
      rfl
    · next t' ix s' hr =>
      have hn : (note { a with index := ix } n (some t')).waiting n = some t' := by
        simp [note_waiting]
      obtain ⟨ms, s'', hms⟩ := ih t'.size (hk ▸ Indexer.resume_size hr) hn s' rfl
      refine ⟨.resume n fs s :: ms, s'', ?_⟩
      rw [run_cons, step_resume u h, hr]
      exact hms.trans (congrArg _ (note_note { a with index := _ } n (some t') none))

/-- Bringing a task to its end is some moves in a row. -/
theorem run_finish (u : Setup σ) (fs : FileSystem) {a : Activity} {n : Nat} {t : Task}
    (h : a.waiting n = some t) (s : σ) :
    ∃ ms, a.run u ms = note { a with index := (a.index.finish u fs t s).2.1 } n none := by
  obtain ⟨ms, s', hlast⟩ := step_finish u fs h s
  refine ⟨ms ++ [.resume n fs s'], ?_⟩
  rw [run_append, run_cons, hlast]
  rfl

/-- A whole operation is its call and some further moves. -/
theorem run_operation (u : Setup σ) (fs : FileSystem) (op : Operation) (a : Activity) (s : σ) :
    ∃ ms, (a.run u ms).index = (a.index.run u fs op s).2.1 ∧
      ∀ n, n ≠ a.calls → (a.run u ms).waiting n = a.waiting n := by
  rw [Indexer.run]
  split
  · next r ix hr =>
    refine ⟨[.call op fs], ?_, fun n hn => ?_⟩
    · rw [run_cons, step_call, hr]
      rfl
    · rw [run_cons, step_call, hr]
      exact if_neg hn
  · next t ix hr =>
    let b := note { a with index := ix, calls := a.calls + 1 } a.calls (some t)
    have hb : b.waiting a.calls = some t := by simp [b, note_waiting]
    obtain ⟨ms, hms⟩ := run_finish u fs hb s
    have hrun : a.run u (.call op fs :: ms) = b.run u ms := by
      rw [run_cons, step_call, hr]
      rfl
    refine ⟨.call op fs :: ms, ?_, fun n hn => ?_⟩
    · rw [hrun, hms]
      rfl
    · rw [hrun, hms]
      simp [b, note_waiting, hn]

end Activity
end CodeAtlas
