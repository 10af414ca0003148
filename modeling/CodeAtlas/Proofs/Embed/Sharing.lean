import Mathlib.Data.List.Induction
import CodeAtlas.Embed.Local

/-!
# Calls that share a link

Calls for vectors that run at the same time share one link to the server. A call that finds it not
ready makes a client and sends a greeting, whatever the others do; while it waits for the answer, or
for the closing of a client that it gives up, the others go on. `Sharing.run` lets calls take such
turns in any order, and a call that is alone takes them in a row (`Client.makeReady_run`).

A greeting that is answered well makes the link ready for all. One that is refused gives up the
client that is there by then, which may be another call's. So a link can be ready and have lost its
client (`Sharing.lost_iff`), and then it stays so (`Sharing.lost_run`) and every call fails
(`Client.embedText_of_lost`). As long as a greeting is sent only when no other call waits, this does
not happen (`Sharing.alive_of_serial`).
-/

namespace CodeAtlas.Local

/-! ## Answers to greetings -/

/-- What the response to a greeting means for the link. -/
inductive Verdict
  | ready
  | refused
  /-- The call ends, and leaves the link as it is. -/
  | inconclusive
deriving DecidableEq, Repr

def Response.verdict : Response → Verdict
  | .broken _ => .refused
  | .failed .. => .inconclusive
  | .answer status _ => if Web.Status.isSuccess status then .ready else .refused

/-- What becomes of a link, nothing else going on. -/
def Verdict.outcome (l : Link) : Verdict → Link
  | .ready => { l with ready := true }
  | .refused => l.dropped
  | .inconclusive => l

theorem Link.greeted_snd (url model : String) (r : Response) (l : Link) :
    (l.greeted url model r).2 = r.verdict.outcome l := by
  cases r with
  | answer status body =>
    by_cases h : Web.Status.isSuccess status = true <;>
      simp [greeted, Response.verdict, Verdict.outcome, h]
  | broken reason => rfl
  | failed cause foreseen => rfl

/-! ## Turns -/

/-- A link, and how many of the calls that share it wait for what. -/
structure Sharing where
  link : Link := {}
  /-- The client that is there is closed, or is being closed. -/
  closed : Bool := false
  /-- Greetings that are not answered yet. -/
  greetings : Nat := 0
  /-- Closings of clients that have not come to their end. -/
  closings : Nat := 0
deriving DecidableEq, Repr

/-- What a call does between two waits. -/
inductive Turn
  /-- It finds the link not ready, makes a client and sends a greeting. -/
  | greet
  /-- Its greeting is answered. -/
  | answered (v : Verdict)
  /-- The client that it has given up is closed. -/
  | gone
deriving DecidableEq, Repr

/-- The turn takes the client away that is there. -/
def Turn.GivesUp (t : Turn) : Prop := t = .answered .refused ∨ t = .gone

namespace Sharing

/-- There is a client, and it can be used. -/
def Alive (s : Sharing) : Prop := s.link.connected = true ∧ s.closed = false

/-- The link counts as ready and has no client that can be used. -/
def Lost (s : Sharing) : Prop := s.link.ready = true ∧ ¬ s.Alive

/-- Takes a turn, if there is a call that can. -/
def step (s : Sharing) : Turn → Option Sharing
  | .greet =>
    if s.link.ready then none
    else some { s with link := s.link.opened, closed := false, greetings := s.greetings + 1 }
  | .answered v =>
    if s.greetings = 0 then none
    else
      let s := { s with greetings := s.greetings - 1 }
      match v with
      | .ready => some { s with link := { s.link with ready := true } }
      | .refused =>
        some (if s.link.connected then { s with closed := true, closings := s.closings + 1 } else s)
      | .inconclusive => some s
  | .gone =>
    if s.closings = 0 then none
    else some { s with link := s.link.dropped, closed := false, closings := s.closings - 1 }

def run (s : Sharing) (ts : List Turn) : Option Sharing := ts.foldlM step s

variable {s s' : Sharing} {t : Turn} {ts : List Turn}

theorem run_concat_iff :
    s.run (ts ++ [t]) = some s' ↔ ∃ m, s.run ts = some m ∧ m.step t = some s' := by
  rw [run, List.foldlM_append]
  simp [run, Option.bind_eq_some_iff]

/-- The turns of a call that greets, nothing else going on. -/
theorem run_greeting {l : Link} (hl : l.ready = false) (v : Verdict) :
    run { link := l } (.greet :: .answered v :: if v = .refused then [.gone] else []) =
      some { link := v.outcome l.opened } := by
  obtain ⟨connected, ready⟩ := l
  cases hl
  cases v <;> rfl

/-! ### One turn -/

/-- What there is to say of a turn: which calls wait for it, and what it leaves. -/
theorem step_cases (h : s.step t = some s') :
    (t = .greet ∧ s.link.ready = false ∧
      s' = { s with link := s.link.opened, closed := false, greetings := s.greetings + 1 }) ∨
    (t = .answered .ready ∧ 0 < s.greetings ∧
      s' = { s with link := { s.link with ready := true }, greetings := s.greetings - 1 }) ∨
    (t = .answered .refused ∧ 0 < s.greetings ∧ s.link.connected = true ∧
      s' = { s with closed := true, greetings := s.greetings - 1, closings := s.closings + 1 }) ∨
    (t = .answered .refused ∧ 0 < s.greetings ∧ s.link.connected = false ∧
      s' = { s with greetings := s.greetings - 1 }) ∨
    (t = .answered .inconclusive ∧ 0 < s.greetings ∧
      s' = { s with greetings := s.greetings - 1 }) ∨
    (t = .gone ∧ 0 < s.closings ∧
      s' = { s with link := s.link.dropped, closed := false, closings := s.closings - 1 }) := by
  cases t with
  | greet =>
    obtain ⟨hr, h⟩ := Option.ite_none_left_eq_some.1 h
    exact .inl ⟨rfl, by simpa using hr, (Option.some.inj h).symm⟩
  | answered v =>
    obtain ⟨hg, h⟩ := Option.ite_none_left_eq_some.1 h
    have hg : 0 < s.greetings := Nat.pos_of_ne_zero hg
    cases v with
    | ready => exact .inr (.inl ⟨rfl, hg, (Option.some.inj h).symm⟩)
    | refused =>
      have h := (Option.some.inj h).symm
      by_cases hc : s.link.connected = true
      · exact .inr (.inr (.inl ⟨rfl, hg, hc, h.trans (if_pos hc)⟩))
      · exact .inr (.inr (.inr (.inl ⟨rfl, hg, by simpa using hc, h.trans (if_neg hc)⟩)))
    | inconclusive => exact .inr (.inr (.inr (.inr (.inl ⟨rfl, hg, (Option.some.inj h).symm⟩))))
  | gone =>
    obtain ⟨hc, h⟩ := Option.ite_none_left_eq_some.1 h
    exact .inr (.inr (.inr (.inr (.inr ⟨rfl, Nat.pos_of_ne_zero hc, (Option.some.inj h).symm⟩))))

/-- Only a good answer makes the link ready, and nothing takes that back. -/
theorem step_ready (h : s.step t = some s') :
    s'.link.ready = true ↔ s.link.ready = true ∨ t = .answered .ready := by
  obtain ⟨rfl, -, rfl⟩ | ⟨rfl, -, rfl⟩ | ⟨rfl, -, -, rfl⟩ | ⟨rfl, -, -, rfl⟩ | ⟨rfl, -, rfl⟩ |
    ⟨rfl, -, rfl⟩ := step_cases h <;> simp [Link.opened, Link.dropped]

/-- A greeting brings a client, and it is there until a call gives it up. -/
theorem step_alive (h : s.step t = some s') :
    s'.Alive ↔ t = .greet ∨ s.Alive ∧ ¬ t.GivesUp := by
  obtain ⟨rfl, -, rfl⟩ | ⟨rfl, -, rfl⟩ | ⟨rfl, -, -, rfl⟩ | ⟨rfl, -, hc, rfl⟩ | ⟨rfl, -, rfl⟩ |
    ⟨rfl, -, rfl⟩ := step_cases h <;> simp [Alive, Turn.GivesUp, Link.opened, Link.dropped, *]

/-! ### Runs -/

theorem ready_iff (h : run {} ts = some s) : s.link.ready = true ↔ .answered .ready ∈ ts := by
  induction ts using List.reverseRecOn generalizing s with
  | nil =>
    cases h
    simp
  | append_singleton ts t ih =>
    obtain ⟨m, hm, ht⟩ := run_concat_iff.1 h
    rw [step_ready ht, ih hm, List.mem_append, List.mem_singleton, eq_comm (a := t)]

/-- There is a client exactly if no call has given one up since the last greeting was sent. -/
theorem alive_iff (h : run {} ts = some s) :
    s.Alive ↔ ∃ before after, ts = before ++ .greet :: after ∧ ∀ t ∈ after, ¬ t.GivesUp := by
  induction ts using List.reverseRecOn generalizing s with
  | nil =>
    cases h
    simp [Alive]
  | append_singleton ts t ih =>
    obtain ⟨m, hm, ht⟩ := run_concat_iff.1 h
    rw [step_alive ht, ih hm]
    constructor
    · rintro (rfl | ⟨⟨before, after, rfl, hafter⟩, ht⟩)
      · exact ⟨ts, [], rfl, by simp⟩
      · refine ⟨before, after ++ [t], by simp, fun x hx => ?_⟩
        rcases List.mem_append.1 hx with hx | hx
        · exact hafter x hx
        · exact List.mem_singleton.1 hx ▸ ht
    · rintro ⟨before, after, heq, hafter⟩
      -- The last turn is the greeting, or it is one of those after the greeting.
      induction after using List.reverseRecOn with
      | nil => exact .inl (List.append_singleton_inj.1 heq).2
      | append_singleton after x =>
        rw [← List.cons_append, ← List.append_assoc] at heq
        obtain ⟨rfl, rfl⟩ := List.append_singleton_inj.1 heq
        exact .inr ⟨⟨before, after, rfl, fun y hy => hafter y (List.mem_append_left _ hy)⟩,
          hafter t (List.mem_append_right _ (List.mem_singleton_self t))⟩

/-- The link is ready and has lost its client exactly if some greeting was answered well, and
after the last one that was sent a call has given a client up. -/
theorem lost_iff (h : run {} ts = some s) :
    s.Lost ↔ .answered .ready ∈ ts ∧
      ∀ before after, ts = before ++ .greet :: after → ∃ t ∈ after, t.GivesUp := by
  rw [Lost, ready_iff h, alive_iff h]
  simp only [not_exists, not_and, not_forall, not_not, exists_prop]

/-- Two calls greet, and the second is refused after the first was answered well. -/
theorem lost_of_second_refused : ∃ s,
    run {} [.greet, .greet, .answered .ready, .answered .refused, .gone] = some s ∧ s.Lost ∧
      s.greetings = 0 ∧ s.closings = 0 :=
  ⟨{ link := { ready := true } }, rfl, ⟨rfl, by simp [Alive]⟩, rfl, rfl⟩

/-- A link that has lost its client does not get another. -/
theorem lost_run (h : s.run ts = some s') (hs : s.Lost) : s'.Lost := by
  induction ts using List.reverseRecOn generalizing s' with
  | nil =>
    cases h
    exact hs
  | append_singleton ts t ih =>
    obtain ⟨m, hm, ht⟩ := run_concat_iff.1 h
    obtain ⟨hready, halive⟩ := ih hm
    refine ⟨(step_ready ht).2 (.inl hready), fun h' => ?_⟩
    rcases (step_alive ht).1 h' with rfl | ⟨h', -⟩
    · simp [step, hready] at ht
    · exact halive h'

/-! ### One call at a time -/

/-- One call at most waits, none does once the link is ready, and the client of a greeting is
there. -/
structure Orderly (s : Sharing) : Prop where
  single : s.greetings + s.closings ≤ 1
  greeting : 0 < s.greetings → s.Alive
  ready : s.link.ready = true → s.Alive ∧ s.greetings = 0 ∧ s.closings = 0

theorem Orderly.step (hs : s.Orderly) (h : s.step t = some s')
    (hserial : t = .greet → s.greetings = 0 ∧ s.closings = 0) : s'.Orderly := by
  obtain ⟨hsingle, hgreeting, hready⟩ := hs
  obtain ⟨rfl, hr, rfl⟩ | ⟨rfl, hg, rfl⟩ | ⟨rfl, hg, -, rfl⟩ | ⟨rfl, hg, hc, rfl⟩ | ⟨rfl, hg, rfl⟩ |
    ⟨rfl, hc, rfl⟩ := step_cases h
  · obtain ⟨h1, h2⟩ := hserial rfl
    exact ⟨by simp [h1, h2], fun _ => ⟨rfl, rfl⟩, fun h' => by simp [Link.opened, hr] at h'⟩
  · have hzero : s.greetings - 1 = 0 ∧ s.closings = 0 := by omega
    exact ⟨by simp [hzero], fun _ => hgreeting hg, fun _ => ⟨hgreeting hg, hzero⟩⟩
  · have hnot : s.link.ready ≠ true := fun h' => by have := hready h'; omega
    exact ⟨by dsimp only; omega, fun h' => by dsimp only at h'; omega, fun h' => absurd h' hnot⟩
  · exact absurd hc (by simp [(hgreeting hg).1])
  · have hnot : s.link.ready ≠ true := fun h' => by have := hready h'; omega
    exact ⟨by dsimp only; omega, fun _ => hgreeting hg, fun h' => absurd h' hnot⟩
  · have hnot : s.link.ready ≠ true := fun h' => by have := hready h'; omega
    exact ⟨by dsimp only; omega, fun h' => by dsimp only at h'; omega, fun h' => absurd h' hnot⟩

/-- If greetings are sent only while no other call waits, a link that is ready has its client. -/
theorem alive_of_serial (h : run {} ts = some s)
    (hserial : ∀ before after m, ts = before ++ .greet :: after → run {} before = some m →
      m.greetings = 0 ∧ m.closings = 0) : ¬ s.Lost := by
  suffices horderly : s.Orderly from fun hlost => hlost.2 (horderly.ready hlost.1).1
  induction ts using List.reverseRecOn generalizing s with
  | nil =>
    cases h
    exact ⟨by simp, by simp, by simp⟩
  | append_singleton ts t ih =>
    obtain ⟨m, hm, ht⟩ := run_concat_iff.1 h
    refine (ih hm fun before after m' heq => ?_).step ht fun hgreet => ?_
    · exact hserial before (after ++ [t]) m' (by simp [heq])
    · exact hserial ts [] m (by rw [hgreet]) hm

end Sharing

/-! ## Whole calls -/

namespace Client

variable {σ : Type} {c : Client σ} {s : Connection σ}

/-- A call that is alone makes the link ready by turns in a row. -/
theorem makeReady_run (c : Client σ) (s : Connection σ) :
    ∃ ts, Sharing.run { link := s.link } ts = some { link := (c.makeReady s).2.link } := by
  rw [makeReady]
  split
  · exact ⟨[], rfl⟩
  · next hready =>
    have hready : s.link.ready = false := by simpa using hready
    split
    · exact ⟨[], rfl⟩
    · next address _ =>
      have hlink : (c.post address greeting { s with link := s.link.opened }).2.link =
          s.link.opened := rfl
      generalize c.post address greeting { s with link := s.link.opened } = p at hlink ⊢
      obtain ⟨response, s'⟩ := p
      dsimp only at hlink ⊢
      split
      · exact ⟨_, hlink ▸ Sharing.run_greeting hready .inconclusive⟩
      · refine ⟨_, (Sharing.run_greeting hready response.verdict).trans ?_⟩
        rw [hlink, Link.greeted_snd]

/-- Over a link that has lost its client every call fails, without a request. -/
theorem embedText_of_lost (hready : s.link.ready = true) (hc : s.link.connected = false)
    (text : String) : c.embedText text s = (.error .missingOperation, s) := by
  have hmake : c.makeReady s = (.ok (), s) := by rw [makeReady, if_pos hready]
  rw [embedText, hmake]
  simp [ask, hc]

end Client

end CodeAtlas.Local
