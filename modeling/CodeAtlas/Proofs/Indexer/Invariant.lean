import CodeAtlas.Proofs.Indexer.Activity

/-!
# What holds however operations interleave

`Activity.Sound` is what every move preserves (`Sound.step`), and so what holds after any moves from
a fresh index on (`sound_run`): the store holds a generation, tasks are sound, a build waits exactly
while the index knows of one, and stamps tell tasks and stored entries apart.
-/

namespace CodeAtlas

/-- The operations that wait fit the index and each other. -/
structure Activity.Sound (a : Activity) : Prop where
  store : IsGeneration a.index.store.entries a.index.store.generation
  call : ∀ n t, a.waiting n = some t → n < a.calls
  task : ∀ n t, a.waiting n = some t → t.Sound
  clock : ∀ n t, a.waiting n = some t → t.stamp < a.index.clock
  apart : ∀ m n t t', a.waiting m = some t → a.waiting n = some t' → t.stamp = t'.stamp → m = n
  past : ∀ p e, a.index.store.get? p = some e → e.stamp < a.index.clock
  stored : ∀ p e n t, a.index.store.get? p = some e → a.waiting n = some t → e.stamp ≠ t.stamp
  file : ∀ n purpose job, a.waiting n = some (.file purpose job) →
    job.generation ≤ a.index.store.generation
  build : ∀ n job, a.waiting n = some (.build job) →
    a.index.building = true ∧ job.generation = a.index.store.generation + 1
  building : a.index.building = true → ∃ n job, a.waiting n = some (.build job)
  one : ∀ m n job job', a.waiting m = some (.build job) → a.waiting n = some (.build job') → m = n

namespace Activity

variable {a : Activity} {n : Nat}

theorem fresh_sound (roots : List Path) : (fresh roots).Sound where
  store := .empty 0
  call _ _ h := by cases h
  task _ _ h := by cases h
  clock _ _ h := by cases h
  apart _ _ _ _ h := by cases h
  past _ _ h := by cases h
  stored _ _ _ _ h := by cases h
  file _ _ _ h := by cases h
  build _ _ h := by cases h
  building h := by cases h
  one _ _ _ _ h := by cases h

/-- What waits after a note is what is noted, or waited before with another call. -/
theorem note_waiting_eq_some {t : Option Task} {m : Nat} {t' : Task}
    (h : (a.note n t).waiting m = some t') :
    (m = n ∧ t = some t') ∨ (m ≠ n ∧ a.waiting m = some t') := by
  rw [note_waiting] at h
  split at h
  · next hm => exact .inl ⟨hm, h⟩
  · next hm => exact .inr ⟨hm, h⟩

namespace Sound

/-! ## Parts of a move -/

/-- Entries may be lost. -/
theorem pruned (H : a.Sound) {ix : Indexer} (h : a.index.Pruned ix) :
    Sound { a with index := ix } where
  store := by
    rw [h.generation]
    exact H.store.mono fun p e he => h.get? he
  call := H.call
  task := H.task
  clock n t ht := h.clock ▸ H.clock n t ht
  apart := H.apart
  past p e he := h.clock ▸ H.past p e (h.get? he)
  stored p e n t he := H.stored p e n t (h.get? he)
  file n purpose job ht := h.generation ▸ H.file n purpose job ht
  build n job ht := by
    rw [h.building, h.generation]
    exact H.build n job ht
  building hb := H.building (h.building ▸ hb)
  one := H.one

/-- What waits may go on with its work or be over, if a build waits on exactly while the index
knows of one. -/
theorem of_waiting (H : a.Sound) {waiting : Nat → Option Task} {building : Bool}
    (old : ∀ {m x}, waiting m = some x →
      ∃ y, a.waiting m = some y ∧ (x = y ∨ y.Continues x ∧ x.Sound))
    (hb : ∀ {m job}, waiting m = some (.build job) → building = true)
    (hn : building = true → ∃ m job, waiting m = some (.build job)) :
    Sound { a with index := { a.index with building }, waiting } := by
  have stamp : ∀ {m x}, waiting m = some x → ∃ y, a.waiting m = some y ∧ x.stamp = y.stamp := by
    intro m x hx
    obtain ⟨y, hy, rfl | ⟨hc, -⟩⟩ := old hx
    · exact ⟨x, hy, rfl⟩
    · exact ⟨y, hy, hc.stamp⟩
  have build : ∀ {m job}, waiting m = some (.build job) →
      ∃ job', a.waiting m = some (.build job') ∧ job'.generation = job.generation := by
    intro m job hx
    obtain ⟨y, hy, rfl | ⟨hc, -⟩⟩ := old hx
    · exact ⟨job, hy, rfl⟩
    · cases hc with
      | build job' stage => exact ⟨job', hy, rfl⟩
  constructor
  case store => exact H.store
  case past => exact H.past
  case building => exact hn
  case call =>
    intro m x hx
    obtain ⟨y, hy, -⟩ := old hx
    exact H.call m y hy
  case task =>
    intro m x hx
    obtain ⟨y, hy, rfl | ⟨-, hs⟩⟩ := old hx
    · exact H.task m x hy
    · exact hs
  case clock =>
    intro m x hx
    obtain ⟨y, hy, he⟩ := stamp hx
    exact he ▸ H.clock m y hy
  case apart =>
    intro m m' x x' hx hx' heq
    obtain ⟨y, hy, he⟩ := stamp hx
    obtain ⟨y', hy', he'⟩ := stamp hx'
    exact H.apart m m' y y' hy hy' (he.symm.trans (heq.trans he'))
  case stored =>
    intro p e m x he hx
    obtain ⟨y, hy, hk⟩ := stamp hx
    exact hk ▸ H.stored p e m y he hy
  case file =>
    intro m purpose job hx
    obtain ⟨y, hy, rfl | ⟨hc, -⟩⟩ := old hx
    · exact H.file m purpose job hy
    · cases hc with
      | file purpose job stage => exact H.file m purpose job hy
  case build =>
    intro m job hx
    obtain ⟨job', hy, hg⟩ := build hx
    exact ⟨hb hx, hg ▸ (H.build m job' hy).2⟩
  case one =>
    intro m m' job job' hx hx'
    obtain ⟨_, hy, -⟩ := build hx
    obtain ⟨_, hy', -⟩ := build hx'
    exact H.one m m' _ _ hy hy'

/-- What waits when a call is over has waited before. -/
theorem of_note_none {m : Nat} {t : Task} (h : (a.note n none).waiting m = some t) :
    m ≠ n ∧ a.waiting m = some t := by
  rcases note_waiting_eq_some h with ⟨-, h⟩ | h
  · cases h
  · exact h

/-- A call is over that is no build. -/
theorem release (H : a.Sound) (hn : ∀ job, a.waiting n ≠ some (.build job)) :
    (a.note n none).Sound := by
  refine H.of_waiting (fun h => ⟨_, (of_note_none h).2, .inl rfl⟩)
    (fun h => (H.build _ _ (of_note_none h).2).1) fun hb => ?_
  obtain ⟨m, job, hm⟩ := H.building hb
  refine ⟨m, job, ?_⟩
  rw [if_neg]
  · exact hm
  · rintro rfl
    exact hn job hm

/-- A task has more work done. -/
theorem working (H : a.Sound) {t t' : Task} (ht : a.waiting n = some t) (h : t.Continues t')
    (hs : t'.Sound) : (a.note n (some t')).Sound := by
  refine H.of_waiting (fun {m x} hx => ?_) (fun {m job} hx => ?_) fun hb => ?_
  · rcases note_waiting_eq_some hx with ⟨hm, ht'⟩ | ⟨-, hx⟩
    · cases ht'
      exact ⟨t, hm ▸ ht, .inr ⟨h, hs⟩⟩
    · exact ⟨x, hx, .inl rfl⟩
  · rcases note_waiting_eq_some hx with ⟨-, ht'⟩ | ⟨-, hx⟩
    · cases ht'
      cases h with
      | build job' stage => exact (H.build _ _ ht).1
    · exact (H.build m job hx).1
  · obtain ⟨m, job, hm⟩ := H.building hb
    by_cases hmn : m = n
    · subst hmn
      rw [ht] at hm
      cases hm
      cases h with
      | build job stage => exact ⟨m, _, if_pos rfl⟩
    · exact ⟨m, job, (if_neg hmn).trans hm⟩

/-- A build ends. -/
theorem ended (H : a.Sound) {job : BuildJob} (ht : a.waiting n = some (.build job)) :
    (note { a with index := { a.index with building := false } } n none).Sound := by
  refine H.of_waiting (fun h => ⟨_, (of_note_none h).2, .inl rfl⟩) (fun {m job'} h => ?_) nofun
  -- No other build waits.
  obtain ⟨hm, h⟩ := of_note_none h
  exact absurd (H.one m n job' job h ht) hm

/-- A task begins: either the index stays as it is and a file is taken in, or a build begins while
none is going on. -/
theorem enter (H : a.Sound) (hn : n < a.calls) (ht : a.waiting n = none) (building : Bool)
    {t : Task} (hs : t.Sound) (hk : t.stamp = a.index.clock)
    (hf : ∀ purpose job, t = .file purpose job →
      building = a.index.building ∧ job.generation ≤ a.index.store.generation)
    (hb : ∀ job, t = .build job → building = true ∧ a.index.building = false ∧
      job.generation = a.index.store.generation + 1) :
    (note { a with index := { a.index with building, clock := a.index.clock + 1 } } n
      (some t)).Sound := by
  have cases : ∀ {m x}, (note { a with index := { a.index with
        building, clock := a.index.clock + 1 } } n (some t)).waiting m = some x →
      (m = n ∧ t = x) ∨ a.waiting m = some x := by
    intro m x h
    rcases note_waiting_eq_some h with ⟨hm, h⟩ | ⟨-, h⟩
    · exact .inl ⟨hm, Option.some.inj h⟩
    · exact .inr h
  have others : ∀ {m x}, a.waiting m = some x → m ≠ n := by
    rintro m x h rfl
    rw [ht] at h
    cases h
  constructor
  case store => exact H.store
  case call =>
    intro m x h
    rcases cases h with ⟨rfl, -⟩ | h
    · exact hn
    · exact H.call m x h
  case task =>
    intro m x h
    rcases cases h with ⟨-, rfl⟩ | h
    · exact hs
    · exact H.task m x h
  case clock =>
    intro m x h
    rcases cases h with ⟨-, rfl⟩ | h
    · exact hk ▸ Nat.lt_succ_self _
    · exact Nat.lt_succ_of_lt (H.clock m x h)
  case apart =>
    intro m m' x x' h h' he
    rcases cases h with ⟨hm, rfl⟩ | h <;> rcases cases h' with ⟨hm', rfl⟩ | h'
    · exact hm.trans hm'.symm
    · exact absurd (he.symm.trans hk) (Nat.ne_of_lt (H.clock m' x' h'))
    · exact absurd (he.trans hk) (Nat.ne_of_lt (H.clock m x h))
    · exact H.apart m m' x x' h h' he
  case past =>
    intro p e he
    exact Nat.lt_succ_of_lt (H.past p e he)
  case stored =>
    intro p e m x he h
    rcases cases h with ⟨-, rfl⟩ | h
    · exact hk ▸ Nat.ne_of_lt (H.past p e he)
    · exact H.stored p e m x he h
  case file =>
    intro m purpose job h
    rcases cases h with ⟨-, h⟩ | h
    · exact (hf purpose job h).2
    · exact H.file m purpose job h
  case build =>
    intro m job h
    rcases cases h with ⟨-, h⟩ | h
    · obtain ⟨hb, -, hg⟩ := hb job h
      exact ⟨hb, hg⟩
    · obtain ⟨hbuild, hg⟩ := H.build m job h
      refine ⟨?_, hg⟩
      cases t with
      | file purpose job' => exact (hf purpose job' rfl).1.trans hbuild
      | build job' => exact (hb job' rfl).1
  case building =>
    intro hbuild
    cases t with
    | file purpose job =>
      obtain ⟨m, job', hm⟩ := H.building ((hf purpose job rfl).1.symm.trans hbuild)
      exact ⟨m, job', (if_neg (others hm)).trans hm⟩
    | build job => exact ⟨n, job, if_pos rfl⟩
  case one =>
    intro m m' job job' h h'
    -- A build that begins finds no other one waiting.
    have first : ∀ {m job job'}, t = .build job → a.waiting m ≠ some (.build job') := by
      intro m job job' h h'
      rw [(H.build m job' h').1] at hb
      exact absurd (hb job h).2.1 (by simp)
    rcases cases h with ⟨hm, h⟩ | h <;> rcases cases h' with ⟨hm', h'⟩ | h'
    · exact hm.trans hm'.symm
    · exact absurd h' (first h)
    · exact absurd h (first h')
    · exact H.one m m' job job' h h'

/-- A file is taken in. -/
theorem takeIn (H : a.Sound) (hn : n < a.calls) (ht : a.waiting n = none) (purpose : Purpose)
    (path : Path) :
    (note { a with index := (a.index.takeIn path).2 } n
      (some (.file purpose (a.index.takeIn path).1))).Sound := by
  refine H.enter hn ht a.index.building (a.index.takeIn_sound purpose path) rfl ?_ ?_
  · intro purpose' job h
    rw [← (Task.file.inj h).2]
    exact ⟨rfl, Int.le_refl _⟩
  · intro job h
    exact Task.noConfusion h

/-- An entry is stored that no task is about to make. -/
theorem put (H : a.Sound) {e : Entry} (hs : e.Sound) (hr : e.references = [])
    (hk : e.stamp < a.index.clock) (hw : ∀ m t, a.waiting m = some t → e.stamp ≠ t.stamp) :
    Sound { a with index := { a.index with store := a.index.store.put e } } := by
  have cases : ∀ {p e'}, (a.index.store.put e).get? p = some e' →
      e'.stamp = e.stamp ∨ a.index.store.get? p = some e' := by
    intro p e' h
    simp only [Store.get?, Store.put, Table.find?_insert] at h
    split at h
    · cases h
      exact .inl rfl
    · exact .inr h
  refine { H with store := IsGeneration.put H.store hs hr, past := ?_, stored := ?_ }
  · intro p e' he
    rcases cases he with he | he
    · exact he ▸ hk
    · exact H.past p e' he
  · intro p e' m t he ht
    rcases cases he with he | he
    · exact he ▸ hw m t ht
    · exact H.stored p e' m t he ht

/-- An operation goes on to its next file or is over. -/
theorem onward (H : a.Sound) (hn : n < a.calls) (ht : a.waiting n = none) {standing : Standing}
    {ix : Indexer} (h : Indexer.Onward a.index standing ix) :
    (note { a with index := ix } n standing.task?).Sound := by
  cases h with
  | finished r h => exact (H.pruned h).release fun job hj => by simp [ht] at hj
  | waiting purpose path h => exact (H.pruned h).takeIn hn ht purpose path

/-- No build waits while none is going on. -/
theorem not_build (H : a.Sound) (hb : a.index.building = false) (m : Nat) (job : BuildJob) :
    a.waiting m ≠ some (.build job) := by
  intro h
  rw [(H.build m job h).1] at hb
  cases hb

/-- The store is emptied while no build is going on. -/
theorem clear (H : a.Sound) (hb : a.index.building = false) (notified : List Error) :
    Sound { a with index := { a.index with store := a.index.store.clear, notified } } := by
  have none : ∀ p e, a.index.store.clear.get? p ≠ some e := by
    simp [Store.get?, Store.clear, Table.find?_empty]
  refine { H with store := .empty _, past := ?_, stored := ?_, file := ?_, build := ?_ }
  · intro p e he
    exact absurd he (none p e)
  · intro p e m t he
    exact absurd he (none p e)
  · intro m purpose job h
    have := H.file m purpose job h
    simp only [Store.clear]
    omega
  · intro m job h
    exact absurd h (H.not_build hb m job)

/-- A generation is installed that no task is about to add to. -/
theorem install (H : a.Sound) (hb : a.index.building = false) {p : Prepared} {n : Int} {stamp : Nat}
    (hg : IsGeneration p.entries n) (hn : n = a.index.store.generation + 1)
    (hk : ∀ q e, p.entries.find? q = some e → e.stamp = stamp) (hc : stamp < a.index.clock)
    (hw : ∀ m t, a.waiting m = some t → stamp ≠ t.stamp) (report : Option BuildReport) :
    Sound { a with index := { a.index with
      store := .install p.entries n, lastReport := report } } := by
  have installed : ∀ {q e}, (Store.install p.entries n).get? q = some e → e.stamp = stamp := by
    intro q e he
    rw [Store.get?, hg.install] at he
    exact hk q e he
  refine { H with store := ?_, past := ?_, stored := ?_, file := ?_, build := ?_ }
  · rw [hg.install]
    exact hg
  · intro q e he
    exact installed he ▸ hc
  · intro q e m t he ht
    exact installed he ▸ hw m t ht
  · intro m purpose job h
    have := H.file m purpose job h
    simp only [Store.install]
    omega
  · intro m job h
    exact absurd h (H.not_build hb m job)

/-! ## Moves -/

variable {σ : Type} {u : Setup σ}

theorem calls (H : a.Sound) : a.waiting a.calls = none := by
  cases h : a.waiting a.calls with
  | none => rfl
  | some t => exact absurd (H.call _ t h) (Nat.lt_irrefl _)

/-- A call may be counted. -/
theorem called (H : a.Sound) : Sound { a with calls := a.calls + 1 } :=
  { H with call := fun n t h => Nat.lt_succ_of_lt (H.call n t h) }

/-- A build is entered, or ends at once. -/
theorem entered (H : a.Sound) (hn : n < a.calls) (ht : a.waiting n = none)
    (hb : a.index.building = false) {fs : FileSystem} {standing : Standing} {ix : Indexer}
    (h : Indexer.Entered u fs a.index standing ix) :
    (note { a with index := ix } n standing.task?).Sound := by
  have hover : ∀ job, a.waiting n ≠ some (.build job) := fun job h => by simp [ht] at h
  cases h with
  | failed filters h => exact (H.pruned (.filters a.index filters)).release hover
  | rootless h => exact (H.clear hb _).release hover
  | begun filters roots found hr hd =>
    have hs : (Task.build ⟨roots, found, a.index.store.nextGeneration, a.index.clock,
      .reading found.files []⟩).Sound := BuildJob.Sound.of_found ..
    refine (H.pruned (.filters a.index filters)).enter hn ht true hs rfl ?_ ?_
    · intro purpose job h
      exact Task.noConfusion h
    · intro job h
      rw [← Task.build.inj h]
      exact ⟨rfl, hb, rfl⟩

/-- A task goes on or ends. -/
theorem resumed (H : a.Sound) {t : Task} (ht : a.waiting n = some t) {standing : Standing}
    {ix : Indexer} (h : Indexer.Resumed a.index t standing ix) :
    (note { a with index := ix } n standing.task?).Sound := by
  have hn := H.call n t ht
  -- The call is over, and then perhaps goes on to its next file.
  have released : ∀ {purpose job}, t = .file purpose job → (a.note n none).Sound := by
    rintro purpose job rfl
    exact H.release fun job h => by simp [ht] at h
  have further : ∀ {b : Activity} {standing ix}, b.Sound → b.waiting = (a.note n none).waiting →
      b.calls = a.calls → Indexer.Onward b.index standing ix →
      (note { a with index := ix } n standing.task?).Sound := by
    intro b standing ix hb hw hc ho
    have hs := hb.onward (hc ▸ hn) (hw ▸ if_pos rfl) ho
    have he : note { b with index := ix } n standing.task? =
        note { a with index := ix } n standing.task? := by
      rw [← note_note { a with index := ix } n none, note, note, hw, hc]
      rfl
    exact he ▸ hs
  cases h with
  | working h hs => exact H.working ht h hs
  | failed e => exact released rfl
  | late r hb => exact released rfl
  | outdated hb hg h => exact further (released rfl) rfl rfl h
  | kept e hb hg he h =>
    have hk := H.clock n _ ht
    refine further ((released rfl).put he.sound he.references (he.stamp ▸ hk) ?_) rfl rfl h
    intro m t' ht' heq
    obtain ⟨hm, h⟩ := of_note_none ht'
    exact hm (H.apart n m _ t' ht h (he.stamp.symm.trans heq)).symm
  | unbuilt h => exact H.ended ht
  | built p h =>
    refine (H.ended ht).install rfl h.generation (H.build n _ ht).2 h.stamp (H.clock n _ ht) ?_ _
    intro m t' ht' heq
    obtain ⟨hm, h⟩ := of_note_none ht'
    exact hm (H.apart n m _ t' ht h heq).symm

/-- Every move preserves what `Sound` says. -/
theorem step (H : a.Sound) (m : Move σ) : (a.step u m).2.Sound := by
  cases m with
  | call op fs =>
    have hn : a.calls < a.calls + 1 := Nat.lt_succ_self _
    have hw := H.calls
    rw [step_call]
    cases hb : a.index.building with
    | true =>
      rw [Indexer.start_busy hb]
      exact H.called.release fun job h => by simp [hw] at h
    | false =>
      by_cases hop : op = .build
      · subst hop
        exact H.called.entered hn hw hb (Indexer.start_entered u fs hb)
      · exact H.called.onward hn hw (Indexer.start_onward u fs hop hb)
  | resume n fs s =>
    cases hn : a.waiting n with
    | none =>
      rw [step_resume_none u hn]
      exact H
    | some t =>
      rw [step_resume u hn]
      exact H.resumed hn (Indexer.resume_resumed u fs (H.task n t hn) s)

theorem run (H : a.Sound) (ms : List (Move σ)) : (a.run u ms).Sound := by
  induction ms generalizing a with
  | nil => exact H
  | cons m ms ih => exact ih (H.step m)

end Sound

/-- What `Sound` says holds after any moves from a fresh index on. -/
theorem sound_run {σ : Type} (u : Setup σ) (roots : List Path) (ms : List (Move σ)) :
    ((fresh roots).run u ms).Sound := (fresh_sound roots).run ms

/-- Whatever operations have been called, and however they have interleaved: entries lie under
their paths, symbols in their slots, and references at their targets; so handles of what is stored
lead back to it. -/
theorem store_run {σ : Type} (u : Setup σ) (roots : List Path) (ms : List (Move σ)) :
    let s := ((fresh roots).run u ms).index.store
    (∀ p e, s.get? p = some e →
      e.path = p ∧ e.generation = s.generation ∧
        (∀ (i : Nat) x, e.symbols[i]? = some x → x.slot = i ∧ x.file = e.path) ∧
        (e.parseError.isSome = true → e.symbols = []) ∧
        ∀ x ∈ e.symbols, ∀ r ∈ x.references, r.target = x.handle ∧ r.generation = s.generation) ∧
      (∀ x ∈ s.symbols, s.resolve x.handle (some s.generation) = .ok x) ∧
      ∀ path p h, s.handleAtStart? path p = some h →
        ∃ x, s.resolve h (some s.generation) = .ok x ∧ x.range.start = p := by
  intro s
  have hg : IsGeneration s.entries s.generation := (sound_run u roots ms).store
  refine ⟨fun p e he => ?_, fun x hx => ?_, fun path p h hh => hg.resolve_handleAtStart hh⟩
  · have hs := hg.sound p e he
    have hn := hg.generation p e he
    refine ⟨hg.path p e he, hn, fun i x hx => ?_, hs.faulty, fun x hx r hr => ?_⟩
    · exact ⟨hs.slot i x hx, hs.file x (List.mem_of_getElem? hx)⟩
    · exact ⟨hs.target x hx r hr, (hs.generation x hx r hr).trans hn⟩
  · obtain ⟨e, he, hx⟩ := List.mem_flatMap.1 hx
    obtain ⟨p, hp⟩ := Table.mem_values.1 he
    exact hg.resolve_handle hp hx

end Activity
end CodeAtlas
