import CodeAtlas.Proofs.Files.Paths
import CodeAtlas.Proofs.Indexer.Definitions
import CodeAtlas.Proofs.Indexer.Isolation
import CodeAtlas.Proofs.Indexer.Tracking

/-!
# Updates and removals that interleave

Updates and removals of files may run beside each other. Each of them writes under a path at most
once: a removal, or an update that finds the file gone, when it is called, and any other update in its
last step (`Activity.write?`). The store keeps what was written last (`Activity.get?_run`), whichever
call wrote it: so the call that was made last has the last word exactly if it is the last one to write
(`Activity.latest_edit_iff`). An update that is overtaken by a removal brings the file back
(`Activity.overtaken_resurrects`).
-/

namespace CodeAtlas

/-- The operation updates or removes one file. -/
def Operation.IsEdit : Operation → Prop
  | update _ => True
  | remove _ => True
  | _ => False

/-- The move calls an update or a removal, or lets an operation go on. -/
def Move.IsEdit {σ : Type} : Move σ → Prop
  | call op _ => op.IsEdit
  | resume .. => True

namespace Indexer

variable {σ : Type} {u : Setup σ} {fs : FileSystem} {ix : Indexer} {q : Path}

/-- The operation is an edit of the file at a normalised path that takes part in the index. -/
def concerns (u : Setup σ) (fs : FileSystem) (q : Path) (ix : Indexer) : Operation → Bool
  | .remove p => (ix.normalize fs p).toOption = some q
  | .update p => (ix.normalize fs p).toOption = some q ∧ (ix.tracks u fs q).1.toOption = some true
  | _ => false

/-- The operation takes the file out of the index at once. -/
def drops (u : Setup σ) (fs : FileSystem) (q : Path) (ix : Indexer) (op : Operation) : Bool :=
  ix.concerns u fs q op && match op with
    | .update _ => !fs.isFile q
    | _ => true

theorem get?_forget (p : Path) : (ix.forget p).2.store.get? q.toText =
    if p = q then none else ix.store.get? q.toText := by
  simp only [forget, Store.get?, Store.remove, Table.find?_erase]
  by_cases h : p = q
  · simp [h]
  · rw [if_neg h, if_neg fun heq => h (Path.toText_inj heq).symm]

theorem toOption_eq_some {ε α : Type} {r : Except ε α} {a : α} :
    r.toOption = some a ↔ r = .ok a := by
  cases r <;> simp [Except.toOption]

theorem get?_beginUpdate (hb : ix.building = false) (p : Path) :
    (ix.beginUpdate u fs p).2.store.get? q.toText =
      if ix.drops u fs q (.update p) then none else ix.store.get? q.toText := by
  simp only [drops, concerns, toOption_eq_some]
  cases hbegin : ix.beginUpdate u fs p with
  | mk r ix' =>
    cases beginUpdate_begun hb hbegin with
    | unnamed hn => simp [hn]
    | @untold p' _ _ hn ht | @untracked p' _ hn ht =>
      by_cases hpq : p' = q
      · subst hpq
        simp [ht]
      · simp [hn, hpq]
    | @gone p' _ hn ht hf =>
      by_cases hpq : p' = q
      · subst hpq
        simp [hn, ht, hf, get?_forget]
      · simp [hn, hpq, get?_forget]
    | @taken p' _ hn ht hf =>
      by_cases hpq : p' = q
      · subst hpq
        simp [hf, takeIn]
      · simp [hn, hpq, takeIn]

theorem get?_start {op : Operation} (hop : op.IsEdit) (hb : ix.building = false) :
    (ix.start u fs op).2.store.get? q.toText =
      if ix.drops u fs q op then none else ix.store.get? q.toText := by
  cases op with
  | update p =>
    rw [← get?_beginUpdate hb, start]
    split <;> next h => rw [h]
  | remove p =>
    simp only [drops, concerns, toOption_eq_some]
    rw [start, if_neg (by simp [hb])]
    cases hn : ix.normalize fs p with
    | error e => simp
    | ok p' => by_cases hpq : p' = q <;> simp [hpq, get?_forget]
  | _ => exact absurd hop id

/-- What waits after an edit is called: the work on a file that was found. -/
theorem start_edit_waiting (hb : ix.building = false) {op : Operation} (hop : op.IsEdit) {t : Task}
    {ix' : Indexer} (h : ix.start u fs op = (.waiting t, ix')) :
    ∃ job, t = .file .single job ∧ job.stage = .begun ∧
      job.generation = ix.store.generation ∧ fs.isFile job.path = true ∧
      ∃ p, op = .update p ∧ ix.normalize fs p = .ok job.path := by
  cases op with
  | update p =>
    rw [start] at h
    cases hbegin : ix.beginUpdate u fs p with
    | mk r ix₁ =>
      rw [hbegin] at h
      cases beginUpdate_begun hb hbegin with
      | unnamed | untold | untracked | gone => cases h
      | taken hn ht hf =>
        cases h
        exact ⟨_, rfl, rfl, rfl, hf, p, rfl, hn⟩
  | remove p =>
    rw [start, if_neg (by simp [hb])] at h
    split at h <;> cases h
  | _ => exact absurd hop id

/-- An update of a file that takes part in the index, and is there, waits with it. -/
theorem start_update (hb : ix.building = false) {p : Path}
    (hc : ix.concerns u fs q (.update p) = true) (hfile : fs.isFile q = true) :
    ∃ job, (ix.start u fs (.update p)).1 = .waiting (.file .single job) ∧ job.path = q ∧
      job.stage = .begun := by
  simp only [concerns, toOption_eq_some, decide_eq_true_eq] at hc
  obtain ⟨hn, ht⟩ := hc
  rw [start]
  cases hbegin : ix.beginUpdate u fs p with
  | mk r ix₁ =>
    -- Of what an update can do at first, only this fits the file.
    cases beginUpdate_begun hb hbegin with
    | unnamed hn' => simp [hn] at hn'
    | untold hn' ht' | untracked hn' ht' =>
      obtain rfl := Except.ok.inj (hn.symm.trans hn')
      simp [ht'] at ht
    | gone hn' ht' hf =>
      obtain rfl := Except.ok.inj (hn.symm.trans hn')
      simp [hfile] at hf
    | taken hn' ht' hf =>
      obtain rfl := Except.ok.inj (hn.symm.trans hn')
      exact ⟨_, rfl, rfl, rfl⟩

theorem start_drops (hb : ix.building = false) {op : Operation} (hd : ix.drops u fs q op = true) :
    (ix.start u fs op).1.task? = none := by
  have hop : op.IsEdit := by
    cases op <;> trivial
  cases hstart : ix.start u fs op with
  | mk standing ix' =>
    cases standing with
    | finished r => rfl
    | waiting t =>
      obtain ⟨job, -, -, -, hfile, p, rfl, hn⟩ := start_edit_waiting hb hop hstart
      simp only [drops, concerns, toOption_eq_some, hn, Except.ok.injEq, Bool.and_eq_true,
        decide_eq_true_eq, Bool.not_eq_true'] at hd
      obtain ⟨⟨rfl, -⟩, hgone⟩ := hd
      rw [hfile] at hgone
      cases hgone

end Indexer

namespace Activity

variable {σ : Type} {u : Setup σ} {a : Activity} {q : Path}

/-! ## What waits after a move -/

theorem waiting_call (op : Operation) (fs : FileSystem) (m : Nat) :
    (a.step u (.call op fs)).2.waiting m =
      if m = a.calls then (a.index.start u fs op).1.task? else a.waiting m := rfl

theorem waiting_resume {n : Nat} {t : Task} (hn : a.waiting n = some t) (fs : FileSystem) (x : σ)
    (m : Nat) : (a.step u (.resume n fs x)).2.waiting m =
      if m = n then (a.index.resume u fs t x).1.task? else a.waiting m := by
  rw [step_resume u hn]
  rfl

/-- What waits after a move has waited before, unless it was called or has gone on in the move. -/
theorem waiting_cases {m : Move σ} {n : Nat} {t : Task} (h : (a.step u m).2.waiting n = some t) :
    a.waiting n = some t ∨
      (∃ op fs, m = .call op fs ∧ n = a.calls ∧
        (a.index.start u fs op).1 = .waiting t) ∨
      ∃ fs x t', m = .resume n fs x ∧ a.waiting n = some t' ∧
        (a.index.resume u fs t' x).1 = .waiting t := by
  have told : ∀ {standing : Standing}, standing.task? = some t → standing = .waiting t := by
    intro standing hs
    cases standing with
    | finished r => cases hs
    | waiting t' => rw [Option.some.inj hs]
  cases m with
  | call op fs =>
    rcases note_waiting_eq_some h with ⟨hn, ht⟩ | ⟨-, ht⟩
    · exact .inr (.inl ⟨op, fs, rfl, hn, told ht⟩)
    · exact .inl ht
  | resume k fs x =>
    cases hk : a.waiting k with
    | none =>
      rw [step_resume_none u hk] at h
      exact .inl h
    | some t' =>
      rw [step_resume u hk] at h
      rcases note_waiting_eq_some h with ⟨rfl, ht⟩ | ⟨-, ht⟩
      · exact .inr (.inr ⟨fs, x, t', rfl, hk, told ht⟩)
      · exact .inl ht

/-! ## What the moves write -/

/-- What a move writes under a path: the number of the call that does it, and the entry, or nothing
where it takes the file out of the index. -/
def write? (u : Setup σ) (q : Path) (a : Activity) : Move σ → Option (Nat × Option Entry)
  | .call op fs => if a.index.drops u fs q op then some (a.calls, none) else none
  | .resume n _ _ =>
    match a.waiting n with
    | some (.file .single ⟨path, _, _, .embedded (.ok e)⟩) =>
      if path = q then some (n, some e) else none
    | _ => none

/-- What the moves write under a path, one after the other. -/
def writes (u : Setup σ) (q : Path) (a : Activity) : List (Move σ) → List (Nat × Option Entry)
  | [] => []
  | m :: ms => (a.write? u q m).toList ++ writes u q (a.step u m).2 ms

theorem writes_append (ms ms' : List (Move σ)) :
    a.writes u q (ms ++ ms') = a.writes u q ms ++ (a.run u ms).writes u q ms' := by
  induction ms generalizing a with
  | nil => rfl
  | cons m ms ih => rw [List.cons_append, writes, ih, writes, List.append_assoc, run_cons]

/-- No build is going on, and what waits is the work on single files that was begun in the
generation of the store. -/
structure Quiet (a : Activity) : Prop where
  sound : a.Sound
  building : a.index.building = false
  task : ∀ n t, a.waiting n = some t →
    ∃ job, t = .file .single job ∧ job.generation = a.index.store.generation

theorem Sound.quiet (H : a.Sound) (hw : ∀ n, a.waiting n = none) : a.Quiet := by
  refine ⟨H, ?_, fun n t ht => ?_⟩
  · cases hb : a.index.building with
    | false => rfl
    | true =>
      obtain ⟨n, job, hn⟩ := H.building hb
      rw [hw] at hn
      cases hn
  · rw [hw] at ht
    cases ht

namespace Quiet

/-- The last step of an update that no build has come between. -/
theorem resume_embedded (Q : a.Quiet) {n : Nat} {job : FileJob} {e : Entry}
    (hn : a.waiting n = some (.file .single job)) (hs : job.stage = .embedded (.ok e))
    (fs : FileSystem) (x : σ) :
    a.index.resume u fs (.file .single job) x =
      (.finished (.ok (.entry (some e))), { a.index with store := a.index.store.put e }, x) := by
  obtain ⟨job', hjob, hg⟩ := Q.task n _ hn
  cases hjob
  have hk : a.index.keep job e = (some e, { a.index with store := a.index.store.put e }) := by
    simp [Indexer.keep, Q.building, hg]
  simp only [Indexer.resume, hs, Indexer.settle, hk]

/-- The entry that an update makes is stored as it is. -/
theorem get?_put (Q : a.Quiet) {n : Nat} {job : FileJob} {e : Entry}
    (hn : a.waiting n = some (.file .single job)) (hs : job.stage = .embedded (.ok e)) :
    (a.index.store.put e).get? q.toText =
      if job.path = q then some e else a.index.store.get? q.toText := by
  obtain ⟨job', hjob, hg⟩ := Q.task n _ hn
  cases hjob
  have hsound : job.Sound := Q.sound.task n _ hn
  have he : e.TakenFrom job.path job.generation job.stamp := hsound.takenFrom hs
  have hput : ({ e with generation := a.index.store.generation } : Entry) = e := by
    rw [← hg, ← he.generation]
  rw [Store.get?, Store.put, hput, Table.find?_insert, he.path]
  by_cases h : job.path = q
  · simp [h]
  · rw [if_neg h, if_neg fun heq => h (Path.toText_inj heq).symm]
    rfl

/-- A move of an edit writes what `write?` says, and nothing else. -/
theorem get?_step (Q : a.Quiet) {m : Move σ} (hm : m.IsEdit) :
    (a.step u m).2.index.store.get? q.toText =
      ((a.write? u q m).map Prod.snd).getD (a.index.store.get? q.toText) := by
  cases m with
  | call op fs =>
    have hstart : (a.step u (.call op fs)).2.index = (a.index.start u fs op).2 := rfl
    rw [hstart, Indexer.get?_start hm Q.building, write?]
    split <;> rfl
  | resume n fs x =>
    cases hn : a.waiting n with
    | none => rw [step_resume_none u hn, write?, hn]; rfl
    | some t =>
      obtain ⟨⟨path, generation, stamp, stage⟩, rfl, -⟩ := Q.task n t hn
      rw [step_resume u hn, write?, hn]
      rcases stage with _ | e | ⟨e | e⟩
      · rfl
      · rfl
      · rfl
      · rw [Q.resume_embedded hn rfl]
        refine (Q.get?_put hn rfl).trans ?_
        dsimp only
        split <;> rfl

theorem resume_waiting (Q : a.Quiet) {n : Nat} {t t' : Task} (hn : a.waiting n = some t)
    {fs : FileSystem} {x : σ} (h : (a.index.resume u fs t x).1 = .waiting t') :
    ∃ job stage, t = .file .single job ∧ t' = .file .single { job with stage } := by
  obtain ⟨⟨path, generation, stamp, stage⟩, rfl, -⟩ := Q.task n t hn
  rcases stage with _ | e | ⟨e | e⟩
  · cases h
    exact ⟨_, _, rfl, rfl⟩
  · cases h
    exact ⟨_, _, rfl, rfl⟩
  · cases h
  · rw [Q.resume_embedded hn rfl] at h
    cases h

theorem building_step (Q : a.Quiet) {m : Move σ} (hm : m.IsEdit) :
    (a.step u m).2.index.building = false := by
  cases m with
  | call op fs =>
    have hop : op ≠ .build := by
      rintro rfl
      exact hm
    have h : a.index.Onward (a.index.start u fs op).1 (a.index.start u fs op).2 :=
      Indexer.start_onward u fs hop Q.building
    have hstart : (a.step u (.call op fs)).2.index = (a.index.start u fs op).2 := rfl
    rw [hstart]
    generalize (a.index.start u fs op).1 = standing at h
    generalize (a.index.start u fs op).2 = ix at h
    cases h with
    | finished r h => exact h.building.trans Q.building
    | waiting purpose path h => exact h.building.trans Q.building
  | resume n fs x =>
    cases hn : a.waiting n with
    | none =>
      rw [step_resume_none u hn]
      exact Q.building
    | some t =>
      obtain ⟨⟨path, generation, stamp, stage⟩, rfl, -⟩ := Q.task n t hn
      rw [step_resume u hn]
      rcases stage with _ | e | ⟨e | e⟩
      · exact Q.building
      · exact Q.building
      · exact Q.building
      · rw [Q.resume_embedded hn rfl]
        exact Q.building

theorem generation_step (Q : a.Quiet) {m : Move σ} (hm : m.IsEdit) :
    (a.step u m).2.index.store.generation = a.index.store.generation := by
  refine (step_generation Q.sound m).2 fun ⟨hbuild, _⟩ => ?_
  cases m with
  | call op fs =>
    obtain rfl : op = .build := hbuild
    exact hm
  | resume n fs x =>
    obtain ⟨job, hn⟩ := hbuild
    exact Q.sound.not_build Q.building n job hn

theorem step (Q : a.Quiet) {m : Move σ} (hm : m.IsEdit) : (a.step u m).2.Quiet := by
  refine ⟨Q.sound.step m, Q.building_step hm, fun n t ht => ?_⟩
  rw [Q.generation_step hm]
  rcases waiting_cases ht with hn | ⟨op, fs, rfl, -, hstart⟩ | ⟨fs, x, t', rfl, hn, hresume⟩
  · exact Q.task n t hn
  · obtain ⟨job, rfl, -, hg, -⟩ := Indexer.start_edit_waiting Q.building hm (Prod.ext hstart rfl)
    exact ⟨job, rfl, hg⟩
  · obtain ⟨job, stage, rfl, rfl⟩ := Q.resume_waiting hn hresume
    obtain ⟨job', hjob, hg⟩ := Q.task n _ hn
    cases hjob
    exact ⟨_, rfl, hg⟩

theorem run (Q : a.Quiet) {ms : List (Move σ)} (hms : ∀ m ∈ ms, m.IsEdit) :
    (a.run u ms).Quiet := by
  induction ms generalizing a with
  | nil => exact Q
  | cons m ms ih =>
    exact ih (Q.step (hms m List.mem_cons_self)) fun m' hm' => hms m' (List.mem_cons_of_mem _ hm')

/-- The store keeps what was written last. -/
theorem get?_run (Q : a.Quiet) {ms : List (Move σ)} (hms : ∀ m ∈ ms, m.IsEdit) :
    (a.run u ms).index.store.get? q.toText =
      ((a.writes u q ms).getLast?.map Prod.snd).getD (a.index.store.get? q.toText) := by
  -- What is written by a later move hides what the first move writes.
  induction ms generalizing a with
  | nil => rfl
  | cons m ms ih =>
    have hm := hms m List.mem_cons_self
    rw [run_cons, ih (Q.step hm) fun m' hm' => hms m' (List.mem_cons_of_mem _ hm'), Q.get?_step hm,
      writes, List.getLast?_append]
    cases ((a.step u m).2.writes u q ms).getLast? with
    | none => cases a.write? u q m <;> rfl
    | some w => rfl

/-! ## Who writes -/

theorem write?_over (Q : a.Quiet) {m : Move σ} {n : Nat} {r : Option Entry}
    (h : a.write? u q m = some (n, r)) :
    n < (a.step u m).2.calls ∧ (a.step u m).2.waiting n = none ∧
      ((∃ t, a.waiting n = some t) ∨ n = a.calls) := by
  cases m with
  | call op fs =>
    rw [write?] at h
    split at h
    · next hd =>
      cases h
      exact ⟨Nat.lt_succ_self _, (if_pos rfl).trans (Indexer.start_drops Q.building hd), .inr rfl⟩
    · cases h
  | resume k fs x =>
    rw [write?] at h
    split at h
    · next path generation stamp e hk =>
      split at h
      · cases h
        rw [step_resume u hk, Q.resume_embedded hk rfl]
        exact ⟨Q.sound.call n _ hk, if_pos rfl, .inl ⟨_, hk⟩⟩
      · cases h
    · cases h

/-- Only calls that wait, and later ones, write. -/
theorem of_mem_writes (Q : a.Quiet) {ms : List (Move σ)} (hms : ∀ m ∈ ms, m.IsEdit) {n : Nat}
    {r : Option Entry} (h : (n, r) ∈ a.writes u q ms) :
    (∃ t, a.waiting n = some t) ∨ a.calls ≤ n := by
  induction ms generalizing a with
  | nil => cases h
  | cons m ms ih =>
    rcases List.mem_append.1 h with h | h
    · obtain ⟨-, -, hw | rfl⟩ := Q.write?_over (Option.mem_toList.1 h)
      · exact .inl hw
      · exact .inr (Nat.le_refl _)
    · rcases ih (Q.step (hms m List.mem_cons_self))
        (fun m' hm' => hms m' (List.mem_cons_of_mem _ hm')) h with ⟨t, ht⟩ | hle
      · -- It waits after the first move, so it has waited before or was called by it.
        rcases waiting_cases ht with hn | ⟨_, _, -, rfl, -⟩ | ⟨_, _, t', -, hn, -⟩
        · exact .inl ⟨t, hn⟩
        · exact .inr (Nat.le_refl _)
        · exact .inl ⟨t', hn⟩
      · exact .inr (Nat.le_trans (calls_le_step m) hle)

/-- Each call writes at most once. -/
theorem writes_nodup (Q : a.Quiet) {ms : List (Move σ)} (hms : ∀ m ∈ ms, m.IsEdit) :
    ((a.writes u q ms).map Prod.fst).Nodup := by
  induction ms generalizing a with
  | nil => exact List.nodup_nil
  | cons m ms ih =>
    have Q' := Q.step (u := u) (hms m List.mem_cons_self)
    have hms' : ∀ m' ∈ ms, m'.IsEdit := fun m' hm' => hms m' (List.mem_cons_of_mem _ hm')
    rw [writes, List.map_append, List.nodup_append]
    refine ⟨?_, ih Q' hms', ?_⟩
    · cases a.write? u q m <;> simp
    · -- The call of the first move is over, and later calls have other numbers.
      intro k hk k' hk' heq
      obtain ⟨⟨n, r⟩, hn, rfl⟩ := List.mem_map.1 hk
      obtain ⟨⟨n', r'⟩, hn', rfl⟩ := List.mem_map.1 hk'
      obtain ⟨hlt, hnone, -⟩ := Q.write?_over (Option.mem_toList.1 hn)
      obtain rfl : n = n' := heq
      obtain ⟨t, ht⟩ | hge := of_mem_writes Q' hms' hn'
      · rw [hnone] at ht
        cases ht
      · omega

/-- Where calls write that were made earlier, they write entries. -/
theorem calls_le_of_mem_writes (Q : a.Quiet) {ms : List (Move σ)} (hms : ∀ m ∈ ms, m.IsEdit)
    {n : Nat} (h : (n, none) ∈ a.writes u q ms) : a.calls ≤ n := by
  induction ms generalizing a with
  | nil => cases h
  | cons m ms ih =>
    rcases List.mem_append.1 h with h | h
    · cases m with
      | call op fs =>
        rw [write?] at h
        split at h
        · simp only [Option.toList_some, List.mem_singleton, Prod.mk.injEq] at h
          exact Nat.le_of_eq h.1.symm
        · cases h
      | resume k fs x =>
        rw [write?] at h
        split at h
        · split at h
          · simp at h
          · cases h
        · cases h
    · have hle := ih (Q.step (hms m List.mem_cons_self))
        (fun m' hm' => hms m' (List.mem_cons_of_mem _ hm')) h
      exact Nat.le_trans (calls_le_step m) hle

/-! ## What is written -/

theorem write?_some (Q : a.Quiet) {m : Move σ} {n : Nat} {e : Entry}
    (h : a.write? u q m = some (n, some e)) :
    ∃ fs x job, m = .resume n fs x ∧ a.waiting n = some (.file .single job) ∧ job.path = q ∧
      job.stage = .embedded (.ok e) ∧ e.stamp = job.stamp := by
  cases m with
  | call op fs =>
    rw [write?] at h
    split at h <;> cases h
  | resume k fs x =>
    rw [write?] at h
    split at h
    · next path generation stamp e' hk =>
      split at h
      · next hq =>
        cases h
        have hsound : FileJob.Sound ⟨path, generation, stamp, .embedded (.ok e)⟩ :=
          Q.sound.task n _ hk
        exact ⟨fs, x, _, rfl, hk, hq, rfl, (hsound.takenFrom rfl).stamp⟩
      · cases h
    · cases h

theorem stamp_of_mem_writes (Q : a.Quiet) {ms : List (Move σ)} (hms : ∀ m ∈ ms, m.IsEdit)
    {old : Store} {k : Nat} (H : Since old k a) {n : Nat} {e : Entry}
    (h : (n, some e) ∈ a.writes u q ms) : e.stamp ≠ k := by
  induction ms generalizing a with
  | nil => cases h
  | cons m ms ih =>
    have hm := hms m List.mem_cons_self
    rcases List.mem_append.1 h with h | h
    · obtain ⟨fs, x, job, rfl, hn, -, -, hk⟩ := Q.write?_some (Option.mem_toList.1 h)
      rw [hk]
      exact H.task n _ hn
    · exact ih (Q.step hm) (fun m' hm' => hms m' (List.mem_cons_of_mem _ hm'))
        (H.step Q.sound (Q.generation_step hm)) h

/-- Once an entry is stored, nothing that waits or is called later makes one with its stamp. -/
theorem since_write (Q : a.Quiet) {m : Move σ} {n : Nat} {e : Entry}
    (h : a.write? u q m = some (n, some e)) :
    Since (a.step u m).2.index.store e.stamp (a.step u m).2 := by
  obtain ⟨fs, x, job, rfl, hn, -, hs, hk⟩ := Q.write?_some h
  refine ⟨rfl, ?_, fun n' t ht => ?_, fun p e he => .inl he⟩
  · exact Nat.lt_of_lt_of_le (hk ▸ Q.sound.clock n _ hn) (clock_le_step Q.sound _)
  · rw [step_resume u hn, Q.resume_embedded hn hs] at ht
    obtain ⟨hne, ht⟩ := Sound.of_note_none ht
    rw [hk]
    exact fun heq => hne (Q.sound.apart n' n t _ ht hn heq)

/-- The call that was made last among those that write has the last word exactly if it writes
last. -/
theorem latest_iff (Q : a.Quiet) {ms : List (Move σ)} (hms : ∀ m ∈ ms, m.IsEdit) {k : Nat}
    {r : Option Entry} (hk : (k, r) ∈ a.writes u q ms)
    (hlatest : ∀ n r', (n, r') ∈ a.writes u q ms → n ≤ k) :
    (a.run u ms).index.store.get? q.toText = r ↔ (a.writes u q ms).getLast? = some (k, r) := by
  refine ⟨fun hr => ?_, fun hlast => by rw [Q.get?_run hms, hlast]; rfl⟩
  induction ms generalizing a with
  | nil => cases hk
  | cons m ms ih =>
    have hm := hms m List.mem_cons_self
    have Q' := Q.step (u := u) hm
    have hms' : ∀ m' ∈ ms, m'.IsEdit := fun m' hm' => hms m' (List.mem_cons_of_mem _ hm')
    rw [writes, List.getLast?_append]
    rcases List.mem_append.1 hk with hfirst | hlater
    · have hw := Option.mem_toList.1 hfirst
      rw [run_cons, Q'.get?_run hms'] at hr
      cases hlast : ((a.step u m).2.writes u q ms).getLast? with
      | none => rw [hw]; rfl
      | some w =>
        -- What is written later by another call is another entry, or is written when it is called.
        obtain ⟨n, r'⟩ := w
        rw [hlast] at hr
        obtain rfl : r' = r := hr
        have hmem : (n, r') ∈ (a.step u m).2.writes u q ms := List.mem_of_getLast? hlast
        have hle := hlatest n r' (List.mem_append_right _ hmem)
        cases r' with
        | some e => exact absurd rfl (Q'.stamp_of_mem_writes hms' (Q.since_write hw) hmem)
        | none =>
          have hlt := (Q.write?_over hw).1
          have hge := Q'.calls_le_of_mem_writes hms' hmem
          omega
    · rw [ih Q' hms' hlater (fun n r' h => hlatest n r' (List.mem_append_right _ h)) hr]
      rfl

/-! ## What is read -/

end Quiet

/-- A move of the call reads the file at the path, and the entry was made of what was there then. -/
def Reads (u : Setup σ) (q : Path) (a : Activity) (n : Nat) (e : Entry) (m : Move σ) : Prop :=
  ∃ fs x job, m = .resume n fs x ∧ a.waiting n = some (.file .single job) ∧ job.stage = .begun ∧
    job.path = q ∧ e.bare = (u.extractFile fs q job.generation job.stamp).1.bare

/-- What a call has made of the file at a path so far is the entry, up to its vectors. -/
def Holds (q : Path) (a : Activity) (n : Nat) (e : Entry) : Prop :=
  ∃ job, a.waiting n = some (.file .single job) ∧ job.path = q ∧
    ((∃ e₀, job.stage = .extracted e₀ ∧ e.bare = e₀.bare) ∨ job.stage = .embedded (.ok e))

/-- A call of which the entry has come after a move had it before, or has read the file in the
move. -/
theorem Quiet.holds_step (Q : a.Quiet) {m : Move σ} (hm : m.IsEdit) {n : Nat} {e : Entry}
    (h : (a.step u m).2.Holds q n e) : a.Holds q n e ∨ a.Reads u q n e m := by
  obtain ⟨job, hafter, hq, hstage⟩ := h
  rcases waiting_cases hafter with hn | ⟨op, fs, rfl, -, hstart⟩ | ⟨fs, x, t, rfl, hn, hresume⟩
  · exact .inl ⟨job, hn, hq, hstage⟩
  · -- A call that has just been made has nothing yet.
    obtain ⟨job', hjob, hbegun, -⟩ := Indexer.start_edit_waiting Q.building hm (Prod.ext hstart rfl)
    cases hjob
    rw [hbegun] at hstage
    obtain ⟨e₀, he, -⟩ | he := hstage <;> cases he
  · obtain ⟨⟨path, generation, stamp, stage⟩, rfl, -⟩ := Q.task n t hn
    rcases stage with _ | e₁ | ⟨err | e₁⟩
    · cases hresume
      obtain ⟨e₀, he, hbare⟩ | he := hstage
      · cases he
        exact .inr ⟨fs, x, _, rfl, hn, rfl, hq, hq ▸ hbare⟩
      · cases he
    · cases hresume
      obtain ⟨e₀, he, -⟩ | he := hstage
      · cases he
      · obtain ⟨⟨e₂, count⟩, hr, rfl⟩ := Except.map_eq_ok_iff.1 (FileStage.embedded.inj he)
        exact .inl ⟨_, hn, hq, .inl ⟨e₁, rfl, Setup.embed_bare (Prod.ext hr rfl)⟩⟩
    · cases hresume
    · rw [Q.resume_embedded hn rfl] at hresume
      cases hresume

/-- What a call writes was made of the file as it read it. -/
theorem Quiet.reads_of_mem_writes (Q : a.Quiet) {ms : List (Move σ)} (hms : ∀ m ∈ ms, m.IsEdit)
    {n : Nat} {e : Entry} (h : (n, some e) ∈ a.writes u q ms) :
    a.Holds q n e ∨ ∃ before m after, ms = before ++ m :: after ∧
      (a.run u before).Reads u q n e m := by
  induction ms generalizing a with
  | nil => cases h
  | cons m ms ih =>
    have hm := hms m List.mem_cons_self
    rcases List.mem_append.1 h with h | h
    · obtain ⟨fs, x, job, -, hn, hq, hs, -⟩ := Q.write?_some (Option.mem_toList.1 h)
      exact .inl ⟨job, hn, hq, .inr hs⟩
    · rcases ih (Q.step hm) (fun m' hm' => hms m' (List.mem_cons_of_mem _ hm')) h with
        hold | ⟨before, m', after, rfl, hread⟩
      · rcases Q.holds_step hm hold with hold | hread
        · exact .inl hold
        · exact .inr ⟨[], m, ms, rfl, hread⟩
      · exact .inr ⟨m :: before, m', after, rfl, hread⟩

/-! ## Calls that are over -/

/-- One of the moves ends the call with an error. -/
def Fails (u : Setup σ) (a : Activity) (n : Nat) (ms : List (Move σ)) : Prop :=
  ∃ before fs x after err, ms = before ++ .resume n fs x :: after ∧
    ((a.run u before).step u (.resume n fs x)).1 = some (.finished (.error err))

theorem Fails.cons {n : Nat} {m : Move σ} {ms : List (Move σ)}
    (h : Fails u (a.step u m).2 n ms) : Fails u a n (m :: ms) := by
  obtain ⟨before, fs, x, after, err, rfl, hfail⟩ := h
  exact ⟨m :: before, fs, x, after, err, rfl, hfail⟩

/-- An update that waited with a file and is over has written, or failed. -/
theorem Quiet.over (Q : a.Quiet) {ms : List (Move σ)} (hms : ∀ m ∈ ms, m.IsEdit) {n : Nat}
    {job : FileJob} (hn : a.waiting n = some (.file .single job)) (hq : job.path = q)
    (hover : (a.run u ms).waiting n = none) :
    (∃ e, (n, some e) ∈ a.writes u q ms) ∨ a.Fails u n ms := by
  induction ms generalizing a job with
  | nil =>
    rw [show (a.run u ([] : List (Move σ))).waiting n = a.waiting n from rfl, hn] at hover
    cases hover
  | cons m ms ih =>
    have Q' := Q.step (u := u) (hms m List.mem_cons_self)
    have hms' : ∀ m' ∈ ms, m'.IsEdit := fun m' hm' => hms m' (List.mem_cons_of_mem _ hm')
    -- As long as the call waits with the file, it goes on from there.
    have further : ∀ job' : FileJob, (a.step u m).2.waiting n = some (.file .single job') →
        job'.path = q → (∃ e, (n, some e) ∈ a.writes u q (m :: ms)) ∨ a.Fails u n (m :: ms) := by
      intro job' hn' hq'
      rcases ih Q' hms' hn' hq' hover with ⟨e, he⟩ | hfail
      · exact .inl ⟨e, List.mem_append_right _ he⟩
      · exact .inr hfail.cons
    cases m with
    | call op fs =>
      have hne : n ≠ a.calls := Nat.ne_of_lt (Q.sound.call n _ hn)
      exact further job ((if_neg hne).trans hn) hq
    | resume k fs x =>
      by_cases hk : k = n
      · subst hk
        have hnext : (a.step u (.resume k fs x)).2.waiting k =
            (a.index.resume u fs (.file .single job) x).1.task? := by
          rw [step_resume u hn]
          exact if_pos rfl
        obtain ⟨path, generation, stamp, stage⟩ := job
        rcases stage with _ | e | ⟨err | e⟩
        · exact further _ hnext hq
        · exact further _ hnext hq
        · refine .inr ⟨[], fs, x, ms, err, rfl, ?_⟩
          exact congrArg Prod.fst (step_resume u hn fs x)
        · refine .inl ⟨e, List.mem_append_left _ ?_⟩
          rw [write?, hn]
          simp only at hq
          simp [hq]
      · refine further job ?_ hq
        cases hw : a.waiting k with
        | none =>
          rw [step_resume_none u hw]
          exact hn
        | some t =>
          rw [step_resume u hw]
          exact (if_neg (Ne.symm hk)).trans hn

/-- A call on the path of a file that takes part in the index takes the file out at once if it is a
removal or finds the file gone, and otherwise ends with an entry or an error. -/
theorem Quiet.concerned (Q : a.Quiet) {ms : List (Move σ)} (hms : ∀ m ∈ ms, m.IsEdit)
    (hover : ∀ n, (a.run u ms).waiting n = none) {before after : List (Move σ)} {op : Operation}
    {fs : FileSystem} (heq : ms = before ++ .call op fs :: after)
    (hc : (a.run u before).index.concerns u fs q op = true) :
    ((a.run u before).index.drops u fs q op = true →
        ((a.run u before).calls, none) ∈ a.writes u q ms) ∧
      ((a.run u before).index.drops u fs q op = false →
        (∃ e, ((a.run u before).calls, some e) ∈ a.writes u q ms) ∨
          a.Fails u (a.run u before).calls ms) := by
  subst heq
  have hbefore : ∀ m ∈ before, m.IsEdit := fun m hm => hms m (List.mem_append_left _ hm)
  have Q' := Q.run (u := u) hbefore
  rw [writes_append, writes]
  constructor
  · intro hd
    refine List.mem_append_right _ (List.mem_append_left _ ?_)
    rw [write?, if_pos hd]
    exact List.mem_singleton_self _
  · intro hd
    have hafter : ∀ m ∈ after, m.IsEdit := fun m hm =>
      hms m (List.mem_append_right _ (List.mem_cons_of_mem _ hm))
    have hcall : (Move.call op fs : Move σ).IsEdit := hms _ (by simp)
    cases op with
    | update p =>
      have hfile : fs.isFile q = true := by
        simpa [Indexer.drops, hc] using hd
      obtain ⟨job, hjob, hq, -⟩ := Indexer.start_update Q'.building hc hfile
      have hwaits : ((a.run u before).step u (.call (.update p) fs)).2.waiting
          (a.run u before).calls = some (.file .single job) := by
        rw [step_call, hjob]
        exact if_pos rfl
      have hend := hover (a.run u before).calls
      rw [run_append, run_cons] at hend
      rcases (Q'.step hcall).over hafter hwaits hq hend with ⟨e, he⟩ | hfail
      · exact .inl ⟨e, List.mem_append_right _ (List.mem_append_right _ he)⟩
      · obtain ⟨before', fs', x, after', err, rfl, hfail⟩ := hfail
        refine .inr ⟨before ++ .call (.update p) fs :: before', fs', x, after', err, by simp, ?_⟩
        rw [run_append, run_cons]
        exact hfail
    | remove p => simp [Indexer.drops, hc] at hd
    | _ => cases hc

/-! ## An update that is overtaken -/

theorem Quiet.waiting_remove (Q : a.Quiet) (p : Path) (fs : FileSystem) (m : Nat) :
    (a.step u (.call (.remove p) fs)).2.waiting m = if m = a.calls then none else a.waiting m := by
  have hedit : (Operation.remove p).IsEdit := trivial
  have hover : (a.index.start u fs (.remove p)).1.task? = none := by
    cases hstart : a.index.start u fs (.remove p) with
    | mk standing ix =>
      cases standing with
      | finished r => rfl
      | waiting t =>
        obtain ⟨_, -, -, -, -, p', hp, -⟩ := Indexer.start_edit_waiting Q.building hedit hstart
        cases hp
  rw [waiting_call, hover]

/-- An update that has read the file, and ends after the file has been removed, brings it back. -/
theorem Quiet.overtaken (Q : a.Quiet) (hu : u.embedder = none) {n : Nat} {job : FileJob} {e : Entry}
    (hn : a.waiting n = some (.file .single job)) (hs : job.stage = .extracted e) (p : Path)
    (fs : FileSystem) (x : σ) :
    let b := a.run u [.call (.remove p) fs, .resume n fs x, .resume n fs x]
    b.index.store.get? job.path.toText = some e ∧
      ∀ m, b.waiting m = if m = n ∨ m = a.calls then none else a.waiting m := by
  intro b
  let a₁ := (a.step u (.call (.remove p) fs)).2
  let a₂ := (a₁.step u (.resume n fs x)).2
  have hremoval : (Move.call (.remove p) fs : Move σ).IsEdit := trivial
  have honward : (Move.resume n fs x).IsEdit := trivial
  have Q₂ : a₂.Quiet := (Q.step hremoval).step honward
  have hn₁ : a₁.waiting n = some (.file .single job) := by
    rw [Q.waiting_remove, if_neg (Nat.ne_of_lt (Q.sound.call n _ hn)), hn]
  have hembed : a₁.index.resume u fs (.file .single job) x = (.waiting (.file .single
      { job with stage := .embedded (.ok e) }), a₁.index, x) := by
    simp only [Indexer.resume, hs, Setup.embed, hu]
    rfl
  have hn₂ : a₂.waiting n = some (.file .single { job with stage := .embedded (.ok e) }) := by
    rw [waiting_resume hn₁, if_pos rfl, hembed]
    rfl
  have hwrite : a₂.write? u job.path (.resume n fs x) = some (n, some e) := by
    rw [write?, hn₂]
    exact if_pos rfl
  constructor
  · refine (Q₂.get?_step honward).trans ?_
    rw [hwrite]
    rfl
  · intro m
    refine (waiting_resume hn₂ fs x m).trans ?_
    rw [Q₂.resume_embedded hn₂ rfl]
    by_cases hm : m = n
    · simp [hm, Standing.task?]
    · rw [if_neg hm, waiting_resume hn₁, if_neg hm, Q.waiting_remove]
      simp [hm]

end Activity

/-- A root with a file. -/
def fileThere : FileSystem :=
  ⟨.ofList [(["r"], .directory), (["r", "a.py"], .file [])], .root, [], []⟩

/-- The root once the file is gone. -/
def fileGone : FileSystem := ⟨.ofList [(["r"], .directory)], .root, [], []⟩

namespace Activity

/-- The file is updated, and once the update has read it, it is deleted and removed; then the update
goes on. -/
def overtaken : List (Move Unit) :=
  [.call (.update (.ofText "/r/a.py")) fileThere, .resume 0 fileThere (),
    .call (.remove (.ofText "/r/a.py")) fileGone, .resume 0 fileGone (), .resume 0 fileGone ()]

theorem fileThere_concerns : (fresh [.ofText "/r"]).index.concerns Indexer.plain fileThere
    (.ofText "/r/a.py") (.update (.ofText "/r/a.py")) = true := by
  have hnormal : (fresh [.ofText "/r"]).index.normalize fileThere (.ofText "/r/a.py") =
      .ok (.ofText "/r/a.py") := by cbv
  have hroot : (fresh [.ofText "/r"]).index.containingRoot? fileThere (.ofText "/r/a.py") =
      .ok (some (.ofText "/r")) := by cbv
  have hinside : (Path.ofText "/r/a.py").relativeTo? (.ofText "/r") = some (.ofText "a.py") := by cbv
  have hbinary : (Path.ofText "/r/a.py").isBinary = false := by decide +kernel
  have htracks : ((fresh [.ofText "/r"]).index.tracks Indexer.plain fileThere
      (.ofText "/r/a.py")).1 = .ok true :=
    Indexer.plain_tracks rfl rfl hroot (by cbv) hbinary (by cbv) hinside (by decide) (by cbv)
  simp [Indexer.concerns, Indexer.toOption_eq_some, hnormal, htracks]

/-- Both calls end, and there is an entry of the file. -/
theorem overtaken_run :
    (∀ n, ((fresh [.ofText "/r"]).run Indexer.plain overtaken).waiting n = none) ∧
      ((fresh [.ofText "/r"]).run Indexer.plain overtaken).index.store.contains "/r/a.py" = true := by
  have hfile : fileThere.isFile (.ofText "/r/a.py") = true := by cbv
  have Q := (fresh_sound [.ofText "/r"]).quiet fun _ => rfl
  obtain ⟨job, hstart, hpath, hbegun⟩ := Indexer.start_update Q.building fileThere_concerns hfile
  let call : Move Unit := .call (.update (.ofText "/r/a.py")) fileThere
  let read : Move Unit := .resume 0 fileThere ()
  let called := ((fresh [.ofText "/r"]).step Indexer.plain call).2
  let a := (called.step Indexer.plain read).2
  have hcalled : ∀ n, called.waiting n = if n = 0 then some (.file .single job) else none := by
    intro n
    rw [waiting_call, hstart]
    rfl
  have hhad : called.waiting 0 = some (.file .single job) := by rw [hcalled, if_pos rfl]
  -- The update goes as far as to have read the file.
  let e := (Indexer.plain.extractFile fileThere job.path job.generation job.stamp).1
  have ha : ∀ n, a.waiting n =
      if n = 0 then some (.file .single { job with stage := .extracted e }) else none := by
    intro n
    rw [waiting_resume hhad, hcalled]
    by_cases hn : n = 0
    · simp only [if_pos hn, Indexer.resume, hbegun]
      rfl
    · simp only [if_neg hn]
  have hcalls : a.calls = 1 := congrArg (fun r => r.2.calls) (step_resume Indexer.plain hhad _ ())
  have hedit : ∀ m ∈ [call, read], m.IsEdit := by
    simp [call, read, Move.IsEdit, Operation.IsEdit]
  have Qa : a.Quiet := Q.run (u := Indexer.plain) hedit
  have H := Qa.overtaken (u := Indexer.plain) rfl (ha 0) rfl (.ofText "/r/a.py") fileGone ()
  have hrun : (fresh [.ofText "/r"]).run Indexer.plain overtaken = _ :=
    run_append Indexer.plain (fresh [.ofText "/r"]) [call, read] _
  rw [hrun]
  refine ⟨fun n => (H.2 n).trans ?_, ?_⟩
  · rw [hcalls, ha]
    by_cases hn : n = 0 <;> simp [hn]
  · have htext : (Path.ofText "/r/a.py").toText = "/r/a.py" := by cbv
    have hentry := H.1
    rw [hpath, htext] at hentry
    exact congrArg Option.isSome hentry

/-! ## The last word -/

/-- Whatever updates and removals are called while no build is going on, and however they interleave
until all are over: the entry under a path is what was written there last. Each call writes at most
once; what it writes is an entry made of the file as the call has read it, or nothing if it is a
removal or has found the file gone; and a call on a file that takes part in the index does write,
unless it fails. So the entry is that of the call that was made last exactly if no other call writes
after it. -/
theorem latest_edit_iff (u : Setup σ) (roots : List Path) (earlier ms : List (Move σ)) (q : Path)
    (hidle : ∀ n, ((fresh roots).run u earlier).waiting n = none) (hms : ∀ m ∈ ms, m.IsEdit)
    (hover : ∀ n, (((fresh roots).run u earlier).run u ms).waiting n = none) :
    let a := (fresh roots).run u earlier
    (a.run u ms).index.store.get? q.toText =
        ((a.writes u q ms).getLast?.map Prod.snd).getD (a.index.store.get? q.toText) ∧
      ((a.writes u q ms).map Prod.fst).Nodup ∧
      (∀ n e, (n, some e) ∈ a.writes u q ms →
        ∃ before m after, ms = before ++ m :: after ∧ (a.run u before).Reads u q n e m) ∧
      (∀ before op fs after, ms = before ++ .call op fs :: after →
        (a.run u before).index.concerns u fs q op = true →
        ((a.run u before).index.drops u fs q op = true →
          ((a.run u before).calls, none) ∈ a.writes u q ms) ∧
        ((a.run u before).index.drops u fs q op = false →
          (∃ e, ((a.run u before).calls, some e) ∈ a.writes u q ms) ∨
            a.Fails u (a.run u before).calls ms)) ∧
      ∀ k r, (k, r) ∈ a.writes u q ms → (∀ n r', (n, r') ∈ a.writes u q ms → n ≤ k) →
        ((a.run u ms).index.store.get? q.toText = r ↔
          (a.writes u q ms).getLast? = some (k, r)) := by
  intro a
  have Q : a.Quiet := (sound_run u roots earlier).quiet hidle
  refine ⟨Q.get?_run hms, Q.writes_nodup hms, fun n e he => ?_,
    fun before op fs after heq hc => Q.concerned hms hover heq hc,
    fun k r hk hlatest => Q.latest_iff hms hk hlatest⟩
  rcases Q.reads_of_mem_writes hms he with ⟨job, hn, -⟩ | h
  · rw [hidle] at hn
    cases hn
  · exact h

theorem latest_edit_overtaken :
    (∀ n, ((fresh [.ofText "/r"]).run Indexer.plain []).waiting n = none) ∧
      (∀ m ∈ overtaken, m.IsEdit) ∧
      (∀ n, ((fresh [.ofText "/r"]).run Indexer.plain overtaken).waiting n = none) ∧
      ((fresh [.ofText "/r"]).run Indexer.plain overtaken).index.store.get? "/r/a.py" =
        (((fresh [.ofText "/r"]).writes Indexer.plain (.ofText "/r/a.py") overtaken).getLast?.map
          Prod.snd).getD none := by
  have hidle : ∀ n, ((fresh [.ofText "/r"]).run Indexer.plain []).waiting n = none := fun _ => rfl
  have hms : ∀ m ∈ overtaken, m.IsEdit := by simp [overtaken, Move.IsEdit, Operation.IsEdit]
  have H := latest_edit_iff Indexer.plain [.ofText "/r"] [] overtaken (.ofText "/r/a.py") hidle hms
    overtaken_run.1
  have htext : (Path.ofText "/r/a.py").toText = "/r/a.py" := by cbv
  rw [htext] at H
  exact ⟨hidle, hms, overtaken_run.1, H.1⟩

/-- An update of a file and then a removal of it are called, the removal is over at once and the
update after it: there is an entry of the file once both are over. -/
theorem overtaken_resurrects :
    (∀ m ∈ overtaken, m.IsEdit) ∧
      (∀ n, ((fresh [.ofText "/r"]).run Indexer.plain overtaken).waiting n = none) ∧
      (∃ before after, overtaken = before ++ .call (.remove (.ofText "/r/a.py")) fileGone :: after ∧
        ∀ m ∈ after, ∃ n fs x, m = .resume n fs x) ∧
      ((fresh [.ofText "/r"]).run Indexer.plain overtaken).index.store.contains "/r/a.py" = true := by
  refine ⟨by simp [overtaken, Move.IsEdit, Operation.IsEdit], overtaken_run.1, ?_, overtaken_run.2⟩
  exact ⟨overtaken.take 2, overtaken.drop 3, rfl, by simp [overtaken]⟩

end Activity
end CodeAtlas
