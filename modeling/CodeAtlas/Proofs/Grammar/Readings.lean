import CodeAtlas.Grammar.Parse
import CodeAtlas.Proofs.Grammar.Bounds
import CodeAtlas.Proofs.Grammar.Ways

/-!
# What readings lead to

Every step of the readings keeps the stack as it should be, and all that it takes for a reading of the
whole text lies in the text (`Session.Ok`). So the tree of a text does too (`parse?_within`).
-/

namespace CodeAtlas.Grammar

/-- The stack is as it should be, and what has been read of the whole text lies in it. -/
structure Session.Ok (n : Nat) (s : Session) : Prop where
  stack : s.stack.Ok n
  result : ∀ d, s.result = some d → d.Within n

namespace Run

/-- From a stack with `P` the step comes to a result and a stack with `Q`, and the session stays as it
should be. -/
def Ensures {α : Type} (n : Nat) (P : Stack → Prop) (m : Run α) (Q : α → Stack → Prop) : Prop :=
  ∀ s : Session, s.Ok n → P s.stack → (m.run s).2.Ok n ∧ Q (m.run s).1 (m.run s).2.stack

namespace Ensures

variable {α β : Type} {n : Nat} {P P' : Stack → Prop} {Q : α → Stack → Prop}
  {R : β → Stack → Prop}

theorem pure {a : α} (h : ∀ s : Stack, s.Ok n → P s → Q a s) : Ensures n P (Pure.pure a) Q :=
  fun s hs hp => ⟨hs, h s.stack hs.stack hp⟩

theorem bind {m : Run α} {f : α → Run β} (h : Ensures n P m Q)
    (hf : ∀ a, Ensures n (Q a) (f a) R) : Ensures n P (m >>= f) R := by
  intro s hs hp
  obtain ⟨hs', hq⟩ := h s hs hp
  exact hf _ _ hs' hq

theorem mono {m : Run α} {Q' : α → Stack → Prop} (h : Ensures n P m Q)
    (hp : ∀ s : Stack, s.Ok n → P' s → P s) (hq : ∀ a s, Q a s → Q' a s) : Ensures n P' m Q' :=
  fun s hs hp' => ⟨(h s hs (hp _ hs.stack hp')).1, hq _ _ (h s hs (hp _ hs.stack hp')).2⟩

theorem given {m : Run α} (h : Ensures n P m Q) (hp : ∀ s : Stack, s.Ok n → P' s → P s) :
    Ensures n P' m Q :=
  h.mono hp fun _ _ hq => hq

/-- What holds of every stack to start from may be assumed. -/
theorem of_pre {F : Prop} {m : Run α} (hF : ∀ s : Stack, P s → F) (h : F → Ensures n P m Q) :
    Ensures n P m Q :=
  fun s hs hp => h (hF _ hp) s hs hp

/-- What follows a look at the readings may go on from the stack that is seen. -/
theorem stack {f : Stack → Run β} (h : ∀ t : Stack, t.Ok n → P t → Ensures n (· = t) (f t) R) :
    Ensures n P (Run.stack >>= f) R :=
  fun s hs hp => h s.stack hs.stack hp s hs rfl

theorem change {f : Stack → Stack} {Q : Stack → Prop}
    (h : ∀ s : Stack, s.Ok n → P s → (f s).Ok n ∧ Q (f s)) :
    Ensures n P (Run.change f) fun _ => Q := by
  intro s hs hp
  obtain ⟨hok, hq⟩ := h s.stack hs.stack hp
  exact ⟨⟨hok, hs.result⟩, hq⟩

/-- What concerns neither the stack nor the result. -/
theorem aside {m : Run α} (h : ∀ s, (m.run s).2.stack = s.stack ∧ (m.run s).2.result = s.result) :
    Ensures n P m fun _ => P := by
  intro s hs hp
  obtain ⟨hstack, hresult⟩ := h s
  exact ⟨⟨by rw [hstack]; exact hs.stack, by rw [hresult]; exact hs.result⟩, by rwa [hstack]⟩

theorem ask {m : StateM Automaton α} : Ensures n P (Run.ask m) fun _ => P :=
  aside fun _ => ⟨rfl, rfl⟩

theorem merge {i j : Nat} {Q : Bool → Stack → Prop}
    (h : ∀ s : Stack, s.Ok n → P s → Q (s.merge i j).2 (s.merge i j).1) :
    Ensures n P (Run.merge i j) Q := by
  intro s hs hp
  exact ⟨⟨(hs.stack.merge i j).1, hs.result⟩, h s.stack hs.stack hp⟩

end Ensures
end Run

namespace Task

open Run (Ensures)

variable {t : Task}

/-! ## Tokens -/

theorem next_lies (hscan : t.scanner.Sound) {P : Stack → Prop} {state place : Nat}
    (hplace : place ≤ t.text.size) :
    Ensures t.text.size P (t.next state place) fun o s =>
      P s ∧ ∀ x, o = some x → x.1.Lies t.text.size place := by
  have hgive : ∀ (l : Lexeme) (b : Bool), l.Lies t.text.size place →
      Ensures t.text.size P (pure (some (l, b))) fun o s =>
        P s ∧ ∀ x, o = some x → x.1.Lies t.text.size place := by
    refine fun l b hl => .pure fun s _ hp => ⟨hp, fun x hx => ?_⟩
    cases hx
    exact hl
  unfold next
  refine .bind .ask fun mode => ?_
  extract_lets found strange written
  have hwritten : Ensures t.text.size P (written ()) fun o s =>
      P s ∧ ∀ x, o = some x → x.1.Lies t.text.size place := by
    simp only [written]
    split
    · exact .pure fun s _ hp => ⟨hp, fun x hx => nomatch hx⟩
    · next l hl =>
      have hlies := t.table.lex_lies hplace hl
      split
      · exact hgive _ true ⟨hlies.place_le, hlies.start_le, hlies.stop_le⟩
      · exact hgive l false hlies
  have hfound : ∀ name start stop, found = some (name, start, stop) →
      place ≤ start ∧ start ≤ stop ∧ stop ≤ t.text.size := by
    intro name start stop hfound
    simp only [found] at hfound
    split at hfound
    · cases hfound
    · exact hscan _ _ _ _ _ _ hplace hfound
  clear_value found written
  have hstrange : ∀ l, strange = some l → l.Lies t.text.size place := by
    intro l hl
    simp only [strange] at hl
    split at hl
    · next name start stop =>
      obtain ⟨k, -, rfl⟩ := Option.map_eq_some_iff.1 hl
      obtain ⟨hstart, hle, hstop⟩ := hfound name start stop rfl
      exact ⟨hstart, hle, hstop⟩
    · cases hl
  clear_value strange
  split
  · next l =>
    refine .bind .ask fun actions => ?_
    split
    · exact hgive l false (hstrange l rfl)
    · exact hwritten
  · exact hwritten

/-! ## Ended phrases -/

/-- Of the readings from `k` on, each stands on the vertex that ways lead down to from a place not
behind `p`; neither the readings `kept` nor those that are not among the first `older` are behind
`p`. -/
structure Opened (n older p : Nat) (kept : List Nat) (k : Nat)
    (groups : List (Nat × List (List Derivation))) (s : Stack) : Prop where
  size : older ≤ s.tops.size
  kept : ∀ j ∈ kept, s.reached j ≤ p
  new : ∀ j, older ≤ j → s.reached j ≤ p
  tops : (s.tops.toList.drop k).map Top.vertex = groups.map Prod.fst
  ways : ∃ q, q ≤ p ∧ Stack.Gathered (s.Reaches n q) groups

namespace Opened

variable {n older p k : Nat} {kept : List Nat} {g : Nat × List (List Derivation)}
  {groups : List (Nat × List (List Derivation))} {s s' : Stack}

/-- The next reading stands on the vertex of the first group. -/
theorem top (h : Opened n older p kept k (g :: groups) s) :
    k < s.tops.size ∧ (s.top k).vertex = g.1 := by
  have hhead := congrArg List.head? h.tops
  rw [List.map_cons, List.head?_cons, List.head?_map, List.head?_drop, Array.getElem?_toList] at hhead
  obtain ⟨x, hx, hg⟩ := Option.map_eq_some_iff.1 hhead
  obtain ⟨hk, -⟩ := Array.getElem?_eq_some_iff.1 hx
  refine ⟨hk, ?_⟩
  rw [Stack.top, Array.getD_eq_getD_getElem?, hx, Option.getD_some, hg]

/-- Whatever becomes of the next reading, the others wait. -/
theorem tail (h : Opened n older p kept k (g :: groups) s) :
    Opened n older p kept (k + 1) groups s where
  size := h.size
  kept := h.kept
  new := h.new
  tops := by
    have htail := congrArg List.tail h.tops
    rwa [List.map_cons, List.tail_cons, ← List.map_tail, List.tail_drop] at htail
  ways := by
    obtain ⟨q, hq, hways⟩ := h.ways
    exact ⟨q, hq, fun g' hg' => hways g' (List.mem_cons_of_mem g hg')⟩

/-- The next reading is given up. -/
theorem drop (h : Opened n older p kept (k + 1) groups s) (hk : older ≤ k)
    (hkept : ∀ j ∈ kept, j < older) : Opened n older p kept k groups (s.drop k) where
  size := by
    have hsize := h.size
    rw [Stack.size_tops_drop]
    split <;> omega
  kept j hj := by
    rw [Stack.reached_drop, if_pos (Nat.lt_of_lt_of_le (hkept j hj) hk)]
    exact h.kept j hj
  new j hj := by
    rw [Stack.reached_drop]
    split
    · exact h.new j hj
    · exact h.new (j + 1) (Nat.le_succ_of_le hj)
  tops := by
    rw [← h.tops, Stack.drop, Array.toList_eraseIdxIfInBounds]
    refine congrArg (List.map Top.vertex) (List.ext_getElem? fun i => ?_)
    rw [List.getElem?_drop, List.getElem?_eraseIdx, if_neg (by omega), List.getElem?_drop]
    congr 1
    omega
  ways := h.ways

theorem same (h : Opened n older p kept k groups s) (hs : s.Same s') :
    Opened n older p kept k groups s' where
  size := by
    rw [hs.tops]
    exact h.size
  kept j hj := by
    rw [hs.reached]
    exact h.kept j hj
  new j hj := by
    rw [hs.reached]
    exact h.new j hj
  tops := by
    rw [hs.tops]
    exact h.tops
  ways := by
    obtain ⟨q, hq, hways⟩ := h.ways
    exact ⟨q, hq, fun g hg => ⟨(hways g hg).1, fun ds hds =>
      ((hways g hg).2 ds hds).mono hs.extended⟩⟩

theorem push (h : Opened n older p kept (k + 1) groups s) (hok : s.Ok n) (hk : older ≤ k)
    (hkept : ∀ j ∈ kept, j < older) {d : Derivation} (hd : d.stop ≤ p) (state : Nat) :
    Opened n older p kept (k + 1) groups (s.push k d state) where
  size := by
    rw [Stack.size_tops_push]
    exact h.size
  kept j hj := by
    have hj' := hkept j hj
    rw [Stack.reached_push hok, if_neg (by omega)]
    exact h.kept j hj
  new j hj := by
    rw [Stack.reached_push hok]
    split
    · exact hd
    · exact h.new j hj
  tops := by
    rw [← h.tops, Stack.push, Array.toList_modify, List.drop_modify_of_lt _ _ _ _ k.lt_succ_self]
  ways := by
    obtain ⟨q, hq, hways⟩ := h.ways
    exact ⟨q, hq, fun g hg => ⟨(hways g hg).1, fun ds hds =>
      ((hways g hg).2 ds hds).mono (s.extends_push k d state)⟩⟩

/-- A phrase and the extras behind it are put on top of the next reading. -/
theorem pushAll {state : Nat} {q : Nat} {ds : List Derivation}
    (h : Opened n older p kept (k + 1) groups s) (hok : s.Ok n) (hk : older ≤ k)
    (hkept : ∀ j ∈ kept, j < older) (hq : q ≤ p) (hds : Chain n (s.reached k) ds q)
    (hsize : k < s.tops.size) :
    (ds.foldl (fun s d => s.push k d state) s).Ok n ∧
      Opened n older p kept (k + 1) groups (ds.foldl (fun s d => s.push k d state) s) := by
  generalize hr : s.reached k = r at hds
  induction hds generalizing s with
  | nil => exact ⟨hok, h⟩
  | @cons r q d ds hstart hd hds ih =>
    have hok' := hok.push hd (hr ▸ hstart) state
    refine ih (h.push hok hk hkept (Nat.le_trans hds.le hq) state) hok' hq ?_ ?_
    · rw [Stack.size_tops_push]
      exact hsize
    · rw [Stack.reached_push hok, if_pos ⟨rfl, hsize⟩]

end Opened

/-- A reading that agrees with an older one becomes part of it. -/
theorem mergeWithOlder_opened {n older p k : Nat} {kept : List Nat} (hk : older ≤ k)
    (hkept : ∀ j ∈ kept, j < older) (groups : List (Nat × List (List Derivation))) (version : Nat)
    (js : List Nat) :
    Ensures n (Opened n older p kept (k + 1) groups)
      (goOnFrom.mergeWithOlder version k js) fun merged =>
        Opened n older p kept (if merged then k else k + 1) groups := by
  induction js with
  | nil => exact .pure fun s _ hs => hs
  | cons j js ih =>
    rw [goOnFrom.mergeWithOlder]
    split
    · exact ih
    · refine .bind (Q := fun merged =>
        Opened n older p kept (if merged then k else k + 1) groups) (.merge fun s hok hs => ?_)
        fun merged => ?_
      · obtain ⟨-, hmerge | ⟨s', hsame, hmerge⟩⟩ := hok.merge j k
        · rw [hmerge]
          exact hs
        · rw [hmerge]
          exact (hs.same hsame).drop hk hkept
      · cases merged with
        | true => exact .pure fun s _ hs => hs
        | false => exact ih

/-- What the new readings have come to. -/
theorem goOnFrom_opened {n older p : Nat} {kept : List Nat} (hkept : ∀ j ∈ kept, j < older)
    (r : Reduction) (version halted : Nat) {k : Nat} (hk : older ≤ k)
    (groups : List (Nat × List (List Derivation))) :
    Ensures n (Opened n older p kept k groups) (t.goOnFrom r version halted k groups)
      fun _ s => older ≤ s.tops.size ∧ (∀ j ∈ kept, s.reached j ≤ p) ∧
        ∀ j, older ≤ j → s.reached j ≤ p := by
  induction groups generalizing k with
  | nil =>
    rw [goOnFrom]
    exact .pure fun s _ hs => ⟨hs.size, hs.kept, hs.new⟩
  | cons g groups ih =>
    obtain ⟨bottom, ways⟩ := g
    rw [goOnFrom]
    split
    · refine .bind (.change fun s hok hs => ?_) fun _ => ih hk
      exact ⟨hok.drop k, hs.tail.drop hk hkept⟩
    · refine .stack fun s hok hs => ?_
      obtain ⟨hsize, hvertex⟩ := hs.top
      obtain ⟨q, hq, hways⟩ := hs.ways
      obtain ⟨hne, hreach⟩ := hways _ List.mem_cons_self
      dsimp only
      split
      · next hbest => exact absurd hbest (Stack.bestPhrase_ne_none hne)
      · next phrase extras hbest =>
        obtain ⟨hwithin, hstart, hextras⟩ := Stack.bestPhrase_fills (hok.place_le bottom)
          (fun ds hds => (hreach ds hds).2) hbest
        refine .bind .ask fun state => ?_
        refine .bind (Q := fun _ => Opened n older p kept (k + 1) groups)
          (.change fun s' _ hs' => ?_) fun _ => ?_
        · subst hs'
          have hbottom : s'.reached k ≤ phrase.start := by
            rw [Stack.reached, Stack.topVertex, hvertex]
            exact hstart
          have hok' := hok.push hwithin hbottom state
          refine (hs.tail.push hok hk hkept (Nat.le_trans hextras.le hq) state).pushAll hok' hk hkept
            hq ?_ ?_
          · rw [Stack.reached_push hok, if_pos ⟨rfl, hsize⟩]
            exact hextras
          · rw [Stack.size_tops_push]
            exact hsize
        · refine .bind (mergeWithOlder_opened hk hkept groups version _) fun merged => ?_
          cases merged with
          | true => exact ih hk
          | false => exact ih (Nat.le_succ_of_le hk)

/-- There are these readings, and none of them is behind `p`. -/
def Held (p : Nat) (js : List Nat) (s : Stack) : Prop :=
  ∀ j ∈ js, j < s.tops.size ∧ s.reached j ≤ p

/-- The new readings stand on the vertices that the ways over a phrase lead down to. -/
theorem opened_of_below {n p : Nat} {js : List Nat} {s : Stack} (hok : s.Ok n) (h : Held p js s)
    {version : Nat} (hv : version ∈ js) (count : Option Nat) :
    let s' : Stack := { s with
      tops := (s.below version count).foldl (fun tops g => tops.push ⟨g.1, .active⟩) s.tops }
    s'.Ok n ∧ Opened n s.tops.size p js s.tops.size (s.below version count) s' := by
  have hways := hok.below version count
  generalize s.below version count = groups at hways
  intro s'
  have hlist : s'.tops.toList = s.tops.toList ++ groups.map fun g => (⟨g.1, .active⟩ : Top) := by
    simp [s']
  have hold : ∀ k < s.tops.size, s'.top k = s.top k := by
    intro k hk
    simp only [Stack.top, Array.getD_eq_getD_getElem?, ← Array.getElem?_toList, hlist]
    rw [List.getElem?_append_left (by simpa using hk)]
  have hnew : ∀ k, s.tops.size ≤ k →
      (s'.top k).vertex = 0 ∨ ∃ g ∈ groups, (s'.top k).vertex = g.1 := by
    intro k hk
    simp only [Stack.top, Array.getD_eq_getD_getElem?, ← Array.getElem?_toList, hlist]
    rw [List.getElem?_append_right (by simpa using hk), List.getElem?_map]
    cases hg : groups[k - s.tops.toList.length]? with
    | none => exact .inl rfl
    | some g => exact .inr ⟨g, List.mem_of_getElem? hg, rfl⟩
  have hbottom : ∀ g ∈ groups,
      g.1 < s.vertices.size ∧ (s.vertex g.1).place ≤ s.reached version := by
    intro g hg
    obtain ⟨hne, hreach⟩ := hways g hg
    obtain ⟨ds, hds⟩ := List.exists_mem_of_ne_nil _ hne
    exact ⟨(hreach ds hds).1, (hreach ds hds).2.le⟩
  refine ⟨hok.withTops fun k => ?_, ?_, ?_, ?_, ?_, s.reached version, (h version hv).2, hways⟩
  · rcases Nat.lt_or_ge k s.tops.size with hk | hk
    · rw [show ({ s with tops := s'.tops } : Stack).top k = s.top k from hold k hk]
      exact hok.top k
    · rcases hnew k hk with hzero | ⟨g, hg, hk⟩
      · exact lt_of_eq_of_lt hzero hok.bottom
      · exact lt_of_eq_of_lt hk (hbottom g hg).1
  · have hsize := congrArg List.length hlist
    simp at hsize
    omega
  · intro j hj
    rw [Stack.reached, Stack.topVertex, hold j (h j hj).1]
    exact (h j hj).2
  · intro j hj
    rw [Stack.reached, Stack.topVertex]
    rcases hnew j hj with hzero | ⟨g, hg, hk⟩
    · rw [hzero]
      exact Nat.le_trans (Nat.le_of_eq hok.place_bottom) (Nat.zero_le p)
    · rw [hk]
      exact Nat.le_trans (hbottom g hg).2 (h version hv).2
  · rw [hlist, List.drop_left' (by simp), List.map_map]
    rfl

theorem reduce_held {n p : Nat} {js : List Nat} {version : Nat} (hv : version ∈ js)
    (r : Reduction) :
    Ensures n (Held p js) (t.reduce version r) fun o s =>
      Held p (js ++ o.toList) s ∧ ∀ m, o = some m → ∀ j ∈ js, j < m := by
  unfold reduce
  refine .stack fun s hok hs => ?_
  extract_lets older groups halted
  have hkept : ∀ j ∈ js, j < older := fun j hj => (hs j hj).1
  refine .bind (Q := fun _ => Opened n older p js older groups) (.change fun s' _ hs' => ?_)
    fun _ => ?_
  · subst hs'
    exact opened_of_below hok hs hv (some r.count)
  · refine .bind (goOnFrom_opened hkept r version halted (Nat.le_refl older) groups) fun _ => ?_
    refine .stack fun s' hok' ⟨hsize, hold, hnew⟩ => ?_
    refine .pure fun s'' _ hs'' => ?_
    subst hs''
    have hjs : Held p js s'' := fun j hj => ⟨Nat.lt_of_lt_of_le (hkept j hj) hsize, hold j hj⟩
    split
    · next hlt =>
      refine ⟨fun j hj => ?_, fun m hm => ?_⟩
      · rcases List.mem_append.1 hj with hj | hj
        · exact hjs j hj
        · rw [List.mem_singleton.1 hj]
          exact ⟨hlt, hnew older (Nat.le_refl older)⟩
      · cases hm
        exact hkept
    · exact ⟨fun j hj => hjs j (by simpa using hj), fun m hm => nomatch hm⟩

/-! ## Steps of a reading -/

theorem wholeText_within {n : Nat} {parts : List Derivation} (h : ∀ d ∈ parts, d.Within n)
    {d : Derivation} (hd : wholeText parts = some d) : d.Within n := by
  rw [wholeText] at hd
  split at hd
  · next p e w gap start stop own behind hrest =>
    cases hd
    have hbefore : ∀ d ∈ parts.takeWhile Derivation.isExtra, d.Within n := fun d hd =>
      h d (List.takeWhile_subset _ hd)
    have hmain : ∀ d ∈ Derivation.phrase p e w gap start stop own :: behind, d.Within n :=
      fun d hd => h d (List.dropWhile_subset _ (hrest ▸ hd))
    obtain ⟨hphrase, hbehind⟩ := List.forall_mem_cons.1 hmain
    cases hphrase with
    | phrase hstart hstop hown =>
      refine .phrase hstart hstop fun d hd => ?_
      rcases List.mem_append.1 hd with hd | hd
      · rcases List.mem_append.1 hd with hd | hd
        · exact hbefore d hd
        · exact hown d hd
      · exact hbehind d hd
  · cases hd

/-- A reading of the whole text is made of what lies on the ways to the bottom. -/
theorem accept_ok {n : Nat} {P : Stack → Prop} (version : Nat)
    (hP : ∀ s, P s → P (s.setStatus version .over)) :
    Ensures n P (accept version) fun _ => P := by
  intro s hs hp
  refine ⟨⟨hs.stack.setStatus version .over, ?_⟩, hP _ hp⟩
  have hways : ∀ ds ∈ (s.stack.below version none).flatMap Prod.snd, ∀ d ∈ ds, d.Within n := by
    intro ds hds
    obtain ⟨g, hg, hds⟩ := List.mem_flatMap.1 hds
    exact (((hs.stack.below version none) g hg).2 ds hds).2.within
  refine List.foldlRecOn (motive := fun best : Option Derivation =>
    ∀ d, best = some d → d.Within n) _ _ hs.result
    fun best hbest ds hds => ?_
  split
  · next d b hd =>
    have hd := wholeText_within (hways ds hds) hd
    split
    · exact fun e he => Option.some.inj he ▸ hd
    · exact hbest
  · next d hd =>
    have hd := wholeText_within (hways ds hds) hd
    exact fun e he => Option.some.inj he ▸ hd
  · exact hbest

/-- What is left of a reading behind which the token `l` lies, after what can be done with the token:
the reading, and maybe a new one that goes on with the token. -/
def Performed (version start : Nat) : Outcome → Stack → Prop
  | .read, s => version < s.tops.size
  | .reduced m, s => version < m ∧ Held start [version, m] s
  | _, s => Held start [version] s

theorem perform_ok {place : Nat} {l : Lexeme} (hl : l.Lies t.text.size place) (version : Nat)
    (did : Bool) {last : Option Nat} (hlast : ∀ m, last = some m → version < m)
    (actions : List Action) :
    Ensures t.text.size (Held l.start (version :: last.toList))
      (t.perform version place l did last actions) (Performed version l.start) := by
  have hhas : ∀ {last : Option Nat} {s : Stack}, Held l.start (version :: last.toList) s →
      version < s.tops.size ∧ s.reached version ≤ l.start := fun hs => hs _ List.mem_cons_self
  have hread : ∀ (extra : Bool) (state : Stack → Nat) {P : Stack → Prop},
      (∀ s, P s → version < s.tops.size ∧ s.reached version ≤ l.start) → Ensures t.text.size P
        (Run.change fun s => s.push version (.token l.token place l.start l.stop extra) (state s))
        fun _ s => version < s.tops.size := by
    refine fun extra state P hP => .change fun s hok hs => ?_
    obtain ⟨hlt, hreached⟩ := hP s hs
    refine ⟨hok.push (.token hl.start_le hl.stop_le) hreached (state s), ?_⟩
    rw [Stack.size_tops_push]
    exact hlt
  induction actions generalizing did last with
  | nil =>
    unfold perform
    refine .pure fun s _ hs => ?_
    cases last with
    | none => cases did <;> exact hs
    | some m => exact ⟨hlast m rfl, hs⟩
  | cons action actions ih =>
    cases action with
    | shift =>
      rw [perform]
      refine .stack fun s _ hs => .bind .ask fun state => ?_
      exact .bind (hread false (fun _ => state) fun s' hs' => hs' ▸ hhas hs)
        fun _ => .pure fun s _ hs => hs
    | skip =>
      rw [perform]
      exact .bind (hread true _ fun s hs => hhas hs) fun _ => .pure fun s _ hs => hs
    | accept =>
      rw [perform]
      refine .bind (accept_ok version fun s hs j hj => ?_) fun _ => .pure fun s _ hs => (hhas hs).1
      rw [Stack.reached_setStatus, Stack.setStatus, Array.size_modify]
      exact hs j hj
    | reduce r =>
      rw [perform]
      refine .bind (reduce_held List.mem_cons_self r) fun new => ?_
      cases new with
      | none =>
        refine (ih true hlast).given fun s _ hs => ?_
        simpa using hs.1
      | some m =>
        refine .of_pre (fun s hs => hs.2 m rfl version List.mem_cons_self) fun hm => ?_
        have hnew : ∀ m', some m = some m' → version < m' := fun m' hm' => Option.some.inj hm' ▸ hm
        refine (ih true hnew).given fun s _ hs j hj => hs.1 j ?_
        rcases List.mem_cons.1 hj with rfl | hj
        · exact List.mem_append_left _ List.mem_cons_self
        · exact List.mem_append_right _ hj

theorem setStatus_size {version : Nat} {status : Status} {n : Nat} {P : Stack → Prop}
    (hP : ∀ s, P s → version < s.tops.size) :
    Ensures n P (Run.change fun s => s.setStatus version status) fun _ s =>
      version < s.tops.size := by
  refine .change fun s hok hs => ⟨hok.setStatus version status, ?_⟩
  rw [Stack.setStatus, Array.size_modify]
  exact hP s hs

/-- A reading is taken over by a later one. -/
theorem Held.takeOver {p version m : Nat} {s : Stack} (h : Held p [version, m] s)
    (hm : version < m) :
    Held p [version, m] { s with tops := s.tops.setIfInBounds version (s.top m) } := by
  intro j hj
  obtain ⟨hversion, -⟩ := h version (by simp)
  obtain ⟨hlt, hreached⟩ := h m (by simp)
  have htop : (({ s with tops := s.tops.setIfInBounds version (s.top m) } : Stack).top j) =
      s.top m := by
    rw [Stack.top_set]
    rcases List.mem_cons.1 hj with rfl | hj
    · rw [if_pos ⟨rfl, hversion⟩]
    · rw [List.mem_singleton.1 hj, if_neg (by omega)]
  refine ⟨?_, ?_⟩
  · rw [Array.size_setIfInBounds]
    exact (h j hj).1
  · rw [Stack.reached, Stack.topVertex, htop]
    exact hreached

theorem Held.drop {p version m : Nat} {s : Stack} (h : Held p [version, m] s)
    (hm : version < m) : Held p [version] (s.drop m) := by
  intro j hj
  rw [List.mem_singleton.1 hj]
  obtain ⟨-, hreached⟩ := h version (by simp)
  obtain ⟨hlt, -⟩ := h m (by simp)
  refine ⟨?_, ?_⟩
  · rw [Stack.size_tops_drop, if_pos hlt]
    omega
  · rw [Stack.reached_drop, if_pos hm]
    exact hreached

/-- The reading that was read on is still there. -/
theorem readToken_ok {place : Nat} (version fuel : Nat) {l : Lexeme}
    (hl : l.Lies t.text.size place) (isKeyword : Bool) :
    Ensures t.text.size (Held l.start [version]) (t.readToken version place fuel l isKeyword)
      fun _ s => version < s.tops.size := by
  induction fuel generalizing l isKeyword with
  | zero => exact setStatus_size fun s hs => (hs version List.mem_cons_self).1
  | succ fuel ih =>
    rw [readToken]
    refine .stack fun s hok hs => .bind .ask fun actions => ?_
    have hnone : ∀ m, (none : Option Nat) = some m → version < m := fun m hm => nomatch hm
    refine .bind ((perform_ok hl version false hnone actions).given fun s' _ hs' => hs' ▸ hs)
      fun o => ?_
    cases o with
    | read => exact .pure fun s _ hs => hs
    | reduced m =>
      refine .of_pre (F := version < m) (fun s hs => hs.1) fun hm => ?_
      refine .bind (Q := fun _ => Held l.start [version, m]) (.change fun s hok hs => ?_) fun _ => ?_
      · exact ⟨hok.set version (hok.top m), hs.2.takeOver hm⟩
      refine .bind (.change fun s hok hs => ⟨hok.drop m, hs.drop hm⟩) fun _ => ?_
      exact ih hl isKeyword
    | joined => exact setStatus_size fun s hs => (hs version List.mem_cons_self).1
    | nothing =>
      refine .bind .ask fun mode => .bind .ask fun asName => ?_
      dsimp only
      split
      · have hword : ({ l with token := t.table.word } : Lexeme).Lies t.text.size place :=
          ⟨hl.place_le, hl.start_le, hl.stop_le⟩
        exact ih hword false
      · exact setStatus_size fun s hs => (hs version List.mem_cons_self).1

theorem advance_ok (hscan : t.scanner.Sound) (version : Nat) :
    Ensures t.text.size (fun s => version < s.tops.size) (t.advance version) fun _ s =>
      version < s.tops.size := by
  rw [advance]
  refine .stack fun s hok hs => ?_
  dsimp only
  refine .bind (next_lies hscan (hok.place_le _)) fun o => ?_
  cases o with
  | none => exact setStatus_size fun s' hs' => hs'.1 ▸ hs
  | some x =>
    refine .of_pre (fun s' hs' => hs'.2 x rfl) fun hl => ?_
    refine (readToken_ok version _ hl x.2).given fun s' _ hs' j hj => ?_
    rw [List.mem_singleton.1 hj, hs'.1]
    exact ⟨hs, hl.place_le⟩

theorem advanceBeyond_ok (hscan : t.scanner.Sound) (version fuel : Nat) :
    Ensures t.text.size (fun s => version < s.tops.size) (t.advanceBeyond version fuel) fun _ _ =>
      True := by
  induction fuel with
  | zero => exact .pure fun _ _ _ => trivial
  | succ fuel ih =>
    rw [advanceBeyond]
    refine .stack fun s hok hs => ?_
    split
    · refine .bind ((advance_ok hscan version).given fun s' _ hs' => hs' ▸ hs)
        fun _ => ?_
      refine .stack fun s hok hs => ?_
      dsimp only
      refine .bind (.aside fun _ => ⟨rfl, rfl⟩) fun session => ?_
      split
      · exact (Ensures.aside fun _ => ⟨rfl, rfl⟩).mono (fun _ _ h => h) fun _ _ _ => trivial
      · exact ih.given fun s' _ hs' => hs' ▸ hs
    · exact .pure fun _ _ _ => trivial

theorem advanceAll_ok (hscan : t.scanner.Sound) (fuel version : Nat) :
    Ensures t.text.size (fun _ => True) (t.advanceAll fuel version) fun _ _ => True := by
  induction fuel generalizing version with
  | zero => exact .pure fun _ _ _ => trivial
  | succ fuel ih =>
    rw [advanceAll]
    refine .stack fun s hok hs => ?_
    split
    · next hlt =>
      refine .bind ((advanceBeyond_ok hscan version _).given fun s' _ hs' => hs' ▸ hlt)
        fun _ => ?_
      exact ih (version + 1)
    · exact .pure fun _ _ _ => trivial

theorem condense_ok {n : Nat} (fuel i j : Nat) :
    Ensures n (fun _ => True) (condense fuel i j) fun _ _ => True := by
  induction fuel generalizing i j with
  | zero => exact .pure fun _ _ _ => trivial
  | succ fuel ih =>
    rw [condense]
    refine .stack fun s hok hs => ?_
    have hchange : ∀ {f : Stack → Stack} {P : Stack → Prop} {i j : Nat},
        (∀ s : Stack, s.Ok n → (f s).Ok n) →
        Ensures n P (Run.change f >>= fun _ => condense fuel i j) fun _ _ => True := fun hf =>
      .bind (.change fun s hok _ => ⟨hf s hok, trivial⟩) fun _ => ih _ _
    have hmerge : ∀ {P : Stack → Prop} {f : Bool → Run Unit},
        (∀ b, Ensures n (fun _ => True) (f b) fun _ _ => True) →
        Ensures n P (Run.merge j i >>= f) fun _ _ => True := fun hf =>
      .bind (.merge fun _ _ _ => trivial) hf
    split
    · exact .pure fun _ _ _ => trivial
    split
    · exact hchange fun s hok => hok.drop i
    split
    · exact (ih _ _).given fun _ _ _ => trivial
    split
    · exact hchange fun s hok => hok.drop i
    · exact hchange fun s hok => hok.drop j
    · refine hmerge fun b => ?_
      split <;> exact ih _ _
    · refine hmerge fun b => ?_
      split
      · exact ih _ _
      · exact hchange fun s hok => (hok.set i (hok.top j)).set j (hok.top i)

theorem readAll_ok (hscan : t.scanner.Sound) (fuel : Nat) :
    Ensures t.text.size (fun _ => True) (t.readAll fuel) fun _ _ => True := by
  induction fuel with
  | zero => exact .pure fun _ _ _ => trivial
  | succ fuel ih =>
    rw [readAll]
    refine .bind (advanceAll_ok hscan _ 0) fun _ => ?_
    refine .stack fun s hok hs => ?_
    refine .bind ((condense_ok _ 0 0).given fun _ _ _ => trivial) fun _ => ?_
    refine .bind (Q := fun _ _ => True) (.change fun s hok _ => ⟨hok.take _, trivial⟩) fun _ => ?_
    refine .stack fun s hok hs => ?_
    dsimp only
    split
    · exact ih.given fun _ _ _ => trivial
    · exact .pure fun _ _ _ => trivial

end Task

/-- All nodes of the tree of a text lie in the text. -/
theorem parse?_within {table : Table} {scanner : Scanner} (hscan : scanner.Sound)
    {text : Array Char} {tree : Tree} (h : parse? table scanner text = some tree) :
    tree.Within text.size := by
  have hstart : Session.Ok text.size ⟨.start table, .empty, none, 0⟩ :=
    ⟨Stack.ok_empty _, fun d hd => by cases hd⟩
  have hok := (Task.readAll_ok (t := ⟨table, scanner, text⟩) hscan
    (Task.patience ⟨table, scanner, text⟩) _ hstart trivial).1
  rw [parse?] at h
  generalize StateT.run _ _ = r at h hok
  obtain ⟨d, hd, hhead⟩ := Option.bind_eq_some_iff.1 h
  exact d.shown_within table none none (List.forall_mem_nil _) (hok.result d hd) tree
    (List.mem_of_mem_head? hhead)

end CodeAtlas.Grammar
