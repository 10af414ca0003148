import CodeAtlas.Grammar.Stack
import CodeAtlas.Proofs.Grammar.Bounds

/-!
# Ways down the stack

Each link of the stack leads from the place where its part ends to a vertex that lies before this
part (`Stack.Ok`), whatever is put on the stack or joined in it. So what lies on a way down the stack
stands one behind the other (`Stack.Ok.below`), and a phrase of it stands where its parts do
(`Stack.bestPhrase_fills`).
-/

namespace CodeAtlas.Grammar.Stack

/-- How far a reading has come. -/
def reached (s : Stack) (k : Nat) : Nat := (s.topVertex k).place

/-- A link of a vertex at the place `q`, over a text of `n` characters. -/
structure Bears (n : Nat) (s : Stack) (q : Nat) (l : Link) : Prop where
  vertex : l.vertex < s.vertices.size
  start : (s.vertex l.vertex).place ≤ l.part.start
  stop : l.part.stop = q
  within : l.part.Within n

/-- All links lead over parts of a text of `n` characters to vertices that lie before these. -/
structure Ok (n : Nat) (s : Stack) : Prop where
  bottom : 0 < s.vertices.size
  place_bottom : (s.vertex 0).place = 0
  top : ∀ k, (s.top k).vertex < s.vertices.size
  place_le : ∀ v, (s.vertex v).place ≤ n
  link : ∀ v, ∀ l ∈ (s.vertex v).links, s.Bears n (s.vertex v).place l

/-- The vertices of one stack are in the other one, at the same places. -/
structure Extends (s s' : Stack) : Prop where
  size : s.vertices.size ≤ s'.vertices.size
  place : ∀ v < s.vertices.size, (s'.vertex v).place = (s.vertex v).place

variable {n : Nat} {s s' s'' : Stack}

theorem Bears.mono {q : Nat} {l : Link} (hl : s.Bears n q l) (h : s.Extends s') :
    s'.Bears n q l where
  vertex := Nat.lt_of_lt_of_le hl.vertex h.size
  start := by
    rw [h.place _ hl.vertex]
    exact hl.start
  stop := hl.stop
  within := hl.within

theorem ok_empty (n : Nat) : empty.Ok n where
  bottom := Nat.one_pos
  place_bottom := rfl
  top k := by
    rcases k with _ | k <;> exact Nat.one_pos
  place_le v := by
    rcases v with _ | v <;> exact Nat.zero_le n
  link v l hl := by
    rcases v with _ | v <;> cases hl

/-! ## Tops -/

/-- Only the links and places matter, and that the tops are vertices. -/
theorem Ok.withTops (h : s.Ok n) {tops : Array Top}
    (ht : ∀ k, (({ s with tops := tops } : Stack).top k).vertex < s.vertices.size) :
    ({ s with tops := tops } : Stack).Ok n where
  bottom := h.bottom
  place_bottom := h.place_bottom
  top := ht
  place_le := h.place_le
  link v l hl := ⟨(h.link v l hl).vertex, (h.link v l hl).start, (h.link v l hl).stop,
    (h.link v l hl).within⟩

theorem top_setStatus (s : Stack) (m k : Nat) (status : Status) :
    ((s.setStatus m status).top k).vertex = (s.top k).vertex := by
  simp only [setStatus, top, Array.getD_eq_getD_getElem?, Array.getElem?_modify]
  split
  · cases s.tops[k]? <;> rfl
  · rfl

theorem Ok.setStatus (h : s.Ok n) (m : Nat) (status : Status) : (s.setStatus m status).Ok n :=
  h.withTops fun k => by
    have := h.top k
    rwa [← top_setStatus s m k status] at this

theorem reached_setStatus (s : Stack) (m k : Nat) (status : Status) :
    (s.setStatus m status).reached k = s.reached k := by
  rw [reached, topVertex, top_setStatus]
  rfl

theorem top_drop (s : Stack) (m k : Nat) :
    (s.drop m).top k = if k < m then s.top k else s.top (k + 1) := by
  simp only [drop, top, Array.getD_eq_getD_getElem?, ← Array.getElem?_toList,
    Array.toList_eraseIdxIfInBounds, List.getElem?_eraseIdx]
  split <;> rfl

theorem Ok.drop (h : s.Ok n) (m : Nat) : (s.drop m).Ok n :=
  h.withTops fun k => by
    have hk : ((s.drop m).top k).vertex < s.vertices.size := by
      rw [top_drop]
      split
      · exact h.top k
      · exact h.top (k + 1)
    exact hk

theorem reached_drop (s : Stack) (m k : Nat) :
    (s.drop m).reached k = if k < m then s.reached k else s.reached (k + 1) := by
  simp only [reached, topVertex, top_drop]
  split <;> rfl

theorem size_tops_drop (s : Stack) (m : Nat) :
    (s.drop m).tops.size = if m < s.tops.size then s.tops.size - 1 else s.tops.size := by
  rw [drop, ← Array.length_toList, Array.toList_eraseIdxIfInBounds, List.length_eraseIdx]
  rfl

theorem top_set (s : Stack) (i k : Nat) (x : Top) :
    ({ s with tops := s.tops.setIfInBounds i x } : Stack).top k =
      if k = i ∧ i < s.tops.size then x else s.top k := by
  simp only [top, Array.getD_eq_getD_getElem?, Array.getElem?_setIfInBounds]
  by_cases hk : i = k
  · subst hk
    by_cases hi : i < s.tops.size
    · simp [hi]
    · simp [hi]
  · simp [hk, Ne.symm hk]

theorem Ok.set (h : s.Ok n) (i : Nat) {x : Top} (hx : x.vertex < s.vertices.size) :
    ({ s with tops := s.tops.setIfInBounds i x } : Stack).Ok n :=
  h.withTops fun k => by
    rw [top_set]
    split
    · exact hx
    · exact h.top k

theorem Ok.take (h : s.Ok n) (m : Nat) : ({ s with tops := s.tops.take m } : Stack).Ok n :=
  h.withTops fun k => by
    simp only [Stack.top, Array.getD_eq_getD_getElem?, Array.take_eq_extract,
      Array.getElem?_extract]
    split
    · rw [Nat.zero_add, ← Array.getD_eq_getD_getElem?]
      exact h.top k
    · exact h.bottom

/-! ## What is put on top -/

theorem vertex_push (s : Stack) (m : Nat) (d : Derivation) (state v : Nat) :
    (s.push m d state).vertex v = if v = s.vertices.size then
      ⟨state, d.stop, [⟨(s.top m).vertex, d⟩], (s.topVertex m).weight + d.weight⟩
      else s.vertex v := by
  simp only [push, topVertex, vertex, Array.getD_eq_getD_getElem?, Array.getElem?_push]
  split <;> rfl

theorem extends_push (s : Stack) (m : Nat) (d : Derivation) (state : Nat) :
    s.Extends (s.push m d state) where
  size := by simp [push]
  place v hv := by rw [vertex_push, if_neg (Nat.ne_of_lt hv)]

theorem top_push (s : Stack) (m : Nat) (d : Derivation) (state k : Nat) :
    ((s.push m d state).top k).vertex =
      if k = m ∧ m < s.tops.size then s.vertices.size else (s.top k).vertex := by
  simp only [push, top, Array.getD_eq_getD_getElem?, Array.getElem?_modify]
  by_cases hk : m = k
  · subst hk
    by_cases hm : m < s.tops.size
    · simp [hm]
    · simp [hm]
  · simp [hk, Ne.symm hk]

theorem reached_push (h : s.Ok n) (m : Nat) (d : Derivation) (state k : Nat) :
    (s.push m d state).reached k = if k = m ∧ m < s.tops.size then d.stop else s.reached k := by
  rw [reached, topVertex, top_push]
  split
  · rw [vertex_push, if_pos rfl]
  · rw [vertex_push, if_neg (Nat.ne_of_lt (h.top k))]
    rfl

theorem size_tops_push (s : Stack) (m : Nat) (d : Derivation) (state : Nat) :
    (s.push m d state).tops.size = s.tops.size := Array.size_modify

/-- What is put on top of a reading begins where the reading has come to, or behind it. -/
theorem Ok.push (h : s.Ok n) {m : Nat} {d : Derivation} (hd : d.Within n)
    (hs : s.reached m ≤ d.start) (state : Nat) : (s.push m d state).Ok n := by
  have hsize : (s.push m d state).vertices.size = s.vertices.size + 1 := by simp [Stack.push]
  have hext := s.extends_push m d state
  constructor
  · rw [hsize]
    exact Nat.succ_pos _
  · rw [hext.place 0 h.bottom, h.place_bottom]
  · intro k
    rw [top_push, hsize]
    split
    · exact Nat.lt_succ_self _
    · exact Nat.lt_succ_of_lt (h.top k)
  · intro v
    rw [vertex_push]
    split
    · exact hd.stop_le
    · exact h.place_le v
  · intro v l hl
    rw [vertex_push] at hl ⊢
    split
    · next hv =>
      rw [if_pos hv, List.mem_singleton] at hl
      subst hl
      refine ⟨Nat.lt_of_lt_of_le (h.top m) hext.size, ?_, rfl, hd⟩
      rw [hext.place _ (h.top m)]
      exact hs
    · next hv =>
      rw [if_neg hv] at hl
      exact (h.link v l hl).mono hext

/-! ## Joined readings -/

/-- The same tops at the same places. -/
structure Same (s s' : Stack) : Prop where
  tops : s'.tops = s.tops
  size : s'.vertices.size = s.vertices.size
  place : ∀ v, (s'.vertex v).place = (s.vertex v).place

namespace Same

theorem refl (s : Stack) : s.Same s := ⟨rfl, rfl, fun _ => rfl⟩

theorem trans (h : s.Same s') (h' : s'.Same s'') : s.Same s'' :=
  ⟨h'.tops.trans h.tops, h'.size.trans h.size, fun v => (h'.place v).trans (h.place v)⟩

theorem extended (h : s.Same s') : s.Extends s' := ⟨Nat.le_of_eq h.size.symm, fun v _ => h.place v⟩

theorem reached (h : s.Same s') (k : Nat) : s'.reached k = s.reached k := by
  rw [Stack.reached, topVertex, h.place, Stack.top, h.tops]
  rfl

end Same

theorem vertex_modify (s : Stack) (m v : Nat) (f : Vertex → Vertex) :
    ({ s with vertices := s.vertices.modify m f } : Stack).vertex v =
      if v = m ∧ m < s.vertices.size then f (s.vertex v) else s.vertex v := by
  simp only [vertex, Array.getD_eq_getD_getElem?, Array.getElem?_modify]
  by_cases hv : m = v
  · subst hv
    by_cases hm : m < s.vertices.size
    · simp [hm]
    · simp [hm]
  · simp [hv, Ne.symm hv]

/-- A vertex may get other links that lead to it. -/
theorem Ok.modify (h : s.Ok n) {m : Nat} {f : Vertex → Vertex}
    (hplace : ∀ v, (f v).place = v.place)
    (hlinks : ∀ l ∈ (f (s.vertex m)).links, s.Bears n (s.vertex m).place l) :
    ({ s with vertices := s.vertices.modify m f } : Stack).Ok n ∧
      s.Same { s with vertices := s.vertices.modify m f } := by
  have hsame : s.Same { s with vertices := s.vertices.modify m f } := by
    refine ⟨rfl, Array.size_modify, fun v => ?_⟩
    rw [vertex_modify]
    split
    · exact hplace _
    · rfl
  refine ⟨⟨?_, ?_, ?_, ?_, ?_⟩, hsame⟩
  · rw [hsame.size]
    exact h.bottom
  · rw [hsame.place, h.place_bottom]
  · intro k
    rw [hsame.size]
    exact h.top k
  · intro v
    rw [hsame.place]
    exact h.place_le v
  · intro v l hl
    rw [hsame.place]
    rw [vertex_modify] at hl
    split at hl
    · next hv =>
      rw [hv.1] at hl ⊢
      exact (hlinks l hl).mono hsame.extended
    · exact (h.link v l hl).mono hsame.extended

theorem Ok.raise (h : s.Ok n) (m : Nat) (weight : Int) :
    (s.raise m weight).Ok n ∧ s.Same (s.raise m weight) :=
  h.modify (fun _ => rfl) (h.link m)

/-- Links that lead to a vertex may be added to it. -/
theorem Ok.addLinks {m : Nat} (add : Link → Stack → Stack)
    (hadd : ∀ {s l}, s.Ok n → s.Bears n (s.vertex m).place l →
      (add l s).Ok n ∧ s.Same (add l s)) (h : s.Ok n) {ls : List Link}
    (hls : ∀ l ∈ ls, s.Bears n (s.vertex m).place l) :
    (ls.foldl (fun s l => add l s) s).Ok n ∧ s.Same (ls.foldl (fun s l => add l s) s) := by
  induction ls generalizing s with
  | nil => exact ⟨h, .refl s⟩
  | cons l ls ih =>
    obtain ⟨hl, hls⟩ := List.forall_mem_cons.1 hls
    obtain ⟨hok, hsame⟩ := hadd h hl
    have hrest : ∀ l' ∈ ls, (add l s).Bears n ((add l s).vertex m).place l' := by
      intro l' hl'
      rw [hsame.place]
      exact (hls l' hl').mono hsame.extended
    obtain ⟨hok', hsame'⟩ := ih hok hrest
    exact ⟨hok', hsame.trans hsame'⟩

theorem Ok.addLink (fuel : Nat) {m : Nat} {l : Link} (h : s.Ok n)
    (hl : s.Bears n (s.vertex m).place l) :
    (addLink fuel m l s).Ok n ∧ s.Same (addLink fuel m l s) := by
  induction fuel generalizing s m l with
  | zero => exact ⟨h, .refl s⟩
  | succ fuel ih =>
    rw [Stack.addLink]
    split
    · exact ⟨h, .refl s⟩
    dsimp only
    split
    · next i hi =>
      obtain ⟨hlt, hlike, -⟩ := List.findIdx?_eq_some_iff_getElem.1 hi
      rw [List.getD_eq_getElem?_getD, List.getElem?_eq_getElem hlt, Option.getD_some]
      split
      · split
        · refine h.modify (fun _ => rfl) fun l' hl' => ?_
          rcases List.mem_or_eq_of_mem_set hl' with hl' | rfl
          · exact h.link m l' hl'
          · exact hl
        · exact ⟨h, .refl s⟩
      · next hne =>
        -- The vertices below are in the same state at the same place: they become one.
        simp only [Bool.and_eq_true, Bool.or_eq_true, decide_eq_true_eq, hne, false_or] at hlike
        obtain ⟨-, -, hplace⟩ := hlike
        have hbelow : ∀ l' ∈ (s.vertex l.vertex).links,
            s.Bears n (s.vertex (s.vertex m).links[i].vertex).place l' := by
          rw [hplace]
          exact h.link l.vertex
        obtain ⟨hok, hsame⟩ := h.addLinks (addLink fuel _) (fun h hl => ih h hl) hbelow
        obtain ⟨hok', hsame'⟩ := hok.raise m ((s.vertex l.vertex).weight + l.part.weight)
        exact ⟨hok', hsame.trans hsame'⟩
    · split
      · exact ⟨h, .refl s⟩
      · have hlinks : ∀ l' ∈ (s.vertex m).links ++ [l], s.Bears n (s.vertex m).place l' := by
          intro l' hl'
          rcases List.mem_append.1 hl' with hl' | hl'
          · exact h.link m l' hl'
          · rw [List.mem_singleton.1 hl']
            exact hl
        obtain ⟨hok, hsame⟩ := h.modify (f := fun v => { v with links := v.links ++ [l] })
          (fun _ => rfl) hlinks
        obtain ⟨hok', hsame'⟩ := hok.raise m ((s.vertex l.vertex).weight + l.part.weight)
        exact ⟨hok', hsame.trans hsame'⟩

/-- Joined readings: the second one is dropped. -/
theorem Ok.merge (h : s.Ok n) (i j : Nat) :
    (s.merge i j).1.Ok n ∧
      (s.merge i j = (s, false) ∨ ∃ s', s.Same s' ∧ s.merge i j = (s'.drop j, true)) := by
  rw [Stack.merge]
  dsimp only
  split
  · next heq =>
    simp only [Bool.and_eq_true, decide_eq_true_eq] at heq
    have hlinks : ∀ l ∈ (s.topVertex j).links, s.Bears n (s.vertex (s.top i).vertex).place l := by
      rw [show (s.vertex (s.top i).vertex).place = (s.topVertex j).place from heq.2]
      exact h.link (s.top j).vertex
    obtain ⟨hok, hsame⟩ := h.addLinks
      (fun l t => Stack.addLink (t.vertices.size + 1) (s.top i).vertex l t)
      (fun h hl => h.addLink _ hl) hlinks
    exact ⟨hok.drop j, .inr ⟨_, hsame, rfl⟩⟩
  · exact ⟨h, .inl rfl⟩

/-! ## Ways down -/

/-- A way down to a vertex, over parts that end at `q`. -/
def Reaches (n : Nat) (s : Stack) (q v : Nat) (parts : List Derivation) : Prop :=
  v < s.vertices.size ∧ Chain n (s.vertex v).place parts q

theorem Reaches.mono {q v : Nat} {parts : List Derivation} (hr : s.Reaches n q v parts)
    (h : s.Extends s') : s'.Reaches n q v parts :=
  ⟨Nat.lt_of_lt_of_le hr.1 h.size, by rw [h.place v hr.1]; exact hr.2⟩

/-- A way down may be followed over a link. -/
theorem Ok.reaches_link (h : s.Ok n) {q v : Nat} {parts : List Derivation}
    (hr : s.Reaches n q v parts) {l : Link} (hl : l ∈ (s.vertex v).links) :
    s.Reaches n q l.vertex (l.part :: parts) := by
  obtain ⟨hv, hstart, hstop, hwithin⟩ := h.link v l hl
  exact ⟨hv, .cons hstart hwithin (hstop ▸ hr.2)⟩

/-- The ways that a step has come to so far, the arrived ones and the others, all lead down. -/
def LeadDown (n : Nat) (s : Stack) (q : Nat)
    (acc : (List (Nat × List Derivation) × List Walk) × (List Walk × Nat)) : Prop :=
  (∀ f ∈ acc.1.1, s.Reaches n q f.1 f.2) ∧
    (∀ w ∈ acc.1.2, s.Reaches n q w.vertex w.parts) ∧
    ∀ w ∈ acc.2.1, s.Reaches n q w.vertex w.parts

theorem Ok.walkOnce (h : s.Ok n) {q : Nat} (count : Option Nat) {walks : List Walk}
    (hw : ∀ w ∈ walks, s.Reaches n q w.vertex w.parts) :
    (∀ f ∈ (s.walkOnce count walks).1, s.Reaches n q f.1 f.2) ∧
      ∀ w ∈ (s.walkOnce count walks).2, s.Reaches n q w.vertex w.parts := by
  rw [Stack.walkOnce]
  generalize hall : List.foldl _ _ walks = all
  have hdown : s.LeadDown n q all := by
    rw [← hall]
    refine List.foldlRecOn walks _ ⟨?_, ?_, ?_⟩ fun acc ⟨hfound, hfirst, hmore⟩ w hmem => ?_
    · exact fun f hf => nomatch hf
    · exact fun w hw => nomatch hw
    · exact fun w hw => nomatch hw
    have hfound' : ∀ (arrived : Bool),
        ∀ f ∈ if arrived = true then (w.vertex, w.parts) :: acc.1.1 else acc.1.1,
        s.Reaches n q f.1 f.2 := by
      intro arrived
      split
      · exact List.forall_mem_cons.2 ⟨hw w hmem, hfound⟩
      · exact hfound
    have hlinks : ∀ (arrived : Bool) (ls : List Link),
        (if arrived = true then [] else (s.vertex w.vertex).links) = ls →
        ∀ l ∈ ls, s.Reaches n q l.vertex (l.part :: w.parts) := by
      rintro arrived ls rfl l hl
      split at hl
      · cases hl
      · exact h.reaches_link (hw w hmem) hl
    dsimp only
    split
    · exact ⟨hfound' _, hfirst, hmore⟩
    · next l ls hls =>
      obtain ⟨hl, hls⟩ := List.forall_mem_cons.1 (hlinks _ _ hls)
      refine ⟨hfound' _, List.forall_mem_cons.2 ⟨hl, hfirst⟩, fun w' hw' => ?_⟩
      rcases List.mem_append.1 hw' with hw' | hw'
      · obtain ⟨l', hl', rfl⟩ := List.mem_map.1 (List.mem_reverse.1 hw')
        exact hls l' (List.mem_of_mem_take hl')
      · exact hmore w' hw'
  dsimp only
  obtain ⟨hfound, hfirst, hmore⟩ := hdown
  refine ⟨fun f hf => hfound f (List.mem_reverse.1 hf), fun w hw => ?_⟩
  rcases List.mem_append.1 hw with hw | hw
  · exact hfirst w (List.mem_reverse.1 hw)
  · exact hmore w (List.mem_reverse.1 hw)

theorem Ok.walkAll (h : s.Ok n) {q : Nat} (count : Option Nat) (fuel : Nat) {walks : List Walk}
    (hw : ∀ w ∈ walks, s.Reaches n q w.vertex w.parts) :
    ∀ f ∈ s.walkAll count fuel walks, s.Reaches n q f.1 f.2 := by
  induction fuel generalizing walks with
  | zero => exact fun f hf => nomatch hf
  | succ fuel ih =>
    cases walks with
    | nil => exact fun f hf => nomatch hf
    | cons w ws =>
      obtain ⟨hfound, hmore⟩ := h.walkOnce count hw
      intro f hf
      rcases List.mem_append.1 hf with hf | hf
      · exact hfound f hf
      · exact ih hmore f hf

/-- Something for each key, and all of it as it should be. -/
def Gathered {α : Type} (P : Nat → α → Prop) (groups : List (Nat × List α)) : Prop :=
  ∀ g ∈ groups, g.2 ≠ [] ∧ ∀ a ∈ g.2, P g.1 a

theorem Gathered.gather {α : Type} {P : Nat → α → Prop} {groups : List (Nat × List α)}
    (h : Gathered P groups) {key : Nat} {a : α} (ha : P key a) :
    Gathered P (gather groups key a) := by
  induction groups with
  | nil => simpa [Stack.gather, Gathered] using ha
  | cons g groups ih =>
    obtain ⟨⟨hne, hg⟩, hrest⟩ := List.forall_mem_cons.1 h
    rw [Stack.gather]
    split
    · next hkey =>
      refine List.forall_mem_cons.2 ⟨⟨by simp, fun b hb => ?_⟩, hrest⟩
      rcases List.mem_append.1 hb with hb | hb
      · exact hg b hb
      · rw [List.mem_singleton.1 hb, hkey]
        exact ha
    · exact List.forall_mem_cons.2 ⟨⟨hne, hg⟩, ih hrest⟩

/-- What lies on the ways down from a reading stands one behind the other. -/
theorem Ok.below (h : s.Ok n) (k : Nat) (count : Option Nat) :
    Gathered (s.Reaches n (s.reached k)) (s.below k count) := by
  have hstart : ∀ w ∈ [(⟨(s.top k).vertex, [], 0⟩ : Walk)],
      s.Reaches n (s.reached k) w.vertex w.parts := by
    intro w hw
    rw [List.mem_singleton.1 hw]
    exact ⟨h.top k, .nil _⟩
  have hwalks := h.walkAll count (s.vertices.size + 1) hstart
  rw [Stack.below]
  generalize s.walkAll count (s.vertices.size + 1) [⟨(s.top k).vertex, [], 0⟩] = found at hwalks
  have hall : ∀ groups, Gathered (s.Reaches n (s.reached k)) groups →
      Gathered (s.Reaches n (s.reached k))
        (found.foldl (fun groups w => Stack.gather groups w.1 w.2) groups) := by
    induction found with
    | nil => exact fun groups hg => hg
    | cons f found ih =>
      obtain ⟨hf, hfound⟩ := List.forall_mem_cons.1 hwalks
      exact fun groups hg => ih hfound _ (hg.gather hf)
  exact hall [] fun g hg => nomatch hg

/-! ## Phrases of what lies on a way -/

theorem splitExtras_append (parts : List Derivation) :
    (splitExtras parts).1 ++ (splitExtras parts).2 = parts := by
  have hsuffix : (parts.reverse.takeWhile Derivation.isExtra).reverse <:+ parts := by
    rw [← List.reverse_prefix, List.reverse_reverse]
    exact List.takeWhile_prefix _
  obtain ⟨own, hown⟩ := hsuffix
  rw [splitExtras]
  dsimp only
  generalize (parts.reverse.takeWhile Derivation.isExtra).reverse = extras at hown
  subst hown
  simp

/-- A phrase and the extras behind it, from `p` on up to `q`. -/
def Fills (n p q : Nat) (x : Derivation × List Derivation) : Prop :=
  x.1.Within n ∧ p ≤ x.1.start ∧ Chain n x.1.stop x.2 q

/-- A phrase of parts one behind the other stands where they do. -/
theorem bestPhrase_fills {r : Reduction} {p q : Nat} (hp : p ≤ n)
    {ways : List (List Derivation)} (h : ∀ parts ∈ ways, Chain n p parts q)
    {x : Derivation × List Derivation} (hx : bestPhrase r p ways = some x) : Fills n p q x := by
  cases ways with
  | nil => cases hx
  | cons w ways =>
    obtain ⟨hw, hways⟩ := List.forall_mem_cons.1 h
    have hmake : ∀ parts, Chain n p parts q →
        Fills n p q (.ofParts r.phrase r.ending p (splitExtras parts).1, (splitExtras parts).2) := by
      intro parts hparts
      rw [← splitExtras_append parts] at hparts
      obtain ⟨m, hown, hextras⟩ := hparts.split
      obtain ⟨hwithin, hstart, hstop⟩ := Derivation.within_ofParts hown hp r.phrase r.ending
      exact ⟨hwithin, hstart, hstop ▸ hextras⟩
    rw [bestPhrase, Option.some.injEq] at hx
    rw [← hx]
    refine List.foldlRecOn ways _ (hmake w hw) fun best hbest parts hparts => ?_
    dsimp only
    split
    · exact hmake parts (hways parts hparts)
    · exact hbest

theorem bestPhrase_ne_none {r : Reduction} {p : Nat} {ways : List (List Derivation)}
    (h : ways ≠ []) : bestPhrase r p ways ≠ none := by
  cases ways with
  | nil => exact absurd rfl h
  | cons w ways => exact Option.some_ne_none _

end CodeAtlas.Grammar.Stack
