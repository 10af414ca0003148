import CodeAtlas.Index.Store

/-!
# Sound entries and generations

An entry is sound if its symbols say truly where they lie, and hold references to themselves only
(`Entry.Sound`). A table of entries is a generation if each entry is sound, lies under its own path
and has the generation's number (`IsGeneration`). Writing and removing whole entries keeps a
generation one, and in a store that holds a generation every handle of a stored symbol leads back
to that symbol (`IsGeneration.resolve_handle`).
-/

namespace CodeAtlas

/-- The symbols of an entry lie where they say. -/
structure Entry.Placed (e : Entry) : Prop where
  slot : ∀ (i : Nat) (s : Symbol), e.symbols[i]? = some s → s.slot = i
  file : ∀ s ∈ e.symbols, s.file = e.path

/-- The symbols of an entry lie where they say, and what they hold are references to them. -/
structure Entry.Sound (e : Entry) : Prop extends e.Placed where
  faulty : e.parseError.isSome = true → e.symbols = []
  target : ∀ s ∈ e.symbols, ∀ r ∈ s.references, r.target = s.handle
  generation : ∀ s ∈ e.symbols, ∀ r ∈ s.references, r.generation = e.generation

/-- Each entry lies under its own path, and its symbols lie where they say. -/
structure IsPlaced (entries : Table String Entry) : Prop where
  path : ∀ p e, entries.find? p = some e → e.path = p
  entry : ∀ p e, entries.find? p = some e → e.Placed

/-- Sound entries of one generation, each under its own path. -/
structure IsGeneration (entries : Table String Entry) (generation : Int) : Prop where
  path : ∀ p e, entries.find? p = some e → e.path = p
  generation : ∀ p e, entries.find? p = some e → e.generation = generation
  sound : ∀ p e, entries.find? p = some e → e.Sound

namespace Entry

theorem references_eq_nil_iff {e : Entry} :
    e.references = [] ↔ ∀ s ∈ e.symbols, s.references = [] := by
  simp [references]

namespace Placed

/-- The slot of a symbol is the place at which it is found. -/
theorem getElem?_slot {e : Entry} (h : e.Placed) {s : Symbol} (hs : s ∈ e.symbols) :
    0 ≤ s.slot ∧ e.symbols[s.slot.toNat]? = some s := by
  obtain ⟨i, hi⟩ := List.getElem?_of_mem hs
  rw [h.slot i s hi]
  exact ⟨Int.natCast_nonneg i, hi⟩

theorem handle {e : Entry} (h : e.Placed) {i : Nat} {s : Symbol} (hs : e.symbols[i]? = some s) :
    s.handle = ⟨e.path, i⟩ := by
  rw [Symbol.handle, h.slot i s hs, h.file s (List.mem_of_getElem? hs)]

end Placed

namespace Sound

/-- An entry without references is sound in every generation. -/
theorem regenerate {e : Entry} (h : e.Sound) (hr : e.references = []) (generation : Int) :
    { e with generation }.Sound where
  slot := h.slot
  file := h.file
  faulty := h.faulty
  target := h.target
  generation s hs r hmem := by simp [references_eq_nil_iff.1 hr s hs] at hmem

end Sound
end Entry

namespace IsGeneration

theorem placed {t : Table String Entry} {n : Int} (h : IsGeneration t n) : IsPlaced t :=
  ⟨h.path, fun p e he => (h.sound p e he).toPlaced⟩

theorem empty (n : Int) : IsGeneration .empty n where
  path _ _ h := by cases h
  generation _ _ h := by cases h
  sound _ _ h := by cases h

/-- Entries may be left out. -/
theorem mono {t t' : Table String Entry} {n : Int} (h : IsGeneration t n)
    (hle : ∀ p e, t'.find? p = some e → t.find? p = some e) : IsGeneration t' n where
  path p e he := h.path p e (hle p e he)
  generation p e he := h.generation p e (hle p e he)
  sound p e he := h.sound p e (hle p e he)

theorem insert {t : Table String Entry} {n : Int} (h : IsGeneration t n) {e : Entry}
    (hs : e.Sound) (hg : e.generation = n) : IsGeneration (t.insert e.path e) n := by
  have cases : ∀ p e', (t.insert e.path e).find? p = some e' →
      (p = e.path ∧ e' = e) ∨ t.find? p = some e' := by
    intro p e' h'
    rw [Table.find?_insert] at h'
    split at h'
    · next hp => exact .inl ⟨hp, (Option.some.inj h').symm⟩
    · exact .inr h'
  constructor <;> intro p e' h' <;> rcases cases p e' h' with ⟨rfl, rfl⟩ | h'
  · rfl
  · exact h.path p e' h'
  · exact hg
  · exact h.generation p e' h'
  · exact hs
  · exact h.sound p e' h'

/-- Entries written one by one under their paths form a generation. -/
theorem ofList {es : List Entry} {n : Int} (h : ∀ e ∈ es, e.Sound ∧ e.generation = n) :
    IsGeneration (.ofList (es.map fun e => (e.path, e))) n := by
  have cases : ∀ p e, (Table.ofList (es.map fun e => (e.path, e))).find? p = some e →
      e ∈ es ∧ e.path = p := by
    intro p e he
    obtain ⟨e', hm, heq⟩ := List.mem_map.1 (Table.mem_of_find?_ofList he)
    obtain ⟨rfl, rfl⟩ := Prod.mk.inj heq
    exact ⟨hm, rfl⟩
  constructor <;> intro p e he
  · exact (cases p e he).2
  · exact (h e (cases p e he).1).2
  · exact (h e (cases p e he).1).1

/-- What is installed is a generation if it was one before. -/
theorem install {t : Table String Entry} {n : Int} (h : IsGeneration t n) :
    (Store.install t n).entries = t := by
  obtain ⟨ps, hn⟩ := t
  simp only [Store.install, Table.map, Table.mk.injEq]
  refine (List.map_congr_left fun p hp => ?_).trans (List.map_id ps)
  have := h.generation p.1 p.2 (Table.find?_eq_some_iff.2 hp)
  obtain ⟨p, e⟩ := p
  subst this
  rfl

variable {s : Store}

theorem put (h : IsGeneration s.entries s.generation) {e : Entry} (hs : e.Sound)
    (hr : e.references = []) : IsGeneration (s.put e).entries (s.put e).generation :=
  insert (e := { e with generation := s.generation }) h (hs.regenerate hr _) rfl

/-- The handle of a stored symbol leads to that symbol. -/
theorem resolve_handle (h : IsGeneration s.entries s.generation) {p : String} {e : Entry}
    (he : s.get? p = some e) {x : Symbol} (hx : x ∈ e.symbols) :
    s.resolve x.handle (some s.generation) = .ok x := by
  obtain ⟨hn, hi⟩ := (h.sound p e he).getElem?_slot hx
  have hf : x.file = p := ((h.sound p e he).file x hx).trans (h.path p e he)
  have hs : ¬ x.slot < 0 := Int.not_lt.2 hn
  simp [Store.resolve, Symbol.handle, hf, he, hi, hs]

/-- The handle of what starts at a position leads to something that starts there. -/
theorem resolve_handleAtStart (h : IsGeneration s.entries s.generation) {path : String}
    {p : Position} {k : Handle} (hk : s.handleAtStart? path p = some k) :
    ∃ x, s.resolve k (some s.generation) = .ok x ∧ x.range.start = p := by
  obtain ⟨x, hx, rfl⟩ := Option.map_eq_some_iff.1 hk
  obtain ⟨e, he, hx⟩ := Option.bind_eq_some_iff.1 hx
  exact ⟨x, h.resolve_handle he (List.mem_of_find?_eq_some hx), by simpa using List.find?_some hx⟩

end IsGeneration
end CodeAtlas
