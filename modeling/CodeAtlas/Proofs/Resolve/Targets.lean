import CodeAtlas.Proofs.Resolve.Contents
import CodeAtlas.Resolve.Link

/-!
# Targets of uses

What a name table resolves a use to is the handle of a symbol that has the name of the use
(`NameTable.resolve_ofEntries`). So where entries and symbols lie where they say, every target has a
place (`target_hasPlace`).
-/

namespace CodeAtlas

/-! ## The first element, or the first with a property -/

section First

variable {α : Type} {l : List α} {p : α → Bool} {a : α}

theorem find?_or_head?_cases (h : (l.find? p <|> l.head?) = some a) :
    l.find? p = some a ∨ (∀ b ∈ l, p b = false) ∧ l.head? = some a := by
  cases hf : l.find? p with
  | some b =>
    rw [hf] at h
    exact .inl h
  | none =>
    rw [hf] at h
    exact .inr ⟨fun b hb => by simpa using List.find?_eq_none.1 hf b hb, h⟩

theorem mem_of_find?_or_head? (h : (l.find? p <|> l.head?) = some a) :
    a ∈ l ∧ ((∃ b ∈ l, p b = true) → p a = true) := by
  rcases find?_or_head?_cases h with h | ⟨hall, h⟩
  · exact ⟨List.mem_of_find?_eq_some h, fun _ => List.find?_some h⟩
  · refine ⟨List.mem_of_head? h, ?_⟩
    rintro ⟨b, hb, hp⟩
    simp [hall b hb] at hp

theorem exists_find?_or_head? (h : a ∈ l) : ∃ b, (l.find? p <|> l.head?) = some b := by
  cases hf : l.find? p with
  | some b => exact ⟨b, rfl⟩
  | none =>
    cases l with
    | nil => cases h
    | cons b l => exact ⟨b, rfl⟩

/-- The first element, or the first with a property, comes before all others that may be taken. -/
theorem first_of_pairwise {R : α → α → Prop} (hl : l.Pairwise R)
    (h : (l.find? p <|> l.head?) = some a) {b : α} (hb : b ∈ l)
    (hp : p a = true → p b = true) : b = a ∨ R a b := by
  rcases find?_or_head?_cases h with h | ⟨-, h⟩
  -- What stands in front of the first element with the property may not be taken.
  · obtain ⟨hpa, front, back, rfl, hfront⟩ := List.find?_eq_some_iff_append.1 h
    rcases List.mem_append.1 hb with hb | hb
    · have := hfront b hb
      simp [hp hpa] at this
    · rcases List.mem_cons.1 hb with hb | hb
      · exact .inl hb
      · exact .inr ((List.pairwise_cons.1 (List.pairwise_append.1 hl).2.1).1 b hb)
  · obtain ⟨back, rfl⟩ := List.head?_eq_some_iff.1 h
    rcases List.mem_cons.1 hb with hb | hb
    · exact .inl hb
    · exact .inr ((List.pairwise_cons.1 hl).1 b hb)

end First

namespace NameTable

variable {t : NameTable} {es : List Entry}

theorem preferred?_cases {ss : List Symbol} {h : Handle} (hp : preferred? ss = some h) :
    ∃ s ∈ ss, s.handle = h ∧ ((∃ s' ∈ ss, s'.container = none) → s.container = none) := by
  obtain ⟨s, hs, rfl⟩ := Option.map_eq_some_iff.1 hp
  obtain ⟨hmem, hfirst⟩ := mem_of_find?_or_head? hs
  exact ⟨s, hmem, rfl, fun hex => by simpa using hfirst (by simpa using hex)⟩

theorem exists_preferred? {ss : List Symbol} {s : Symbol} (hs : s ∈ ss) :
    ∃ h, preferred? ss = some h := by
  obtain ⟨x, hx⟩ := exists_find?_or_head? (p := fun s => s.container.isNone) hs
  exact ⟨x.handle, congrArg (Option.map Symbol.handle) hx⟩

/-- The handle is that of a symbol of the name. -/
def MeansNamed (es : List Entry) (name : String) (h : Handle) : Prop :=
  ∃ e ∈ es, ∃ s ∈ e.symbols, s.handle = h ∧ s.name = name

theorem DeclaredIn.meansNamed {file name : String} {s : Symbol} (h : DeclaredIn es file name s) :
    MeansNamed es name s.handle := by
  obtain ⟨e, he, -, hs, hn⟩ := h
  exact ⟨e, he, s, hs, rfl, hn⟩

theorem Holds.meansNamed_of_mem (H : t.Holds es) {name : String} {h : Handle}
    (hh : h ∈ t.handlesOf name) : MeansNamed es name h := by
  rw [H.handlesOf_eq, List.mem_map] at hh
  obtain ⟨s, hs, rfl⟩ := hh
  obtain ⟨file, hd⟩ := mem_named.1 hs
  exact hd.meansNamed

theorem Holds.resolveImported (H : t.Holds es) {u : Use} {module : String} {h : Handle}
    (hr : t.resolveImported u module = some h) : MeansNamed es u.name h := by
  rw [NameTable.resolveImported] at hr
  split at hr
  · split at hr
    · next k hk =>
      obtain rfl := Option.some.inj hr
      obtain ⟨s, hs, rfl, -⟩ := preferred?_cases hk
      exact (H.declaredIn hs).meansNamed
    · split at hr
      · next k hk =>
        obtain rfl := Option.some.inj hr
        exact H.meansNamed_of_mem (hk ▸ List.mem_singleton_self k)
      · cases hr
  · dsimp only at hr
    split at hr
    · obtain ⟨file, -, hr⟩ := Option.bind_eq_some_iff.1 hr
      obtain ⟨s, hs, hr⟩ := Option.bind_eq_some_iff.1 hr
      obtain rfl := Option.some.inj hr
      exact (H.declaredIn (List.mem_of_find?_eq_some hs)).meansNamed
    · cases hr

theorem Holds.resolveAnywhere (H : t.Holds es) {name : String} {h : Handle}
    (hr : t.resolveAnywhere name = some h) : MeansNamed es name h := by
  obtain ⟨s, hs, rfl⟩ := Option.map_eq_some_iff.1 hr
  refine H.meansNamed_of_mem ?_
  rw [← H.map_handle_candidates]
  exact List.mem_map_of_mem (mem_of_find?_or_head? hs).1

theorem Holds.resolve (H : t.Holds es) {u : Use} {h : Handle} (hr : t.resolve u = some h) :
    MeansNamed es u.name h := by
  rw [NameTable.resolve] at hr
  split at hr
  · exact H.resolveImported hr
  · dsimp only at hr
    split at hr
    · obtain ⟨s, hs, rfl⟩ := Option.map_eq_some_iff.1 hr
      exact (H.declaredIn (List.mem_of_find?_eq_some hs)).meansNamed
    · cases hp : preferred? (t.symbolsNamed u.file u.name) with
      | some k =>
        rw [hp] at hr
        obtain rfl := Option.some.inj hr
        obtain ⟨s, hs, rfl, -⟩ := preferred?_cases hp
        exact (H.declaredIn hs).meansNamed
      | none =>
        rw [hp] at hr
        exact H.resolveAnywhere hr

/-- A use is resolved to the handle of one of the symbols of the project that have its name. -/
theorem resolve_ofEntries {roots : List Path} {u : Use} {h : Handle}
    (hr : (NameTable.ofEntries roots es).resolve u = some h) : MeansNamed es u.name h := by
  obtain ⟨e, he, s, hs, hh, hn⟩ := (holds_ofEntries roots es).resolve hr
  exact ⟨e, mem_inOrder.1 he, s, hs, hh, hn⟩

end NameTable

/-! ## Places -/

/-- A handle means a slot that the entry of its file has. -/
def HasPlace (entries : Table String Entry) (h : Handle) : Prop :=
  ∃ e, entries.find? h.file = some e ∧ ∃ i < e.symbols.length, h.slot = (i : Int)

/-- A symbol that lies where it says has a place. -/
theorem IsPlaced.hasPlace {entries : Table String Entry} (H : IsPlaced entries) {p : String}
    {e : Entry} (he : entries.find? p = some e) {s : Symbol} (hs : s ∈ e.symbols) :
    HasPlace entries s.handle := by
  obtain ⟨i, hi⟩ := List.getElem?_of_mem hs
  obtain ⟨hlt, -⟩ := List.getElem?_eq_some_iff.1 hi
  rw [(H.entry p e he).handle hi, H.path p e he]
  exact ⟨e, he, i, hlt, rfl⟩

/-- Where entries and symbols lie where they say every target has a place. -/
theorem target_hasPlace {roots : List Path} {entries : Table String Entry} (H : IsPlaced entries)
    {u : Use} {h : Handle}
    (ht : (NameTable.ofEntries roots entries.values).target? entries u = some h) :
    HasPlace entries h := by
  rw [NameTable.target?] at ht
  split at ht
  · obtain ⟨s, hs, rfl⟩ := Option.map_eq_some_iff.1 ht
    obtain ⟨e, he, hs⟩ := Option.bind_eq_some_iff.1 hs
    exact H.hasPlace he (List.mem_of_find?_eq_some hs)
  · obtain ⟨e, hm, s, hs, rfl, -⟩ := NameTable.resolve_ofEntries ht
    obtain ⟨p, he⟩ := Table.mem_values.1 hm
    exact H.hasPlace he hs

end CodeAtlas
