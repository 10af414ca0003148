import CodeAtlas.Proofs.Index.Sound
import CodeAtlas.Resolve.NameTable
import Mathlib.Data.List.Nodup

/-!
# What a name table holds

A name table is made entry by entry, in the order of their paths, and symbol by symbol.
`NameTable.Names` says what it then knows of the symbols: under each name their handles in order,
and under each handle a symbol that has it. `NameTable.Holds` says what it knows of the files. Both
are kept by each step and so hold of the table of a project (`NameTable.holds_ofEntries`), in which
every handle has a symbol behind it.

As entries of different paths have only one order, the table does not hang on the one in which they
are given (`NameTable.ofEntries_perm`).
-/

namespace CodeAtlas

namespace NameTable

/-- The entries of a project in the order in which a name table takes them. -/
def inOrder (es : List Entry) : List Entry := es.mergeSort fun a b => decide (a.path ≤ b.path)

/-- The table knows the symbols and no others, by name in their order. -/
structure Names (t : NameTable) (ss : List Symbol) : Prop where
  handlesOf : ∀ n, t.handlesOf n = (ss.filter fun s => s.name = n).map Symbol.handle
  symbol : ∀ h s, t.symbols.find? h = some s → s ∈ ss ∧ s.handle = h
  known : ∀ s ∈ ss, (t.symbols.find? s.handle).isSome = true

/-- The table knows the files of the entries and no others, and their symbols. -/
structure Holds (t : NameTable) (es : List Entry) : Prop where
  names : t.Names (es.flatMap Entry.symbols)
  file : ∀ p ss, t.files.find? p = some ss → ∃ e ∈ es, e.path = p ∧ e.symbols = ss
  symbols : (es.map Entry.path).Nodup → ∀ e ∈ es, t.files.find? e.path = some e.symbols

variable {t : NameTable}

/-! ## Making a table -/

theorem Names.addSymbol {ss : List Symbol} (H : t.Names ss) (s : Symbol) :
    (t.addSymbol s).Names (ss ++ [s]) where
  handlesOf n := by
    have hn := H.handlesOf n
    rw [List.filter_append, List.map_append, ← hn]
    simp only [NameTable.handlesOf, NameTable.addSymbol, Table.find?_insert]
    by_cases h : n = s.name
    · simp [h]
    · simp [h, Ne.symm h]
  symbol h x hx := by
    simp only [NameTable.addSymbol, Table.find?_insert] at hx
    split at hx
    · next hh =>
      obtain rfl := Option.some.inj hx
      exact ⟨by simp, hh.symm⟩
    · obtain ⟨hmem, hh⟩ := H.symbol h x hx
      exact ⟨List.mem_append_left _ hmem, hh⟩
  known x hx := by
    simp only [NameTable.addSymbol, Table.find?_insert]
    split
    · rfl
    · next hne =>
      rcases List.mem_append.1 hx with hx | hx
      · exact H.known x hx
      · exact absurd (congrArg Symbol.handle (List.mem_singleton.1 hx)) hne

theorem Names.addSymbols {ss : List Symbol} (H : t.Names ss) (more : List Symbol) :
    (more.foldl NameTable.addSymbol t).Names (ss ++ more) := by
  induction more generalizing t ss with
  | nil => simpa using H
  | cons s more ih => simpa using ih (H.addSymbol s)

/-- Entering symbols leaves the files as they are. -/
theorem files_addSymbols (t : NameTable) (ss : List Symbol) :
    (ss.foldl addSymbol t).files = t.files := by
  induction ss generalizing t with
  | nil => rfl
  | cons s ss ih => exact ih _

theorem Holds.addEntry {es : List Entry} (H : t.Holds es) (roots : List Path) (e : Entry) :
    (t.addEntry roots e).Holds (es ++ [e]) := by
  -- The module table is set last, and neither names nor files hang on it.
  have hfiles : (t.addEntry roots e).files = t.files.insert e.path e.symbols :=
    files_addSymbols _ e.symbols
  constructor
  · have hnames : ({ t with files := t.files.insert e.path e.symbols } : NameTable).Names _ :=
      ⟨H.names.handlesOf, H.names.symbol, H.names.known⟩
    have := hnames.addSymbols e.symbols
    rw [List.flatMap_append, List.flatMap_singleton]
    exact ⟨this.handlesOf, this.symbol, this.known⟩
  · intro p ss h
    rw [hfiles, Table.find?_insert] at h
    split at h
    · next hp => exact ⟨e, by simp, hp.symm, Option.some.inj h⟩
    · obtain ⟨e', he', hp, hs⟩ := H.file p ss h
      exact ⟨e', List.mem_append_left _ he', hp, hs⟩
  · intro hn x hx
    rw [List.map_append, List.nodup_append] at hn
    obtain ⟨hn, -, hapart⟩ := hn
    rw [hfiles, Table.find?_insert]
    rcases List.mem_append.1 hx with hx | hx
    · rw [if_neg (hapart _ (List.mem_map_of_mem hx) _ (by simp))]
      exact H.symbols hn x hx
    · obtain rfl := List.mem_singleton.1 hx
      exact if_pos rfl

theorem Holds.addEntries {es : List Entry} (H : t.Holds es) (roots : List Path)
    (more : List Entry) : (more.foldl (NameTable.addEntry roots) t).Holds (es ++ more) := by
  induction more generalizing t es with
  | nil => simpa using H
  | cons e more ih => simpa using ih (H.addEntry roots e)

theorem names_empty : NameTable.empty.Names [] where
  handlesOf _ := rfl
  symbol _ _ h := by cases h
  known _ h := by cases h

theorem holds_empty : NameTable.empty.Holds [] where
  names := names_empty
  file _ _ h := by cases h
  symbols _ _ h := by cases h

theorem ofEntries_eq (roots : List Path) (es : List Entry) :
    ofEntries roots es = (inOrder es).foldl (addEntry roots) empty := rfl

/-- The table of a project holds its entries in the order of their paths. -/
theorem holds_ofEntries (roots : List Path) (es : List Entry) :
    (ofEntries roots es).Holds (inOrder es) := by
  have h := holds_empty.addEntries roots (inOrder es)
  rwa [List.nil_append, ← ofEntries_eq] at h

/-- The files of the table are written entry by entry. -/
theorem files_addEntries (roots : List Path) (t : NameTable) (es : List Entry) :
    (es.foldl (addEntry roots) t).files =
      (es.map fun e => (e.path, e.symbols)).foldl (fun fs p => fs.insert p.1 p.2) t.files := by
  induction es generalizing t with
  | nil => rfl
  | cons e es ih =>
    have hfiles : (t.addEntry roots e).files = t.files.insert e.path e.symbols :=
      files_addSymbols _ e.symbols
    rw [List.foldl_cons, ih, hfiles, List.map_cons, List.foldl_cons]

/-! ## The order of entries -/

theorem mem_inOrder {es : List Entry} {e : Entry} : e ∈ inOrder es ↔ e ∈ es := List.mem_mergeSort

theorem inOrder_sorted (es : List Entry) : (inOrder es).Pairwise fun a b => a.path ≤ b.path := by
  have h : (inOrder es).Pairwise fun a b => decide (a.path ≤ b.path) = true :=
    List.pairwise_mergeSort (fun a b c => by simpa using String.le_trans)
      (fun a b => by simpa using String.le_total _ _) es
  exact h.imp fun h => by simpa using h

theorem inOrder_nodup {es : List Entry} (h : (es.map Entry.path).Nodup) :
    ((inOrder es).map Entry.path).Nodup :=
  ((List.mergeSort_perm es _).map Entry.path).nodup_iff.2 h

/-- Entries of different paths have only one order. -/
theorem inOrder_perm {es es' : List Entry} (h : (es.map Entry.path).Nodup) (hp : es.Perm es') :
    inOrder es = inOrder es' := by
  have hperm : (inOrder es).Perm (inOrder es') :=
    (List.mergeSort_perm es _).trans (hp.trans (List.mergeSort_perm es' _).symm)
  refine hperm.eq_of_pairwise (fun a b ha hb hle hge => ?_) (inOrder_sorted es) (inOrder_sorted es')
  exact List.inj_on_of_nodup_map h (mem_inOrder.1 ha) (hp.mem_iff.2 (mem_inOrder.1 hb))
    (String.le_antisymm hle hge)

/-- The table of a project does not hang on the order in which its entries are given. -/
theorem ofEntries_perm (roots : List Path) {es es' : List Entry} (h : (es.map Entry.path).Nodup)
    (hp : es.Perm es') : ofEntries roots es = ofEntries roots es' := by
  rw [ofEntries_eq, ofEntries_eq, inOrder_perm h hp]

/-- The table of a project has the files of its entries and no others. -/
theorem hasFile_ofEntries {roots : List Path} {es : List Entry} {p : String} :
    (ofEntries roots es).hasFile p = true ↔ ∃ e ∈ es, e.path = p := by
  rw [hasFile, ofEntries_eq, files_addEntries]
  refine Table.contains_ofList.trans ?_
  simp [mem_inOrder]

/-! ## Looking symbols up -/

/-- The symbol is a declaration of the name in the file. -/
def DeclaredIn (es : List Entry) (file name : String) (s : Symbol) : Prop :=
  ∃ e ∈ es, e.path = file ∧ s ∈ e.symbols ∧ s.name = name

/-- The symbols of a name in a project. -/
def named (es : List Entry) (name : String) : List Symbol :=
  (es.flatMap Entry.symbols).filter fun s => s.name = name

theorem mem_named {es : List Entry} {name : String} {s : Symbol} :
    s ∈ named es name ↔ ∃ file, DeclaredIn es file name s := by
  simp only [named, DeclaredIn, List.mem_filter, List.mem_flatMap, decide_eq_true_eq]
  constructor
  · rintro ⟨⟨e, he, hs⟩, hn⟩
    exact ⟨e.path, e, he, rfl, hs, hn⟩
  · rintro ⟨file, e, he, -, hs, hn⟩
    exact ⟨⟨e, he, hs⟩, hn⟩

variable {es : List Entry}

theorem Holds.handlesOf_eq (H : t.Holds es) (name : String) :
    t.handlesOf name = (named es name).map Symbol.handle := H.names.handlesOf name

theorem Holds.declaredIn (H : t.Holds es) {file name : String} {s : Symbol}
    (h : s ∈ t.symbolsNamed file name) : DeclaredIn es file name s := by
  obtain ⟨hs, hn⟩ := List.mem_filter.1 h
  rw [symbolsOf] at hs
  cases hf : t.files.find? file with
  | none => simp [hf] at hs
  | some ss =>
    obtain ⟨e, he, hp, rfl⟩ := H.file file ss hf
    exact ⟨e, he, hp, by simpa [hf] using hs, by simpa using hn⟩

/-- Where no path occurs twice, a file is known to have the symbols of its entry. -/
theorem Holds.mem_symbolsNamed (H : t.Holds es) (hn : (es.map Entry.path).Nodup)
    {file name : String} {s : Symbol} :
    s ∈ t.symbolsNamed file name ↔ DeclaredIn es file name s := by
  refine ⟨H.declaredIn, ?_⟩
  rintro ⟨e, he, rfl, hs, hname⟩
  refine List.mem_filter.2 ⟨?_, by simpa using hname⟩
  rw [symbolsOf, H.symbols hn e he]
  exact hs

/-- No handle that is known by a name is without a symbol. -/
theorem Holds.symbol_of_mem_handlesOf (H : t.Holds es) {name : String} {h : Handle}
    (hh : h ∈ t.handlesOf name) : ∃ s, t.symbols.find? h = some s ∧ s.handle = h := by
  rw [H.handlesOf_eq, List.mem_map] at hh
  obtain ⟨s, hs, rfl⟩ := hh
  obtain ⟨x, hx⟩ := Option.isSome_iff_exists.1 (H.names.known s (List.mem_filter.1 hs).1)
  exact ⟨x, hx, (H.names.symbol _ x hx).2⟩

/-- The symbols behind the handles of a name have these handles. -/
theorem Holds.map_handle_candidates (H : t.Holds es) (name : String) :
    ((t.handlesOf name).filterMap t.symbols.find?).map Symbol.handle = t.handlesOf name := by
  have all : ∀ hs : List Handle, (∀ h ∈ hs, ∃ s, t.symbols.find? h = some s ∧ s.handle = h) →
      (hs.filterMap t.symbols.find?).map Symbol.handle = hs := by
    intro hs
    induction hs with
    | nil => exact fun _ => rfl
    | cons h hs ih =>
      intro hall
      obtain ⟨s, hs', hh⟩ := hall h List.mem_cons_self
      rw [List.filterMap_cons_some hs', List.map_cons, hh,
        ih fun k hk => hall k (List.mem_cons_of_mem _ hk)]
  exact all _ fun h => H.symbol_of_mem_handlesOf

end NameTable
end CodeAtlas
