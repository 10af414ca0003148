import CodeAtlas.Proofs.Indexer.Prepared

/-!
# Entries apart from their dates

An entry knows the generation it belongs to and the moment at which its file was looked at, and its
references know their generation. Nothing that a build does to entries depends on these dates: what
it reads, links and embeds in another generation and at another moment is the same but for the dates
(`Setup.extractFile_redate`, `BuildJob.linked_redate`, `Setup.embedAll_redate`), and so is what it
prepares (`BuildJob.prepare_redate`), provided that the model's answers depend on nothing but the
texts (`Setup.Steady`).
-/

namespace CodeAtlas

/-- The reference as it is recorded in another generation. -/
def Reference.redate (n : Int) (r : Reference) : Reference := { r with generation := n }

/-- The symbol with its references in another generation. -/
def Symbol.redate (n : Int) (x : Symbol) : Symbol :=
  { x with references := x.references.map (Reference.redate n) }

/-- The entry as it is made in another generation and at another moment. -/
def Entry.redate (n : Int) (k : Nat) (e : Entry) : Entry :=
  { e with generation := n, stamp := k, symbols := e.symbols.map (Symbol.redate n) }

/-- The entry without its dates. -/
def Entry.undated (e : Entry) : Entry := e.redate 0 0

/-- The symbol with other references. -/
def Symbol.relink (g : Handle → List Reference → List Reference) (x : Symbol) : Symbol :=
  { x with references := g x.handle x.references }

/-- The entry with other dates, and with other references to its symbols. -/
def Entry.relink (g : Handle → List Reference → List Reference) (n : Int) (k : Nat) (e : Entry) :
    Entry :=
  { e with generation := n, stamp := k, symbols := e.symbols.map (Symbol.relink g) }

variable {n : Int} {k : Nat} {g : Handle → List Reference → List Reference}

theorem Symbol.redate_of_references_nil {x : Symbol} (h : x.references = []) : x.redate n = x := by
  rw [redate, h, List.map_nil, ← h]

theorem Symbol.redate_redate (m : Int) (x : Symbol) : (x.redate m).redate n = x.redate n := by
  rw [redate, redate, redate, List.map_map]
  rfl

namespace Entry

/-- Where nothing has been linked yet, dates are those of the entry alone. -/
theorem symbols_redate {e : Entry} (h : e.references = []) :
    (e.redate n k).symbols = e.symbols := by
  refine (List.map_congr_left fun x hx => ?_).trans (List.map_id e.symbols)
  exact Symbol.redate_of_references_nil (references_eq_nil_iff.1 h x hx)

theorem redate_of_symbols_nil {e : Entry} (h : e.symbols = []) :
    e.redate n k = { e with generation := n, stamp := k } := by
  rw [redate, h, List.map_nil, ← h]

theorem TakenFrom.redate {e : Entry} {path : Path} {m : Int} {j : Nat}
    (h : e.TakenFrom path m j) : (e.redate n k).TakenFrom path n k := by
  have heq : e.redate n k = { e with generation := n, stamp := k } := by
    rw [← symbols_redate (n := n) (k := k) h.references]
    rfl
  rw [heq]
  refine ⟨h.path, rfl, rfl, ?_, h.references⟩
  have hsound : ({ e with generation := n } : Entry).Sound := h.sound.regenerate h.references n
  exact ⟨⟨hsound.slot, hsound.file⟩, hsound.faulty, hsound.target, hsound.generation⟩

theorem undated_redate (e : Entry) : (e.redate n k).undated = e.undated := by
  simp only [undated, redate, List.map_map]
  congr 1
  exact List.map_congr_left fun x _ => Symbol.redate_redate n x

theorem referredBy_redate (e : Entry) (rs : List Reference) :
    (e.redate n k).referredBy (rs.map (Reference.redate n)) = (e.referredBy rs).redate n k := by
  simp only [redate, referredBy, List.map_map]
  congr 1
  refine List.map_congr_left fun x _ => ?_
  simp only [Function.comp_apply, Symbol.referredBy, Symbol.redate, List.map_append,
    List.filter_map]
  rfl

end Entry

/-! ## Reading -/

namespace Setup

variable {σ : Type} {u : Setup σ}

theorem analyzed_redate (e : Entry) (r : Except String (Except ParseError Extraction)) :
    analyzed (e.redate n k) r = ((analyzed e r).1.redate n k, (analyzed e r).2) := by
  rcases r with reason | err | x
  · rfl
  · rfl
  · simp only [analyzed, Entry.redate, List.map_map, Prod.mk.injEq, and_true]
    congr 1

/-- What is read in a file depends on the date in nothing but the date. -/
theorem extractFile_redate (fs : FileSystem) (path : Path) (m : Int) (j : Nat) :
    u.extractFile fs path n k =
      ((u.extractFile fs path m j).1.redate n k, (u.extractFile fs path m j).2) := by
  simp only [extractFile, blankEntry]
  cases fs.readText path with
  | error cause =>
    cases cause with
    | notText => rw [Entry.redate_of_symbols_nil rfl]
    | refused cause => rw [Entry.redate_of_symbols_nil rfl]
  | ok content =>
    dsimp only
    cases u.analyzer? path.language with
    | none => rw [Entry.redate_of_symbols_nil rfl]
    | some analyze =>
      dsimp only
      split
      · rw [Entry.redate_of_symbols_nil rfl]
      · rw [← analyzed_redate, Entry.redate_of_symbols_nil rfl]

end Setup

/-! ## Linking -/

namespace NameTable

/-- A name table knows nothing of entries but their paths and symbols. -/
theorem ofEntries_map (roots : List Path) (f : Entry → Entry) {es : List Entry}
    (hpath : ∀ e, (f e).path = e.path) (hsymbols : ∀ e ∈ es, (f e).symbols = e.symbols) :
    ofEntries roots (es.map f) = ofEntries roots es := by
  have hsort : (es.map f).mergeSort (fun a b => decide (a.path ≤ b.path)) =
      (es.mergeSort fun a b => decide (a.path ≤ b.path)).map f := by
    refine (List.map_mergeSort fun a _ b _ => ?_).symm
    rw [hpath, hpath]
  rw [ofEntries, ofEntries, hsort, List.foldl_map]
  refine List.foldl_ext _ _ _ fun t e he => ?_
  rw [addEntry, addEntry, hpath, hsymbols e (List.mem_mergeSort.1 he)]

/-- What becomes of a use depends on nothing but the paths and symbols of the entries. -/
theorem outcome_map (t : NameTable) {entries : Table String Entry} {f : Entry → Entry}
    (hsymbols : ∀ p e, entries.find? p = some e → (f e).symbols = e.symbols) (x : Use) :
    t.outcome (entries.map fun _ => f) x = t.outcome entries x := by
  have htarget : t.target? (entries.map fun _ => f) x = t.target? entries x := by
    rw [target?, target?]
    split
    · next site _ =>
      rw [Table.find?_map]
      cases he : entries.find? site.file with
      | none => rfl
      | some e =>
        simp only [Option.map_some, Option.bind_some, Entry.symbolAtStart?]
        rw [hsymbols _ e he]
    · rfl
  rw [outcome, outcome, htarget]

end NameTable

theorem recorded_redate (outcome : Use → Outcome) (m : Int) (uses : List Use) :
    recorded outcome n uses = (recorded outcome m uses).map (Reference.redate n) := by
  rw [recorded, recorded, List.map_filterMap]
  refine List.filterMap_congr fun x _ => ?_
  cases outcome x <;> rfl

/-! ## Vectors -/

/-- The model answers with nothing in view but the texts. -/
def Embedder.Steady {σ : Type} (m : Embedder σ) : Prop :=
  ∀ text s s', (m.model.ask text s).1 = (m.model.ask text s').1

/-- If there is a model, it answers with nothing in view but the texts. -/
def Setup.Steady {σ : Type} (u : Setup σ) : Prop := ∀ m, u.embedder = some m → m.Steady

namespace Embedder

variable {σ : Type} {m : Embedder σ} (H : m.Steady)

include H

theorem Steady.embed (text : String) (s s' : σ) : (m.embed text s).1 = (m.embed text s').1 := by
  rw [Embedder.embed, Embedder.embed]
  split
  · rfl
  · split
    · rfl
    · exact congrArg m.judge (H text s s')

theorem Steady.embedFile (e : Entry) (s s' : σ) : (m.embedFile (e.relink g n k) s).1 =
    (m.embedFile e s').1.map fun x => (x.1.relink g n k, x.2) := by
  have hcontent : (e.relink g n k).content = e.content := rfl
  rw [Embedder.embedFile, Embedder.embedFile, hcontent]
  split
  · rfl
  · simp only [tryEmbed]
    rw [H.embed e.content s s']
    cases forgive (m.embed e.content s').1 <;> rfl

theorem Steady.embedSymbol (content : String) (x : Symbol) (s s' : σ) :
    (m.embedSymbol content (x.relink g) s).1 =
      (m.embedSymbol content x s').1.map fun y => (y.1.relink g, y.2) := by
  have hsource : (x.relink g).source content = x.source content := rfl
  rw [Embedder.embedSymbol, Embedder.embedSymbol, hsource]
  dsimp only
  split
  · rfl
  · simp only [embedSymbolText]
    rw [H.embed _ s s']
    cases forgive (m.embed (m.symbolText (x.source content)) s').1 <;> rfl

theorem Steady.embedSymbols (content : String) (xs : List Symbol) (s s' : σ) :
    (m.embedSymbols content (xs.map (Symbol.relink g)) s).1 =
      (m.embedSymbols content xs s').1.map fun ys => (ys.1.map (Symbol.relink g), ys.2) := by
  induction xs generalizing s s' with
  | nil => rfl
  | cons x xs ih =>
    have hx := H.embedSymbol (g := g) content x s s'
    rw [List.map_cons, Embedder.embedSymbols, Embedder.embedSymbols]
    cases hnew : m.embedSymbol content (x.relink g) s with
    | mk r s₁ =>
      cases hold : m.embedSymbol content x s' with
      | mk r' s₂ =>
        rw [hnew, hold] at hx
        dsimp only at hx
        subst hx
        cases r' with
        | error e => rfl
        | ok y =>
          dsimp only [Except.map]
          rw [ih s₁ s₂]
          cases (m.embedSymbols content xs s₂).1 <;> rfl

/-- Each text is the same whatever the dates and the references are, and is asked for in the same
order. -/
theorem Steady.embedEntry (extent : Extent) (e : Entry) (s s' : σ) :
    (m.embedEntry extent (e.relink g n k) s).1 =
      (m.embedEntry extent e s').1.map fun x => (x.1.relink g n k, x.2) := by
  have hfile :
      (if extent.file then m.embedFile (e.relink g n k) s else (.ok (e.relink g n k, 0), s)).1 =
        (if extent.file then m.embedFile e s' else (.ok (e, 0), s')).1.map
          fun x => (x.1.relink g n k, x.2) := by
    split
    · exact H.embedFile e s s'
    · rfl
  rw [Embedder.embedEntry, Embedder.embedEntry]
  cases hnew : if extent.file then m.embedFile (e.relink g n k) s
    else (.ok (e.relink g n k, 0), s) with
  | mk r s₁ =>
    cases hold : if extent.file then m.embedFile e s' else (.ok (e, 0), s') with
    | mk r' s₂ =>
      rw [hnew, hold] at hfile
      dsimp only at hfile
      subst hfile
      cases r' with
      | error err => rfl
      | ok x =>
        dsimp only [Except.map]
        split
        · have hsymbols := H.embedSymbols (g := g) x.1.content x.1.symbols s₁ s₂
          dsimp only
          rw [show (x.1.relink g n k).symbols = x.1.symbols.map (Symbol.relink g) from rfl,
            show (x.1.relink g n k).content = x.1.content from rfl, hsymbols]
          cases (m.embedSymbols x.1.content x.1.symbols s₂).1 <;> rfl
        · rfl

end Embedder

namespace Setup

variable {σ : Type} {u : Setup σ} (H : u.Steady)

include H

theorem Steady.embed (e : Entry) (s s' : σ) : (u.embed (e.relink g n k) s).1 =
    (u.embed e s').1.map fun x => (x.1.relink g n k, x.2) := by
  rw [Setup.embed, Setup.embed]
  cases hm : u.embedder with
  | none => rfl
  | some m =>
    dsimp only
    split
    · exact (H m hm).embedEntry _ e s s'
    · rfl

/-- Neither dates nor references have any influence on vectors. -/
theorem Steady.embedAll (es : List Entry) (s s' : σ) :
    (u.embedAll (es.map (Entry.relink g n k)) s).1 =
      (u.embedAll es s').1.map fun x => (x.1.map (Entry.relink g n k), x.2) := by
  induction es generalizing s s' with
  | nil => rfl
  | cons e es ih =>
    have he := H.embed (g := g) (n := n) (k := k) e s s'
    rw [List.map_cons, Setup.embedAll, Setup.embedAll]
    cases hnew : u.embed (e.relink g n k) s with
    | mk r s₁ =>
      cases hold : u.embed e s' with
      | mk r' s₂ =>
        rw [hnew, hold] at he
        dsimp only at he
        subst he
        cases r' with
        | error err => rfl
        | ok x =>
          dsimp only [Except.map]
          rw [ih s₁ s₂]
          cases (u.embedAll es s₂).1 <;> rfl

theorem embedAll_redate (es : List Entry) (s s' : σ) :
    (u.embedAll (es.map (Entry.redate n k)) s).1 =
      (u.embedAll es s').1.map fun x => (x.1.map (Entry.redate n k), x.2) :=
  Steady.embedAll (g := fun _ => List.map (Reference.redate n)) H es s s'

end Setup

/-! ## Preparing -/

/-- What has been prepared, with other dates. -/
def Prepared.redate (n : Int) (k : Nat) (p : Prepared) : Prepared :=
  { p with entries := p.entries.map fun _ => Entry.redate n k }

namespace BuildJob

variable {σ : Type} {u : Setup σ} {job : BuildJob} {results : List (Entry × List Use)}

/-- What a build has read, with other dates. -/
def redated (n : Int) (k : Nat) (results : List (Entry × List Use)) : List (Entry × List Use) :=
  results.map fun r => (r.1.redate n k, r.2)

theorem reads_redate (fs : FileSystem) (job job' : BuildJob) (files : List Path) :
    job'.reads u fs files = redated job'.generation job'.stamp (job.reads u fs files) := by
  rw [reads, reads, redated, List.map_map]
  exact List.map_congr_left fun path _ => Setup.extractFile_redate fs path _ _

theorem read_redated (n : Int) (k : Nat) (results : List (Entry × List Use)) :
    read (redated n k results) = (read results).map fun _ => Entry.redate n k := by
  rw [read, read, Table.map_ofList, redated, List.map_map, List.map_map]
  rfl

theorem uses_redated (n : Int) (k : Nat) (results : List (Entry × List Use)) :
    (redated n k results).flatMap Prod.snd = results.flatMap Prod.snd := by
  rw [redated, List.flatMap_map]

variable (H : ∀ r ∈ results, ∃ path, r.1.TakenFrom path job.generation job.stamp) {job' : BuildJob}
  (hroots : job'.roots = job.roots)

include H hroots

/-- Dates have no influence on what becomes of uses. -/
theorem outcome_redated : job'.outcome (redated n k results) = job.outcome results := by
  have hsymbols : ∀ e ∈ (read results).values, (e.redate n k).symbols = e.symbols := by
    intro e he
    obtain ⟨r, hr, rfl⟩ := mem_read he
    obtain ⟨path, h⟩ := H r hr
    exact Entry.symbols_redate h.references
  funext x
  rw [outcome, outcome, read_redated, Table.values_map, hroots,
    NameTable.ofEntries_map _ (Entry.redate n k) (fun _ => rfl) hsymbols]
  exact NameTable.outcome_map _
    (fun p e he => hsymbols e (Table.mem_values.2 ⟨p, he⟩)) x

theorem linked_redate : job'.linked (redated job'.generation k results) =
    (job.linked results).map (Entry.redate job'.generation k) := by
  rw [linked, linked, outcome_redated H hroots, uses_redated, read_redated, Table.values_map,
    List.map_map, List.map_map, recorded_redate _ job.generation]
  exact List.map_congr_left fun e _ => Entry.referredBy_redate e _

/-- A build that has read the same at another time prepares the same but for the dates. -/
theorem prepare_redate (hu : u.Steady) (s s' : σ) :
    (job'.prepare u (redated job'.generation job'.stamp results) s).1 =
      (job.prepare u results s').1.map (Prepared.redate job'.generation job'.stamp) := by
  have H' : ∀ r ∈ redated job'.generation job'.stamp results,
      ∃ path, r.1.TakenFrom path job'.generation job'.stamp := by
    intro r hr
    obtain ⟨r₀, hr₀, rfl⟩ := List.mem_map.1 hr
    obtain ⟨path, h⟩ := H r₀ hr₀
    exact ⟨path, h.redate⟩
  rw [prepare_eq H, prepare_eq H', linked_redate H hroots, outcome_redated H hroots, uses_redated]
  dsimp only
  rw [Setup.embedAll_redate hu _ s s']
  cases (u.embedAll (job.linked results) s').1 with
  | error err => rfl
  | ok x =>
    simp only [Except.map, Prepared.redate, Table.map_ofList, List.map_map]
    rfl

end BuildJob
end CodeAtlas
