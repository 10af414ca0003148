import CodeAtlas.Proofs.Indexer.Edits

/-!
# References that are asked for by a site

References are looked up by where a declaration starts, and not by its slot. What is found are those
of the first symbol of the entry that starts there (`Store.references_eq`), so a symbol that
starts where an earlier one does is answered with the references of the other.
-/

namespace CodeAtlas

namespace Entry

variable {e : Entry} {x y : Symbol}

/-- Symbols of one entry with one slot are one symbol. -/
theorem Placed.eq_of_handle (h : e.Placed) (hx : x ∈ e.symbols) (hy : y ∈ e.symbols)
    (heq : y.handle = x.handle) : y = x := by
  have hslot : y.slot = x.slot := congrArg Handle.slot heq
  have hix := (h.getElem?_slot hx).2
  have hiy := (h.getElem?_slot hy).2
  rw [hslot, hix] at hiy
  exact (Option.some.inj hiy).symm

/-- Two symbols of an entry hold the same references only if they hold none. -/
theorem Sound.references_eq_iff (h : e.Sound) (hx : x ∈ e.symbols) (hy : y ∈ e.symbols) :
    y.references = x.references ↔ y = x ∨ (y.references = [] ∧ x.references = []) := by
  constructor
  · intro heq
    cases hr : y.references with
    | nil => exact .inr ⟨rfl, heq ▸ hr⟩
    | cons r rs =>
      have hmem : r ∈ y.references := by simp [hr]
      have hy' : r.target = y.handle := h.target y hy r hmem
      have hx' : r.target = x.handle := h.target x hx r (heq ▸ hmem)
      exact .inl (h.eq_of_handle hx hy (hy'.symm.trans hx'))
  · rintro (rfl | ⟨hy0, hx0⟩)
    · rfl
    · rw [hy0, hx0]

theorem exists_symbolAtStart (hx : x ∈ e.symbols) :
    ∃ y, e.symbolAtStart? x.range.start = some y := by
  rw [← Option.isSome_iff_exists, symbolAtStart?, List.find?_isSome]
  exact ⟨x, hx, by simp⟩

theorem mem_of_symbolAtStart {p : Position} (h : e.symbolAtStart? p = some y) : y ∈ e.symbols :=
  List.mem_of_find?_eq_some h

theorem mem_of_innermost {p : Position} (h : e.innermost? p = some x) : x ∈ e.symbols := by
  -- Whatever is the innermost one so far is one of the symbols.
  have key : ∀ (xs : List Symbol) (best : Option Symbol),
      xs.foldl inner best = some x → best = some x ∨ x ∈ xs := by
    intro xs
    induction xs with
    | nil => exact fun best h => .inl h
    | cons z zs ih =>
      intro best h
      rcases ih _ h with hz | hz
      · cases best with
        | none => exact .inr (List.mem_cons.2 (.inl (Option.some.inj hz).symm))
        | some b =>
          simp only [inner] at hz
          split at hz
          · exact .inr (List.mem_cons.2 (.inl (Option.some.inj hz).symm))
          · exact .inl hz
      · exact .inr (List.mem_cons_of_mem z hz)
  rcases key _ _ h with h0 | hmem
  · cases h0
  · exact (List.mem_filter.1 hmem).1

end Entry

namespace Store

variable {s : Store} {e : Entry} {x y : Symbol}

/-- What is looked up by the site of a symbol comes from the first symbol that starts there. -/
theorem references_eq (hg : IsGeneration s.entries s.generation) (he : s.get? x.file = some e)
    (hy : e.symbolAtStart? x.range.start = some y) : s.references x.site = y.references := by
  have hfile : ∀ z ∈ e.symbols, z.file = x.file := fun z hz =>
    ((hg.sound _ e he).file z hz).trans (hg.path _ e he)
  have hfind : e.symbols.find? (fun z => z.site = x.site) = e.symbolAtStart? x.range.start := by
    refine List.find?_congr fun z hz => ?_
    simp [Symbol.site, hfile z hz]
  have hget : s.get? x.site.file = some e := he
  rw [references, hget, Option.bind_some, hfind, hy]
  rfl

/-- A symbol that a look-up by name or by position finds is held by the entry of its file. -/
theorem entry_of_found (hg : IsGeneration s.entries s.generation)
    (hx : (∃ name, x ∈ s.symbolsNamed name) ∨ ∃ path p, s.symbolAt? path p = some x) :
    ∃ e, s.get? x.file = some e ∧ x ∈ e.symbols := by
  have hfile : ∀ p e, s.get? p = some e → x ∈ e.symbols → s.get? x.file = some e := by
    intro p e he hmem
    have hp : x.file = p := ((hg.sound p e he).file x hmem).trans (hg.path p e he)
    rw [hp, he]
  rcases hx with ⟨name, hnamed⟩ | ⟨path, p, hat⟩
  · obtain ⟨e, he, hmem⟩ := List.mem_flatMap.1 (List.mem_filter.1 hnamed).1
    obtain ⟨p, hp⟩ := Table.mem_values.1 he
    exact ⟨e, hfile p e hp hmem, hmem⟩
  · obtain ⟨e, he, hinner⟩ := Option.bind_eq_some_iff.1 hat
    have hmem := Entry.mem_of_innermost hinner
    exact ⟨e, hfile path e he hmem, hmem⟩

end Store

namespace Activity

/-- Whatever has been called, and however the calls have interleaved: a symbol that is found by its
name or by a position is answered with the references of the first symbol of its entry that starts
where it does. These are its own exactly if it is that first symbol, unless neither has any; and
they lead to it exactly then, unless there are none. -/
theorem references_own_iff {σ : Type} (u : Setup σ) (roots : List Path) (ms : List (Move σ))
    (x : Symbol) (hx : (∃ name, x ∈ ((fresh roots).run u ms).index.store.symbolsNamed name) ∨
      ∃ path p, ((fresh roots).run u ms).index.store.symbolAt? path p = some x) :
    let s := ((fresh roots).run u ms).index.store
    ∃ e y, s.get? x.file = some e ∧ x ∈ e.symbols ∧
      e.symbolAtStart? x.range.start = some y ∧ s.references x.site = y.references ∧
      (∀ r ∈ s.references x.site, r.target = y.handle) ∧
      (s.references x.site = x.references ↔ y = x ∨ (y.references = [] ∧ x.references = [])) ∧
      ((∀ r ∈ s.references x.site, r.target = x.handle) ↔ y = x ∨ y.references = []) := by
  intro s
  have hg : IsGeneration s.entries s.generation := (sound_run u roots ms).store
  obtain ⟨e, he, hmem⟩ := Store.entry_of_found hg hx
  obtain ⟨y, hy⟩ := Entry.exists_symbolAtStart hmem
  have hsound := hg.sound _ e he
  have hymem := Entry.mem_of_symbolAtStart hy
  have hrefs := Store.references_eq hg he hy
  refine ⟨e, y, he, hmem, hy, hrefs, ?_, ?_, ?_⟩
  · rw [hrefs]
    exact hsound.target y hymem
  · rw [hrefs]
    exact hsound.references_eq_iff hmem hymem
  · rw [hrefs]
    constructor
    · intro htarget
      cases hr : y.references with
      | nil => exact .inr rfl
      | cons r rs =>
        have hr' : r ∈ y.references := by simp [hr]
        have heq : y.handle = x.handle := (hsound.target y hymem r hr').symm.trans (htarget r hr')
        exact .inl (hsound.eq_of_handle hmem hymem heq)
    · rintro (rfl | hnil)
      · exact hsound.target _ hmem
      · simp [hnil]

end Activity

/-! ## A chained assignment -/

/-- A root with a file `a.py` that holds `a = b = 1` and, on the next line, `b()`. -/
def chained : FileSystem :=
  ⟨.ofList [(["r"], .directory), (["r", "a.py"],
      .file [97, 32, 61, 32, 98, 32, 61, 32, 49, 10, 98, 40, 41, 10])], .root, [], []⟩

/-- The settings as they are by default, the analyzers that come with the library, and no model. -/
def analyzing : Setup Unit := ⟨{}, (Registry.standard default).analyzer?, none⟩

/-- Both names are declared by the same statement. -/
def chainedExtraction : Extraction :=
  ⟨[⟨"a", .variable_, .ofCoords 0 0 0 9, none⟩, ⟨"b", .variable_, .ofCoords 0 0 0 9, none⟩],
    [⟨"/r/a.py", .ofCoords 1 0 1 1, "b", none, none, none, false⟩]⟩

/-- One of the two names. -/
def chainedSymbol (name : String) (slot : Int) (references : List Reference) : Symbol :=
  { name, kind := .variable_, file := "/r/a.py", range := .ofCoords 0 0 0 9, slot, references }

/-- What a build makes of the file; `hash` stands for the digest of its content. -/
def chainedEntry (hash : Option String) (toB : List Reference) : Entry :=
  { path := "/r/a.py", language := "python", content := "a = b = 1\nb()\n", contentHash := hash,
    generation := 1, symbols := [chainedSymbol "a" 0 [], chainedSymbol "b" 1 toB] }

/-- The call of `b`, recorded at `b`. -/
def chainedReference : Reference :=
  ⟨"/r/a.py", .ofCoords 1 0 1 1, ⟨"/r/a.py", 1⟩, 1⟩

namespace Indexer

theorem chained_ignores {f : IgnoreFilter}
    (hf : IgnoreFilter.make chained (.ofText "/r") {} = .ok f) :
    f.ignores chained (.ofText "/r/a.py") = .ok false := by
  have hinside : (Path.ofText "/r/a.py").relativeTo? (.ofText "/r") = some (.ofText "a.py") := by
    cbv
  have hnames : (Path.ofText "a.py").names = ["a.py"] := by cbv
  exact ignores_unmatched hf (by cbv) (by decide +kernel) (by cbv) hinside (by simp [hnames])
    (by cbv)

theorem chained_discoverAll : ∃ filters,
    ({ roots := [.ofText "/r"] } : Indexer).discoverAll analyzing chained [.ofText "/r"] =
      (.ok ⟨[.ofText "/r/a.py"], .empty⟩, { roots := [.ofText "/r"], filters }) := by
  have hmake : (IgnoreFilter.make chained (.ofText "/r") {}).map IgnoreFilter.root =
      .ok (.ofText "/r") := by cbv
  obtain ⟨f, hf, -⟩ := Except.map_eq_ok_iff.1 hmake
  have hoptions : options analyzing = {} := rfl
  have hlist : chained.list (.ofText "/r") = .ok ["a.py"] := by cbv
  have hchild : (Path.ofText "/r").child "a.py" = .ofText "/r/a.py" := by cbv
  have hwalk : Discovery.walkRoot chained [(.ofText "/r", f)] {} (.ofText "/r") =
      .ok ⟨[.ofText "/r/a.py"], .empty⟩ := by
    rw [← hchild]
    exact Discovery.walkRoot_file List.lookup_cons_self (by cbv) (by cbv) hlist
      (by cbv) (by cbv) (hchild ▸ chained_ignores hf)
  have hdiscover : discover chained [.ofText "/r"] [(.ofText "/r", f)] {} =
      .ok ⟨[.ofText "/r/a.py"], .empty⟩ := by
    simp [discover, hwalk, bind, Except.bind, pure, Except.pure, Discovery.append,
      Discovery.empty, Table.empty, List.eraseDups_cons]
  have hfilter : ({ roots := [.ofText "/r"] } : Indexer).filterFor analyzing chained
      (.ofText "/r") = _ := filterFor_made rfl (hoptions ▸ hf)
  refine ⟨Table.empty.insert (.ofText "/r") f, ?_⟩
  simp only [discoverAll, List.filter_nil, sortPaths, List.mergeSort_nil, List.append_nil,
    filtersFor, hfilter, Except.map, hdiscover]

end Indexer

namespace Activity

/-- A build, nothing else going on: it looks for files, reads the one there is, links and ends. -/
def building : List (Move Unit) :=
  [.call .build chained, .resume 0 chained (), .resume 0 chained (), .resume 0 chained ()]

set_option maxRecDepth 100000 in
theorem chained_extract : analyzing.extractFile chained (.ofText "/r/a.py") 1 0 =
    (chainedEntry (some (Digest.ofText "a = b = 1\nb()\n")) [], chainedExtraction.uses) := by
  have hread : chained.readText (.ofText "/r/a.py") = .ok "a = b = 1\nb()\n" := by cbv
  have hlanguage : (Path.ofText "/r/a.py").language = "python" := by decide +kernel
  have htext : (Path.ofText "/r/a.py").toText = "/r/a.py" := by cbv
  have hsize : chained.sizeOf (.ofText "/r/a.py") = 14 := by cbv
  have hanalyzer : (Registry.standard default).analyzer? "python" =
      some fun file content => .ok (Offside.extract file content) := by cbv
  have hfound : Offside.extract "/r/a.py" "a = b = 1\nb()\n" = .ok chainedExtraction := by
    decide +kernel
  simp only [Setup.extractFile, Setup.blankEntry, hread, hlanguage, htext, analyzing, hanalyzer,
    hsize, hfound, Setup.analyzed]
  rfl

theorem chained_link (hash : Option String) :
    link [.ofText "/r"] chainedExtraction.uses
      (.ofList [("/r/a.py", chainedEntry hash [])]) 1 =
      (.ofList [("/r/a.py", chainedEntry hash [chainedReference])], .ok ⟨1, 0, 0⟩) := by
  cbv

/-- What is stored once the build has ended. -/
def chainedStore : Store :=
  .install (.ofList [("/r/a.py",
    chainedEntry (some (Digest.ofText "a = b = 1\nb()\n")) [chainedReference])]) 1

theorem chained_run :
    ((fresh [.ofText "/r"]).run analyzing building).index.store = chainedStore := by
  have hvalid : ({ roots := [.ofText "/r"] } : Indexer).validRoots chained =
      .ok [.ofText "/r"] := by cbv
  obtain ⟨filters, hfound⟩ := Indexer.chained_discoverAll
  let found : Discovery := ⟨[.ofText "/r/a.py"], .empty⟩
  let hash := some (Digest.ofText "a = b = 1\nb()\n")
  let ix : Indexer := { roots := [.ofText "/r"], filters, building := true, clock := 1 }
  let job (stage : BuildStage) : Task := .build ⟨[.ofText "/r"], found, 1, 0, stage⟩
  let prepared : Prepared :=
    ⟨.ofList [("/r/a.py", chainedEntry hash [chainedReference])], 1, 0⟩
  have hstart : (fresh [.ofText "/r"]).index.start analyzing chained .build =
      (.waiting (job (.reading [.ofText "/r/a.py"] [])), ix) := by
    simp only [fresh, Indexer.start, Indexer.beginBuild, hvalid, hfound]
    rfl
  have hread : ix.resume analyzing chained (job (.reading [.ofText "/r/a.py"] [])) () =
      (.waiting (job (.reading [] [(chainedEntry hash [], chainedExtraction.uses)])), ix, ()) := by
    simp only [job, Indexer.resume, chained_extract]
    rfl
  have hprepare : ix.resume analyzing chained
      (job (.reading [] [(chainedEntry hash [], chainedExtraction.uses)])) () =
      (.waiting (job (.prepared (.ok prepared))), ix, ()) := by
    have hlink : link [.ofText "/r"] ([(chainedEntry hash [], chainedExtraction.uses)].flatMap
        Prod.snd) (.ofList ([(chainedEntry hash [], chainedExtraction.uses)].map fun r =>
          (r.1.path, r.1))) 1 = _ := chained_link hash
    simp only [job, Indexer.resume, BuildJob.prepare, hlink]
    rfl
  have hend : (ix.resume analyzing chained (job (.prepared (.ok prepared))) ()).2.1.store =
      chainedStore := rfl
  let waits (stage : BuildStage) : Activity := note ⟨ix, fun _ => none, 1⟩ 0 (some (job stage))
  have hwaits : ∀ stage, (waits stage).waiting 0 = some (job stage) := fun _ => rfl
  have hgoes : ∀ stage stage', ix.resume analyzing chained (job stage) () =
      (.waiting (job stage'), ix, ()) →
      ((waits stage).step analyzing (.resume 0 chained ())).2 = waits stage' := by
    intro stage stage' h
    have hindex : (waits stage).index = ix := rfl
    rw [step_resume analyzing (hwaits stage), hindex, h]
    exact note_note ⟨ix, fun _ => none, 1⟩ 0 (some (job stage)) (some (job stage'))
  have hcall : ((fresh [.ofText "/r"]).step analyzing (.call .build chained)).2 =
      waits (.reading [.ofText "/r/a.py"] []) := by
    rw [step_call, hstart]
    rfl
  rw [building, run_cons, hcall, run_cons, hgoes _ _ hread, run_cons, hgoes _ _ hprepare, run_cons,
    step_resume analyzing (hwaits _)]
  exact hend

theorem chained_named :
    chainedSymbol "b" 1 [chainedReference] ∈
      ((fresh [.ofText "/r"]).run analyzing building).index.store.symbolsNamed "b" := by
  rw [chained_run]
  exact List.mem_filter.2 ⟨.tail _ (.head _), rfl⟩

theorem chained_references :
    chainedSymbol "b" 1 [chainedReference] ∈
        ((fresh [.ofText "/r"]).run analyzing building).index.store.symbolsNamed "b" ∧
      ∃ (e : Entry) (y : Symbol), e.symbolAtStart? ⟨0, 0⟩ = some y ∧
        ((fresh [.ofText "/r"]).run analyzing building).index.store.references
          ⟨"/r/a.py", ⟨0, 0⟩⟩ = y.references := by
  obtain ⟨e, y, -, -, hy, hrefs, -⟩ := references_own_iff analyzing [.ofText "/r"] building
    (chainedSymbol "b" 1 [chainedReference]) (.inl ⟨"b", chained_named⟩)
  exact ⟨chained_named, e, y, hy, hrefs⟩

/-- The call of `b` is recorded at `b`, but asking for the references of `b` gives those of `a`. -/
theorem chained_mistaken :
    chainedSymbol "b" 1 [chainedReference] ∈
        ((fresh [.ofText "/r"]).run analyzing building).index.store.symbolsNamed "b" ∧
      ((fresh [.ofText "/r"]).run analyzing building).index.store.references
        (chainedSymbol "b" 1 [chainedReference]).site = [] := by
  refine ⟨chained_named, ?_⟩
  rw [chained_run]
  rfl

end Activity
end CodeAtlas
