import CodeAtlas.Proofs.Embed.Contract
import CodeAtlas.Proofs.Indexer.Deletion
import CodeAtlas.Proofs.Indexer.History
import CodeAtlas.Proofs.Indexer.References

/-!
# An update does what a build does

An update that takes in a file leaves an index behind that differs in this one entry
(`Indexer.Updated`). A build makes its entry of the same file from what is read in it as well; what
it adds are references, and these have no influence on vectors (`Setup.Steady.embed`). So a build
right afterwards stores the entry of the update, but for its dates and for the references that are
recorded in it (`Activity.update_rebuilds`).
-/

namespace CodeAtlas

/-! ## Entries with other references -/

namespace Entry

variable {n : Int} {k : Nat} {g : Handle → List Reference → List Reference}

/-- What is read at another time and then linked is the same but for dates and references. -/
theorem referredBy_redate_eq (rs : List Reference) (e : Entry) :
    (e.redate n k).referredBy rs = e.relink
      (fun h own => own.map (Reference.redate n) ++ rs.filter fun r => r.target = h) n k := by
  simp only [redate, referredBy, List.map_map]
  rfl

theorem unlinked_relink (e : Entry) :
    (e.relink g n k).unlinked = { e.unlinked with generation := n, stamp := k } := by
  simp only [relink, unlinked, List.map_map]
  rfl

theorem unlinked_of_references {e : Entry} (h : e.references = []) : e.unlinked = e := by
  have hsymbols : e.symbols.map Symbol.unlinked = e.symbols := by
    refine (List.map_congr_left fun x hx => ?_).trans (List.map_id e.symbols)
    rw [Symbol.unlinked, ← references_eq_nil_iff.1 h x hx]
    rfl
  rw [unlinked, hsymbols]

end Entry

/-! ## What a build makes of a file -/

/-- A model none of whose answers escapes keeps no entry from being made. -/
theorem Setup.Embeds.of_no_escape {σ : Type} {u : Setup σ}
    (h : ∀ m, u.embedder = some m → ∀ text s e, ¬ (m.model.ask text s).1.Escapes e) :
    u.Embeds := by
  have hforgiven : ∀ m, u.embedder = some m → m.FailsWith fun _ => False := by
    intro m hm text s e he
    by_contra hescapes
    rw [or_false] at hescapes
    exact h m hm text s e (Embedder.embed_escapes_iff.1 ⟨he, hescapes⟩).2
  intro e s
  cases hr : (u.embed e s).1 with
  | error err => exact (Setup.embed_failsWith hforgiven e s err hr).elim
  | ok r => exact ⟨r, rfl⟩

/-- Of several entries each is given its vectors on its own. -/
theorem Setup.exists_embed_of_mem {σ : Type} {u : Setup σ} {es es' : List Entry} {n : Nat}
    {s s' : σ} (h : u.embedAll es s = (.ok (es', n), s')) {e' : Entry} (he : e' ∈ es') :
    ∃ e ∈ es, ∃ s k, (u.embed e s).1 = .ok (e', k) := by
  induction es generalizing s s' es' n with
  | nil =>
    cases h
    cases he
  | cons e es ih =>
    rw [embedAll] at h
    split at h
    · cases h
    · next d k s₁ hd =>
      obtain ⟨⟨ds, j⟩, hds, hv⟩ := Except.map_eq_ok_iff.1 (congrArg Prod.fst h)
      cases hv
      rcases List.mem_cons.1 he with rfl | he
      · exact ⟨e, List.mem_cons_self, s, k, congrArg Prod.fst hd⟩
      · obtain ⟨e₀, he₀, hembed⟩ := ih (Prod.ext hds rfl) he
        exact ⟨e₀, List.mem_cons_of_mem e he₀, hembed⟩

namespace BuildJob

variable {σ : Type} {u : Setup σ} {fs : FileSystem} {job : BuildJob} {files : List Path}

/-- A build makes its entry of a file from what is read in it, with references and vectors. -/
theorem exists_embed_of_prepared {s : σ} {p : Prepared}
    (hp : (job.prepare u (job.reads u fs files) s).1 = .ok p) {q : Path} {e : Entry}
    (he : p.entries.find? q.toText = some e) :
    ∃ rs s' n, (u.embed
      ((u.extractFile fs q job.generation job.stamp).1.referredBy rs) s').1 = .ok (e, n) := by
  have H := job.reads_takenFrom u fs files
  have hpath : e.path = q.toText := (BuildJob.prepare_ok hp H).1.path _ e he
  rw [prepare_eq H] at hp
  obtain ⟨⟨es, n⟩, hes, rfl⟩ := Except.map_eq_ok_iff.1 hp
  obtain ⟨e₁, he₁, heq⟩ := List.mem_map.1 (Table.mem_of_find?_ofList he)
  obtain ⟨-, rfl⟩ := Prod.mk.inj heq
  obtain ⟨l, hl, s', k, hembed⟩ := Setup.exists_embed_of_mem (Prod.ext hes rfl) he₁
  obtain ⟨e₀, he₀, rfl⟩ := List.mem_map.1 hl
  obtain ⟨r, hr, rfl⟩ := mem_read he₀
  obtain ⟨file, -, rfl⟩ := List.mem_map.1 hr
  -- Vectors and references leave the path as it is, so the file is the one that was asked for.
  have hbare := congrArg Entry.path (Setup.embed_bare (Prod.ext hembed rfl))
  have htaken := (Setup.extractFile_takenFrom (u := u) fs file job.generation job.stamp).path
  obtain rfl : file = q := Path.toText_inj (htaken.symm.trans (hbare.symm.trans hpath))
  exact ⟨_, s', k, hembed⟩

end BuildJob

/-! ## What an update makes of a file -/

namespace Indexer

variable {σ : Type} {u : Setup σ} {fs : FileSystem} {ix ix' : Indexer} {p q : Path} {e : Entry}

theorem Rebuilt.normalize {s : σ} {job : BuildJob} {made : Prepared}
    (h : ix.Rebuilt u fs s ix' job made) : ix'.normalize fs p = ix.normalize fs p := by
  obtain ⟨filters, rfl⟩ := h.index
  exact normalize_congr rfl rfl p

theorem Rebuilt.exists_entry {s : σ} {job : BuildJob} {made : Prepared}
    (h : ix.Rebuilt u fs s ix' job made) (hq : q ∈ job.found.files) :
    ∃ e, ix'.store.get? q.toText = some e := by
  obtain ⟨filters, rfl⟩ := h.index
  have hread : q.toText ∈ (job.reads u fs job.found.files).map (·.1.path) := by
    refine List.mem_map.2 ⟨_, List.mem_map_of_mem hq, ?_⟩
    exact (Setup.extractFile_takenFrom fs q _ _).path
  have hcontains := (BuildJob.prepare_ok h.prepared (job.reads_takenFrom u fs _)).2.2 q.toText
  obtain ⟨e, he⟩ := Option.isSome_iff_exists.1 (hcontains.2 hread)
  refine ⟨{ e with generation := job.generation }, ?_⟩
  simp only [Store.get?, Store.install, Table.find?_map, he, Option.map_some]

/-- An update that nothing comes between has taken in a file. -/
structure Updated (u : Setup σ) (fs : FileSystem) (ix : Indexer) (p q : Path) (s : σ) (e : Entry)
    (ix' : Indexer) : Prop where
  idle : ix.building = false
  path : ix.normalize fs p = .ok q
  made : ∃ n, (u.embed (u.extractFile fs q ix.store.generation ix.clock).1 s).1 = .ok (e, n)
  index : ∃ filters,
    ix' = { ix with filters, clock := ix.clock + 1, store := ix.store.put e }

variable (u fs) in
/-- A file that is taken in on its own is read and given its vectors, and its entry is stored. -/
theorem finish_single_eq (ix : Indexer) (hb : ix.building = false) (q : Path) (k : Nat) (s : σ) :
    ix.finish u fs (.file .single ⟨q, ix.store.generation, k, .begun⟩) s =
      match u.embed (u.extractFile fs q ix.store.generation k).1 s with
      | (.ok (e, _), s') => (.ok (.entry (some e)), { ix with store := ix.store.put e }, s')
      | (.error err, s') => (.error err, ix, s') := by
  let job (stage : FileStage) : Task := .file .single ⟨q, ix.store.generation, k, stage⟩
  let read := (u.extractFile fs q ix.store.generation k).1
  have hextract : ix.resume u fs (job .begun) s = (.waiting (job (.extracted read)), ix, s) := rfl
  have hvectors : ix.resume u fs (job (.extracted read)) s =
      (.waiting (job (.embedded ((u.embed read s).1.map Prod.fst))), ix, (u.embed read s).2) := rfl
  rw [finish_of_waiting hextract, finish_of_waiting hvectors]
  cases u.embed read s with
  | mk r s' =>
    cases r with
    | error err => exact finish_of_finished rfl
    | ok made =>
      let last : FileJob := ⟨q, ix.store.generation, k, .embedded (.ok made.1)⟩
      have hkeep : ix.keep last made.1 = _ := keep_idle hb rfl made.1
      refine finish_of_finished ?_
      simp only [job, resume, Except.map, settle]
      rw [hkeep]

theorem run_update_updated {s : σ} (h : (ix.run u fs (.update p) s).1 = .ok (.entry (some e))) :
    ∃ q, ix.Updated u fs p q s e (ix.run u fs (.update p) s).2.1 := by
  cases hb : ix.building with
  | true =>
    rw [run_busy hb] at h
    cases h
  | false =>
    rw [run, start] at h ⊢
    cases hbegin : ix.beginUpdate u fs p with
    | mk r ix₁ =>
      rw [hbegin] at h
      cases beginUpdate_begun hb hbegin with
      | unnamed hn => cases h
      | untold hn ht => cases h
      | untracked hn ht => cases h
      | gone hn ht hf => cases h
      | @taken q filters hn ht hf =>
        have hfinish := finish_single_eq u fs (takeIn q { ix with filters }).2 hb q ix.clock s
        dsimp only [takeIn] at h hfinish ⊢
        rw [hfinish] at h ⊢
        generalize hembed : u.embed (u.extractFile fs q ix.store.generation ix.clock).1 s = made
          at h ⊢
        obtain ⟨made, s'⟩ := made
        cases made with
        | error err => cases h
        | ok made =>
          cases h
          exact ⟨q, hb, hn, ⟨made.2, congrArg Prod.fst hembed⟩, filters, rfl⟩

/-- If nothing is wrong with the model, a file that takes part in the index is taken in. -/
theorem run_update_taken (hu : u.Embeds) (hb : ix.building = false) (hn : ix.normalize fs p = .ok q)
    (ht : (ix.tracks u fs q).1 = .ok true) (hf : fs.isFile q = true) (s : σ) :
    ∃ e, (ix.run u fs (.update p) s).1 = .ok (.entry (some e)) := by
  obtain ⟨filters, hfilters⟩ := tracks_filters u fs q ix
  have htracks : ix.tracks u fs q = (.ok true, { ix with filters }) := Prod.ext ht hfilters
  have hbegin : ix.beginUpdate u fs p =
      (.ok (some ⟨q, ix.store.generation, ix.clock, .begun⟩),
        { ix with filters, clock := ix.clock + 1 }) := by
    rw [beginUpdate, if_neg (by simp [hb]), hn]
    dsimp only
    rw [htracks]
    simp [hf, takeIn]
  have hfinish := finish_single_eq u fs { ix with filters, clock := ix.clock + 1 } hb q ix.clock s
  obtain ⟨⟨e, n⟩, hmade⟩ := hu (u.extractFile fs q ix.store.generation ix.clock).1 s
  have hembed : u.embed (u.extractFile fs q ix.store.generation ix.clock).1 s = (.ok (e, n), _) :=
    Prod.ext hmade rfl
  rw [run, start, hbegin]
  dsimp only at hfinish ⊢
  rw [hfinish, hembed]
  exact ⟨e, rfl⟩

namespace Updated

variable {s : σ} (h : ix.Updated u fs p q s e ix')

include h

theorem takenFrom : e.TakenFrom q ix.store.generation ix.clock := by
  obtain ⟨n, hmade⟩ := h.made
  exact (Setup.extractFile_takenFrom fs q _ _).of_bare (Setup.embed_bare (Prod.ext hmade rfl))

theorem stored : ix'.store.get? q.toText = some e := by
  obtain ⟨filters, rfl⟩ := h.index
  have hput : (ix.store.put e).get? e.path = some { e with generation := ix.store.generation } := by
    simp only [Store.get?, Store.put, Table.find?_insert_self]
  have hgeneration : ({ e with generation := ix.store.generation } : Entry) = e := by
    rw [← h.takenFrom.generation]
  rw [← h.takenFrom.path]
  exact hput.trans (congrArg some hgeneration)

theorem normalize : ix'.normalize fs p = .ok q := by
  obtain ⟨filters, rfl⟩ := h.index
  exact (normalize_congr rfl rfl p).trans h.path

theorem beside {k : String} (hk : k ≠ q.toText) : ix'.store.get? k = ix.store.get? k := by
  obtain ⟨filters, rfl⟩ := h.index
  simp only [Store.get?, Store.put, h.takenFrom.path, Table.find?_insert_of_ne _ _ hk]

/-- A build right afterwards stores the same entry but for dates and references. -/
theorem rebuilt (hu : u.Steady) {s' : σ} {last : Indexer} {job : BuildJob} {made : Prepared}
    (hbuilt : ix'.Rebuilt u fs s' last job made) {e' : Entry}
    (he : last.store.get? q.toText = some e') :
    e'.unlinked = { e with generation := e'.generation, stamp := e'.stamp } := by
  obtain ⟨filters, rfl⟩ := hbuilt.index
  simp only [Store.get?, Store.install, Table.find?_map] at he
  obtain ⟨e₁, he₁, rfl⟩ := Option.map_eq_some_iff.1 he
  obtain ⟨n, hmade⟩ := h.made
  obtain ⟨rs, s₁, n', hembed⟩ := BuildJob.exists_embed_of_prepared hbuilt.prepared he₁
  have hread := congrArg Prod.fst (Setup.extractFile_redate (u := u) (n := job.generation)
    (k := job.stamp) fs q ix.store.generation ix.clock)
  dsimp only at hread
  rw [hread, Entry.referredBy_redate_eq, hu.embed _ s₁ s, hmade] at hembed
  obtain ⟨rfl, -⟩ := Prod.mk.inj (Except.ok.inj hembed)
  have hunlinked := Entry.unlinked_relink (n := job.generation) (k := job.stamp)
    (g := fun h own => own.map (Reference.redate job.generation) ++
      rs.filter fun r => r.target = h) e
  rw [Entry.unlinked_of_references h.takenFrom.references] at hunlinked
  exact hunlinked

end Updated

/-! ## What a search depends on -/

variable {u' : Setup σ}

theorem filterFor_config (h : u'.config = u.config) (root : Path) (ix : Indexer) :
    ix.filterFor u' fs root = ix.filterFor u fs root := by
  rw [filterFor, filterFor, h]

theorem filtersFor_config (h : u'.config = u.config) (roots : List Path) (ix : Indexer) :
    ix.filtersFor u' fs roots = ix.filtersFor u fs roots := by
  induction roots generalizing ix with
  | nil => rfl
  | cons root roots ih => simp only [filtersFor, filterFor_config h, ih]

/-- Which files are found is told by the settings, whatever model there is. -/
theorem discoverAll_config (h : u'.config = u.config) (roots : List Path) (ix : Indexer) :
    ix.discoverAll u' fs roots = ix.discoverAll u fs roots := by
  rw [discoverAll, discoverAll, filtersFor_config h]

end Indexer

namespace Activity

variable {σ : Type}

/-- Whatever has been called: an update that returns an entry puts it into the store under the path
that the file goes by, without references, and leaves all else as it is, but for filters that it
may have made and for the clock. What a build right afterwards stores of the file is the same entry,
but for its dates and for the references that the build records, if the model answers with nothing
in view but the texts. -/
theorem update_rebuilds (u : Setup σ) (hu : u.Steady) (roots : List Path) (ms : List (Move σ))
    (fs : FileSystem) (p : Path) (s : σ) {e : Entry} :
    let ix := ((fresh roots).run u ms).index
    let ix' := (ix.run u fs (.update p) s).2.1
    (ix.run u fs (.update p) s).1 = .ok (.entry (some e)) →
      (∃ filters, ix' = { ix with filters, clock := ix.clock + 1, store := ix.store.put e }) ∧
        (∀ k, k ≠ e.path → ix'.store.get? k = ix.store.get? k) ∧
        ix'.entry? fs p = .ok (some e) ∧ e.references = [] ∧
        ∀ s' r e', (ix'.run u fs .build s').1 = .ok (.report (some r)) →
          Indexer.entry? fs p (ix'.run u fs .build s').2.1 = .ok (some e') →
          e'.unlinked = { e with generation := e'.generation, stamp := e'.stamp } := by
  intro ix ix' h
  obtain ⟨q, hupdated⟩ : ∃ q, ix.Updated u fs p q s e ix' := Indexer.run_update_updated h
  refine ⟨hupdated.index, fun k hk => ?_, ?_, hupdated.takenFrom.references,
    fun s' r e' hr he => ?_⟩
  · rw [hupdated.takenFrom.path] at hk
    exact hupdated.beside hk
  · rw [ Indexer.entry?, hupdated.normalize]
    exact congrArg Except.ok hupdated.stored
  · obtain ⟨job, made, hbuilt⟩ := Indexer.run_build_rebuilt hr
    rw [ Indexer.entry?, hbuilt.normalize, hupdated.normalize] at he
    exact hupdated.rebuilt hu hbuilt (Except.ok.inj he)

/-- The settings of `analyzing`, with a model that answers with the lengths of texts. -/
def measuring : Setup Unit :=
  { analyzing with
    embedder := some ⟨⟨1, fun text s => (.object (.ok [.ofNat text.length]), s)⟩, 5.0, 1000⟩ }

theorem measuring_steady : measuring.Steady := by
  rintro m ⟨⟩ text s s'
  rfl

theorem measuring_embeds : measuring.Embeds := by
  refine .of_no_escape ?_
  rintro m ⟨⟩ text s e ⟨⟩

theorem chained_normalize {ix : Indexer} (hroots : ix.roots = [.ofText "/r"])
    (hfolders : ix.attachedFolders = []) :
    ix.normalize chained (.ofText "r/./a.py") = .ok (.ofText "/r/a.py") := by
  have hfresh : ({ roots := [.ofText "/r"] } : Indexer).normalize chained (.ofText "r/./a.py") =
      .ok (.ofText "/r/a.py") := by cbv
  exact (Indexer.normalize_congr hroots hfolders _).trans hfresh

theorem chained_update {ix : Indexer} (hb : ix.building = false)
    (hroots : ix.roots = [.ofText "/r"]) (hfiles : ix.attachedFiles = [])
    (hfolders : ix.attachedFolders = []) (hfilters : ix.filters = .empty) :
    ∃ e, (ix.run measuring chained (.update (.ofText "r/./a.py")) ()).1 =
      .ok (.entry (some e)) := by
  have hfound : ({ roots := [.ofText "/r"] } : Indexer).containingRoot? chained
      (.ofText "/r/a.py") = .ok (some (.ofText "/r")) := by cbv
  have hroot := (Indexer.containingRoot?_congr hroots hfolders _).trans hfound
  have hmake : (IgnoreFilter.make chained (.ofText "/r") {}).map IgnoreFilter.root =
      .ok (.ofText "/r") := by cbv
  obtain ⟨f, hf, -⟩ := Except.map_eq_ok_iff.1 hmake
  have hfilter : ix.filterFor measuring chained (.ofText "/r") = _ :=
    Indexer.filterFor_made (by rw [hfilters]; rfl) hf
  have htracked : (ix.tracks measuring chained (.ofText "/r/a.py")).1 = .ok true := by
    rw [Indexer.tracks, if_neg (by simp [hfiles]), hroot]
    dsimp only
    rw [hfilter]
    dsimp only
    rw [Indexer.chained_ignores hf]
    rfl
  exact Indexer.run_update_taken measuring_embeds hb (chained_normalize hroots hfolders) htracked
    (by cbv) ()

/-- An update of a file, by another spelling of its path, and a build right afterwards. -/
theorem update_rebuilds_chained :
    let p := Path.ofText "r/./a.py"
    let ix := ((fresh [.ofText "/r"]).run measuring []).index
    let update := ix.run measuring chained (.update p) ()
    let build := update.2.1.run measuring chained .build ()
    ∃ e r e', update.1 = .ok (.entry (some e)) ∧ build.1 = .ok (.report (some r)) ∧
      Indexer.entry? chained p build.2.1 = .ok (some e') ∧
      e'.unlinked = { e with generation := e'.generation, stamp := e'.stamp } := by
  intro p ix update build
  have hroots : ix.roots = [.ofText "/r"] := rfl
  obtain ⟨e, he⟩ : ∃ e, update.1 = .ok (.entry (some e)) :=
    chained_update rfl hroots rfl rfl rfl
  obtain ⟨hindex, -, -, -, hrebuilds⟩ :=
    update_rebuilds measuring measuring_steady [.ofText "/r"] [] chained p () he
  obtain ⟨filters, hindex⟩ : ∃ filters, update.2.1 =
      { ix with filters, clock := ix.clock + 1, store := ix.store.put e } := hindex
  -- The update has changed nothing that decides which files a build takes in.
  have htidy : update.2.1.Tidy := by
    obtain ⟨ms, hms, -⟩ := run_operation measuring chained (.update p) (fresh [.ofText "/r"]) ()
    have hrun : ((fresh [.ofText "/r"]).run measuring ms).index = update.2.1 := hms
    exact hrun ▸ (tidy_run measuring [.ofText "/r"] ms).index
  have hsame : ix.SameAttached update.2.1 := by
    rw [hindex]
    exact ⟨fun f => .rfl, fun d => .rfl⟩
  obtain ⟨kept, hfound⟩ := Indexer.chained_discoverAll
  have hdiscover := hsame.discoverAll measuring chained
    (tidy_run measuring [.ofText "/r"] []).index htidy [.ofText "/r"]
  have hconfig : measuring.config = analyzing.config := rfl
  have hfresh : (({ ix with filters := .empty } : Indexer).discoverAll measuring chained
      [.ofText "/r"]).1 = .ok ⟨[.ofText "/r/a.py"], .empty⟩ :=
    congrArg Prod.fst ((Indexer.discoverAll_config hconfig _ _).trans hfound)
  have hidle : update.2.1.building = false := congrArg Indexer.building hindex
  have hvalid : update.2.1.validRoots chained = .ok [.ofText "/r"] := by
    have hroots' : update.2.1.roots = [.ofText "/r"] := congrArg Indexer.roots hindex
    rw [Indexer.validRoots, hroots']
    cbv
  obtain ⟨r, hr⟩ : ∃ r, build.1 = .ok (.report (some r)) :=
    Indexer.run_report measuring_embeds hidle hvalid (List.cons_ne_nil _ _)
      (hdiscover.trans hfresh) ()
  obtain ⟨job, made, hbuilt⟩ := Indexer.run_build_rebuilt hr
  have hfiles : Path.ofText "/r/a.py" ∈ job.found.files := by
    have hroots' : job.roots = [.ofText "/r"] := Except.ok.inj (hbuilt.roots.symm.trans hvalid)
    have hjob := hbuilt.found
    rw [hroots', hdiscover, hfresh] at hjob
    rw [← Except.ok.inj hjob]
    exact List.mem_cons_self
  obtain ⟨q, hupdated⟩ := Indexer.run_update_updated he
  obtain ⟨e', he'⟩ := hbuilt.exists_entry hfiles
  have hentry : Indexer.entry? chained p build.2.1 = .ok (some e') := by
    obtain rfl : q = .ofText "/r/a.py" :=
      Except.ok.inj (hupdated.path.symm.trans (chained_normalize hroots rfl))
    rw [ Indexer.entry?, hbuilt.normalize, hupdated.normalize]
    exact congrArg Except.ok he'
  exact ⟨e, r, e', he, hr, hentry, hrebuilds () r e' hr hentry⟩

end Activity
end CodeAtlas
