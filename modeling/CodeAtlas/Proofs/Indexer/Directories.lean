import CodeAtlas.Proofs.Indexer.Deletion

/-!
# Directories that are removed

The texts of paths below a directory start with the text of the directory and a slash, and no
others do, unless the directory is the root (`Path.prefix_toText_iff`). Entries lie under the texts
of paths (`Activity.named_run`), so a removal by the text takes out what lies below the directory,
component by component, and nothing else (`Activity.directory_removed`).
-/

namespace CodeAtlas

/-! ## Texts of paths below a directory -/

namespace Path

instance (d p : Path) : Decidable (d.Above p) :=
  inferInstanceAs (Decidable (d.anchor = p.anchor ∧ d.names <+: p.names ∧ d.names ≠ p.names))

theorem toText_of_ne_nil {p : Path} (h : p.names ≠ []) :
    p.toText = p.anchor.text ++ "/".intercalate p.names := by
  rw [toText, if_neg fun hp => h hp.2]

/-- A slash between two texts divides the components that are read in them. -/
theorem names_ofText_slash (cs cs' : List Char) :
    (ofText (String.ofList (cs ++ '/' :: cs'))).names =
      (ofText (String.ofList cs)).names ++ (ofText (String.ofList cs')).names := by
  simp only [ofText, ofNames, String.toList_ofList, Text.splitOn_eq,
    List.splitOn_append_cons_self, List.map_append, List.filter_append]

/-- What follows the text of a directory, which is not the root, starts no other root. -/
theorem anchorOf_toText_append {d : Path} (h : d.names ≠ []) (cs : List Char) :
    anchorOf (d.toText.toList ++ cs) = d.anchor := by
  have hparts : d.parts ≠ [] := by
    rw [parts, if_neg fun hp => h hp.2]
    exact h
  obtain ⟨c, rest, hbody, hc⟩ := body_cons hparts
  rw [toText_toList, hbody]
  cases d.anchor <;> simp [Anchor.text, anchorOf, hc]

/-- The text of a path starts with the text of a directory and a slash exactly if the path lies
below the directory. -/
theorem prefix_toText_iff {d p : Path} (h : d.names ≠ []) :
    (d.toText ++ "/").toList <+: p.toText.toList ↔ d.Above p := by
  constructor
  · rintro ⟨cs, hcs⟩
    have htext : p.toText = String.ofList (d.toText.toList ++ '/' :: cs) := by
      rw [← String.ofList_toList (s := p.toText), ← hcs]
      simp
    have hp : p = ofText (String.ofList (d.toText.toList ++ '/' :: cs)) := by
      rw [← htext, ofText_toText]
    have hanchor : p.anchor = d.anchor := by
      rw [hp]
      change anchorOf (String.ofList _).toList = _
      rw [String.toList_ofList, anchorOf_toText_append h]
    have hnames : p.names = d.names ++ (ofText (String.ofList cs)).names := by
      rw [hp, names_ofText_slash, String.ofList_toList, ofText_toText]
    refine ⟨hanchor.symm, ⟨_, hnames.symm⟩, fun heq => ?_⟩
    -- The same path would have a longer text.
    rw [ext hanchor heq.symm] at hcs
    have hlength := congrArg List.length hcs
    simp at hlength
  · rintro ⟨hanchor, ⟨rest, hrest⟩, hne⟩
    have hrest' : rest ≠ [] := by
      rintro rfl
      exact hne (by simpa using hrest)
    have hp : p.names ≠ [] := by simp [← hrest, h]
    rw [toText_of_ne_nil h, toText_of_ne_nil hp, ← hanchor, ← hrest,
      String.intercalate_append_of_ne_nil h hrest', ← String.append_assoc, ← String.append_assoc,
      String.toList_append (s := _ ++ "/")]
    exact List.prefix_append _ _

end Path

theorem Indexer.isBelow_iff {d p : Path} (h : d.names ≠ []) :
    isBelow d p.toText = true ↔ d.Above p := by
  rw [isBelow, List.isPrefixOf_iff_prefix, Path.prefix_toText_iff h]

/-! ## Entries lie under the texts of paths -/

/-- Every entry lies under the text of a path. -/
def Store.Named (s : Store) : Prop := ∀ q e, s.get? q = some e → (Path.ofText q).toText = q

namespace Store.Named

variable {s s' : Store}

theorem mono (h : s.Named) (hle : ∀ q e, s'.get? q = some e → s.get? q = some e) : s'.Named :=
  fun q e he => h q e (hle q e he)

theorem put (h : s.Named) {e : Entry} {path : Path} (he : e.path = path.toText) :
    (s.put e).Named := by
  intro q e' hq
  simp only [get?, Store.put, Table.find?_insert] at hq
  split at hq
  · next heq => rw [heq, he, Path.ofText_toText]
  · exact h q e' hq

theorem install {job : BuildJob} {p : Prepared} (h : job.Makes p) :
    (Store.install p.entries job.generation).Named := by
  intro q e he
  rw [get?, h.generation.install] at he
  have hq : p.entries.contains q = true := congrArg Option.isSome he
  obtain ⟨f, -, rfl⟩ := List.mem_map.1 ((h.contains q).1 hq)
  rw [Path.ofText_toText]

end Store.Named

namespace Activity

variable {σ : Type} {u : Setup σ} {a : Activity}

theorem named_step (H : a.Sound) (h : a.index.store.Named) (m : Move σ) :
    (a.step u m).2.index.store.Named := by
  cases m with
  | call op fs =>
    rw [step_call]
    change (a.index.start u fs op).2.store.Named
    cases hb : a.index.building with
    | true =>
      rw [Indexer.start_busy hb]
      exact h
    | false =>
      by_cases hop : op = .build
      · subst hop
        have he := Indexer.start_entered u fs hb
        generalize (a.index.start u fs .build).1 = standing at he
        generalize (a.index.start u fs .build).2 = ix at he ⊢
        cases he with
        | failed filters h' => exact h
        | rootless h' => exact h.mono fun q e he => nomatch he
        | begun filters roots found hr hd => exact h
      · exact h.mono (onward_store (Indexer.start_onward u fs hop hb)).2
  | resume n fs s =>
    cases hn : a.waiting n with
    | none =>
      rw [step_resume_none u hn]
      exact h
    | some t =>
      rw [step_resume u hn]
      change (a.index.resume u fs t s).2.1.store.Named
      have hr : a.index.Resumed t _ _ := Indexer.resume_resumed u fs (H.task n t hn) s
      generalize (a.index.resume u fs t s).1 = standing at hr
      generalize (a.index.resume u fs t s).2.1 = ix at hr ⊢
      cases hr with
      | working hc hs => exact h
      | failed e => exact h
      | late r hb => exact h
      | outdated hb hg ho => exact h.mono (onward_store ho).2
      | kept e hb hg he ho => exact (h.put he.path).mono (onward_store ho).2
      | unbuilt he => exact h
      | built p hp => exact .install hp

variable (u) in
theorem named_run (roots : List Path) (ms : List (Move σ)) :
    ((fresh roots).run u ms).index.store.Named := by
  have run : ∀ {a : Activity}, a.Sound → a.index.store.Named → (a.run u ms).index.store.Named := by
    induction ms with
    | nil => exact fun _ h => h
    | cons m ms ih => exact fun H h => ih (H.step m) (named_step H h m)
  exact run (fresh_sound roots) fun q e he => nomatch he

end Activity

/-! ## Removals -/

theorem Table.keys_filter {κ α : Type} (t : Table κ α) (keep : κ → Bool) :
    (t.filter fun k _ => keep k).keys = t.keys.filter keep := by
  rw [keys, keys, filter, List.filter_map]
  rfl

namespace Store

/-- Removing paths one after the other leaves the entries of all other paths. -/
theorem foldl_remove (ps : List String) (s : Store) :
    ps.foldl remove s = { s with entries := s.entries.filter fun q _ => q ∉ ps } := by
  induction ps generalizing s with
  | nil => simp [Table.filter]
  | cons p ps ih =>
    rw [List.foldl_cons, ih]
    simp only [remove, Table.erase, Table.filter, List.filter_filter, mk.injEq, Table.mk.injEq,
      and_true]
    refine List.filter_congr fun x _ => ?_
    simp [Bool.and_comm]

end Store

namespace Indexer

variable {σ : Type} {u : Setup σ} {fs : FileSystem} {ix : Indexer} {p d : Path}

/-- What lies below a directory that is not the root is told by its components. -/
theorem forgetBelow_eq (h : ix.store.Named) (hd : d.names ≠ []) :
    ix.forgetBelow d = (ix.store.paths.countP fun q => d.Above (.ofText q), { ix with
      attachedFiles := ix.attachedFiles.filter fun f => ¬ d.Above f
      store.entries := ix.store.entries.filter fun q _ => ¬ d.Above (.ofText q) }) := by
  have hbelow : ∀ q ∈ ix.store.paths, isBelow d q = decide (d.Above (.ofText q)) := by
    intro q hq
    obtain ⟨e, he⟩ := Option.isSome_iff_exists.1 (Table.mem_keys.1 hq)
    rw [Bool.eq_iff_iff, decide_eq_true_iff, ← isBelow_iff hd, h q e he]
  have hgone : ix.store.paths.filter (isBelow d) =
      ix.store.paths.filter fun q => d.Above (.ofText q) := List.filter_congr hbelow
  have hfiles : (ix.attachedFiles.filter fun f => !isBelow d f.toText) =
      ix.attachedFiles.filter fun f => ¬ d.Above f := by
    refine List.filter_congr fun f _ => ?_
    rw [Bool.eq_iff_iff, Bool.not_eq_true', ← Bool.not_eq_true, isBelow_iff hd, decide_eq_true_iff]
  have hstore : (ix.store.entries.filter fun q _ =>
        q ∉ ix.store.paths.filter fun q => d.Above (.ofText q)) =
      ix.store.entries.filter fun q _ => ¬ d.Above (.ofText q) := by
    refine Table.ext_pairs (List.filter_congr fun x hx => ?_)
    have hmem : x.1 ∈ ix.store.paths := List.mem_map_of_mem hx
    simp [hmem]
  simp only [forgetBelow, hgone, hfiles, Store.foldl_remove, hstore, List.countP_eq_length_filter]

theorem run_removeDirectory_error (hb : ix.building = false) {e : Error}
    (hn : ix.normalize fs p = .error e) (s : σ) :
    ix.run u fs (.removeDirectory p) s = (.error e, ix, s) := by
  rw [run, start, if_neg (by simp [hb]), hn]

theorem run_removeDirectory (hb : ix.building = false) (hn : ix.normalize fs p = .ok d) (s : σ) :
    ix.run u fs (.removeDirectory p) s =
      (.ok (.count (ix.forgetBelow d).1), (ix.forgetBelow d).2, s) := by
  rw [run, start, if_neg (by simp [hb]), hn]

end Indexer

namespace Activity

variable {σ : Type}

/-- Whatever has been called, while no build is going on: the removal of a directory that is not the
root takes out the entries and the attached files that lie below it, component by component, and
counts the entries; all else stays as it is. Where it cannot be told which directory is meant,
everything does. -/
theorem directory_removed (u : Setup σ) (roots : List Path) (ms : List (Move σ)) (fs : FileSystem)
    (p : Path) (s : σ) (hidle : ((fresh roots).run u ms).index.building = false) :
    let ix := ((fresh roots).run u ms).index
    (∀ q ∈ ix.store.paths, (Path.ofText q).toText = q) ∧
      (∀ e, ix.normalize fs p = .error e →
        ix.run u fs (.removeDirectory p) s = (.error e, ix, s)) ∧
      ∀ d, ix.normalize fs p = .ok d → d.names ≠ [] →
        ix.run u fs (.removeDirectory p) s =
          (.ok (.count (ix.store.paths.countP fun q => d.Above (.ofText q))),
            { ix with
              attachedFiles := ix.attachedFiles.filter fun f => ¬ d.Above f
              store.entries := ix.store.entries.filter fun q _ => ¬ d.Above (.ofText q) }, s) := by
  intro ix
  have hnamed : ix.store.Named := named_run u roots ms
  refine ⟨fun q hq => ?_, fun e he => Indexer.run_removeDirectory_error hidle he s,
    fun d hd hne => ?_⟩
  · obtain ⟨e, he⟩ := Option.isSome_iff_exists.1 (Table.mem_keys.1 hq)
    exact hnamed q e he
  · rw [Indexer.run_removeDirectory hidle hd, Indexer.forgetBelow_eq hnamed hne]

end Activity

/-! ## Files beside a directory -/

namespace Indexer

/-- Files and nothing else have been attached, the last one first, and have been taken in. -/
structure HoldsFiles (ix : Indexer) (files : List Path) : Prop where
  roots : ix.roots = []
  folders : ix.attachedFolders = []
  idle : ix.building = false
  attached : ix.attachedFiles = files
  paths : ix.store.paths = files.reverse.map Path.toText

theorem HoldsFiles.attach {ix : Indexer} {files : List Path} (h : ix.HoldsFiles files) {q : Path}
    (hq : q ∉ files) {e : Entry} (he : e.path = q.toText) :
    HoldsFiles { ix with
      attachedFiles := ix.attachedFiles.insert q, clock := ix.clock + 1
      store := ix.store.put e } (q :: files) where
  roots := h.roots
  folders := h.folders
  idle := h.idle
  attached := by rw [h.attached, List.insert_of_not_mem hq]
  paths := by
    have hnew : e.path ∉ ix.store.paths := by
      rw [h.paths, he]
      intro hmem
      obtain ⟨f, hf, heq⟩ := List.mem_map.1 hmem
      exact hq (Path.toText_inj heq ▸ List.mem_reverse.1 hf)
    have hput : (ix.store.put e).paths = ix.store.paths ++ [e.path] := by
      simp only [Store.paths, Store.put, Table.keys, Table.insert]
      rw [Table.insertPairs_of_not_mem hnew, List.map_append, List.map_singleton]
    rw [hput, h.paths, he, List.reverse_cons, List.map_append, List.map_singleton]

end Indexer

namespace Activity

theorem holdsFiles_reached {σ : Type} {u : Setup σ} (hu : u.Embeds) {fs : FileSystem}
    {files : List Path} (hnodup : files.Nodup) (h : ∀ q ∈ files, fs.resolve q = .ok q ∧
      fs.isFile q = true ∧ q.isBinary = false) (s : σ) :
    ∃ ms : List (Move σ), ((fresh []).run u ms).index.HoldsFiles files := by
  induction files with
  | nil => exact ⟨[], rfl, rfl, rfl, rfl, rfl⟩
  | cons q files ih =>
    obtain ⟨hq, hnodup⟩ := List.nodup_cons.1 hnodup
    obtain ⟨ms, hms⟩ := ih hnodup fun f hf => h f (List.mem_cons_of_mem _ hf)
    obtain ⟨hr, hf, hbinary⟩ := h q List.mem_cons_self
    obtain ⟨ms', hms', -⟩ := run_operation u fs (.attachFile q) ((fresh []).run u ms) s
    obtain ⟨e, he, hattach⟩ := Indexer.run_attachFile hu hms.idle hr hf hbinary s
    refine ⟨ms ++ ms', ?_⟩
    rw [run_append, hms', hattach]
    exact hms.attach hq he

/-- A file in a directory, and files beside the directory whose paths start with the same text. -/
def siblings : FileSystem :=
  ⟨.ofList [(["p"], .directory), (["p", "pkg"], .directory), (["p", "pkg", "a.py"], .file []),
    (["p", "pkg2"], .directory), (["p", "pkg2", "a.py"], .file []), (["p", "pkg.py"], .file [])],
    .root, [], []⟩

/-- When the directory is removed, by another spelling of its path, only the file in it goes. -/
theorem directory_removed_beside : ∃ ms : List (Move Unit),
    let ix := ((fresh []).run Indexer.plain ms).index
    let run := ix.run Indexer.plain siblings (.removeDirectory (.ofText "p/../p/./pkg/")) ()
    ((ix.building = false ∧
        ix.normalize siblings (.ofText "p/../p/./pkg/") = .ok (.ofText "/p/pkg") ∧
        (Path.ofText "/p/pkg").names ≠ []) ∧
      ix.store.paths = ["/p/pkg/a.py", "/p/pkg2/a.py", "/p/pkg.py"]) ∧
      run.1 = .ok (.count 1) ∧ run.2.1.store.paths = ["/p/pkg2/a.py", "/p/pkg.py"] ∧
      run.2.1.attachedFiles = [.ofText "/p/pkg.py", .ofText "/p/pkg2/a.py"] := by
  have hu : Indexer.plain.Embeds := .of_none rfl
  let files : List Path := [.ofText "/p/pkg.py", .ofText "/p/pkg2/a.py", .ofText "/p/pkg/a.py"]
  have hfiles : ∀ q ∈ files, siblings.resolve q = .ok q ∧ siblings.isFile q = true ∧
      q.isBinary = false := by
    simp only [files, List.forall_mem_cons]
    exact ⟨⟨by cbv, by cbv, by decide +kernel⟩, ⟨by cbv, by cbv, by decide +kernel⟩,
      ⟨by cbv, by cbv, by decide +kernel⟩, List.forall_mem_nil _⟩
  have hne : (Path.ofText "/p/pkg").names ≠ [] := by decide +kernel
  have hnormal : (fresh []).index.normalize siblings (.ofText "p/../p/./pkg/") =
      .ok (.ofText "/p/pkg") := by cbv
  obtain ⟨ms, hms⟩ := holdsFiles_reached hu (by decide +kernel : files.Nodup) hfiles ()
  have hreached := (Indexer.normalize_congr hms.roots hms.folders (.ofText "p/../p/./pkg/")).trans
    hnormal
  have hpaths : ((fresh []).run Indexer.plain ms).index.store.paths =
      ["/p/pkg/a.py", "/p/pkg2/a.py", "/p/pkg.py"] := hms.paths.trans (by decide +kernel)
  obtain ⟨-, -, hremoved⟩ :=
    directory_removed Indexer.plain [] ms siblings (.ofText "p/../p/./pkg/") () hms.idle
  refine ⟨ms, ⟨⟨hms.idle, hreached, hne⟩, hpaths⟩, ?_⟩
  rw [hremoved _ hreached hne]
  have hcount : (["/p/pkg/a.py", "/p/pkg2/a.py", "/p/pkg.py"].countP fun q =>
      (Path.ofText "/p/pkg").Above (.ofText q)) = 1 := by decide +kernel
  refine ⟨?_, ?_, ?_⟩
  · rw [hpaths, hcount]
  · refine (Table.keys_filter _ _).trans ?_
    rw [← Store.paths, hpaths]
    decide +kernel
  · dsimp only
    rw [hms.attached]
    decide +kernel

end Activity
end CodeAtlas
