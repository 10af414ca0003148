import Mathlib
import CodeAtlas.Proofs.Indexer.Activity
import CodeAtlas.Proofs.Indexer.Tracking
import CodeAtlas.Proofs.Indexer.Touches

/-!
# Debounced changes and the changes themselves

What waits for a flush is the last change of each path, in the order in which the paths have first
changed (`Debounce.mem_changes_iff`). Handling it leaves the same files in the index as handling
every change in turn exactly if each file fares the same under both lists, and so whenever the last
touch of each file is the same in both, if only files that take part are in the index
(`Debounce.flush_paths_iff`). A directory that is removed and made anew loses its files
(`Debounce.recreated_lost`).
-/

namespace CodeAtlas

/-- The last change of a path. -/
def Change.last? (cs : List Change) (path : String) : Option Change :=
  cs.reverse.find? (·.path = path)

namespace Debounce

variable {cs : List Change} {c : Change}

theorem handle_foldl (accepts : String → Bool) (events : List FileEvent) (d : Debounce) :
    events.foldl (handle accepts) d = (events.flatMap (·.changes accepts)).foldl add d := by
  induction events generalizing d with
  | nil => rfl
  | cons e events ih =>
    rw [List.foldl_cons, ih, List.flatMap_cons, List.foldl_append]
    rfl

theorem find?_pending (cs : List Change) (path : String) :
    (cs.foldl add {}).pending.find? path = (Change.last? cs path).map Change.kind := by
  -- The change that was taken up last is the one that is kept.
  induction cs using List.reverseRecOn with
  | nil => rfl
  | append_singleton cs c ih =>
    rw [List.foldl_concat, add, Table.find?_insert, ih]
    by_cases hc : c.path = path
    · simp [Change.last?, hc]
    · simp [Change.last?, hc, Ne.symm hc]

/-- What waits is the last change of each path. -/
theorem mem_changes_iff : c ∈ (cs.foldl add {}).changes ↔ Change.last? cs c.path = some c := by
  have hmem : c ∈ (cs.foldl add {}).changes ↔
      (cs.foldl add {}).pending.find? c.path = some c.kind := by
    rw [Table.find?_eq_some_iff, changes, List.mem_map]
    constructor
    · rintro ⟨p, hp, rfl⟩
      exact hp
    · exact fun h => ⟨_, h, rfl⟩
  rw [hmem, find?_pending, Option.map_eq_some_iff]
  constructor
  · rintro ⟨c', hc', hkind⟩
    have hpath : c'.path = c.path := of_decide_eq_true (List.find?_some hc' :)
    obtain ⟨kind, path⟩ := c
    obtain ⟨kind', path'⟩ := c'
    obtain rfl : kind' = kind := hkind
    obtain rfl : path' = path := hpath
    exact hc'
  · exact fun h => ⟨c, h, rfl⟩

end Debounce

namespace Indexer

variable {σ : Type} {u : Setup σ} {fs : FileSystem} {ix : Indexer} {k : String}
  {cs : List Change}

/-! ## The last touch of a file -/

/-- The last of the changes that touch the file with the text as its path touches it so. -/
def lastTouch? (fs : FileSystem) (k : String) (ix : Indexer) (cs : List Change) : Option Touch :=
  cs.reverse.findSome? (ix.touch? fs k)

/-- There are entries only of files that take part in the index, and no files are attached. -/
structure Settled (u : Setup σ) (fs : FileSystem) (ix : Indexer) : Prop where
  attached : ix.attachedFiles = []
  stored : ∀ q : Path, ix.store.contains q.toText = true → (ix.tracks u fs q).1 = .ok true

/-- Each file is touched by changes of one path only, among them the last change of that path. -/
def Orderly (fs : FileSystem) (ix : Indexer) (cs : List Change) : Prop :=
  ∀ k, ∀ c ∈ cs, ix.touch? fs k c ≠ none →
    (∀ c' ∈ cs, ix.touch? fs k c' ≠ none → c'.path = c.path) ∧
      ∀ c', Change.last? cs c.path = some c' → ix.touch? fs k c' ≠ none

theorem fate_append (cs cs' : List Change) (held : Hold) :
    ix.fate u fs k (cs ++ cs') held = ix.fate u fs k cs' (ix.fate u fs k cs held) := by
  simp only [fate, List.filterMap_append, List.foldl_append]

theorem fate_untouched (h : ∀ c ∈ cs, ix.touch? fs k c = none) (held : Hold) :
    ix.fate u fs k cs held = held := by
  rw [fate, List.filterMap_eq_nil_iff.2 h]
  rfl

theorem lastTouch?_eq_none (h : ix.lastTouch? fs k cs = none) :
    ∀ c ∈ cs, ix.touch? fs k c = none := by
  intro c hc
  exact List.findSome?_eq_none_iff.1 h c (List.mem_reverse.2 hc)

theorem lastTouch?_eq_some {t : Touch} (h : ix.lastTouch? fs k cs = some t) :
    ∃ before c after, cs = before ++ c :: after ∧ ix.touch? fs k c = some t ∧
      ∀ c' ∈ after, ix.touch? fs k c' = none := by
  obtain ⟨after, c, before, heq, hc, hafter⟩ := List.findSome?_eq_some_iff.1 h
  refine ⟨before.reverse, c, after.reverse, ?_, hc, fun c' hc' => ?_⟩
  · simpa using congrArg List.reverse heq
  · exact hafter c' (List.mem_reverse.1 hc')

theorem fate_of_lastTouch {t : Touch} (h : ix.lastTouch? fs k cs = some t) (held : Hold) :
    ∃ before, ix.fate u fs k cs held = ix.touched u fs k t (ix.fate u fs k before held) := by
  obtain ⟨before, c, after, rfl, hc, hafter⟩ := lastTouch?_eq_some h
  refine ⟨before, ?_⟩
  rw [fate_append, fate_cons, fate_untouched hafter, hc]
  rfl

/-! ## Indexes of files that take part -/

/-- Only a file that goes by its path is looked at. -/
theorem touch?_look {c : Change} (h : ix.touch? fs k c = some .look) : ∃ q : Path, q.toText = k := by
  have hgoes : ∃ p, ix.goesBy fs k p = true := by
    rw [touch?] at h
    split at h
    · cases h
    · split at h
      · split at h
        · next hp => exact ⟨_, hp⟩
        · cases h
      · split at h
        · next hp => exact ⟨_, hp⟩
        · cases h
      · split at h <;> cases h
      · split at h
        · next hp =>
          obtain ⟨files, -, hany⟩ := Option.any_eq_true _ _ |>.1 hp
          obtain ⟨p, -, hp⟩ := List.any_eq_true.1 hany
          exact ⟨p, hp⟩
        · cases h
      · split at h <;> cases h
  obtain ⟨p, hp⟩ := hgoes
  rw [goesBy] at hp
  obtain ⟨q, -, hq⟩ := Option.any_eq_true _ _ |>.1 hp
  exact ⟨q, of_decide_eq_true hq⟩

/-- A file that is not attached has an entry only if it takes part in the index. -/
def IsKept (u : Setup σ) (fs : FileSystem) (k : String) (ix : Indexer) (held : Hold) : Prop :=
  held.attached = false ∧ (held.stored = true → ix.admits u fs (.ofText k) false = true)

theorem IsKept.touched {held : Hold} (h : ix.IsKept u fs k held) (t : Touch) :
    ix.IsKept u fs k (ix.touched u fs k t held) := by
  obtain ⟨stored, attached⟩ := held
  obtain ⟨rfl, hstored⟩ := h
  cases t with
  | drop => exact ⟨rfl, by simp [Indexer.touched, Hold.touch]⟩
  | look =>
    rw [Indexer.touched, Hold.touch]
    split
    · next hadmits => exact ⟨by simp, fun _ => hadmits⟩
    · exact ⟨rfl, hstored⟩

theorem IsKept.fate {held : Hold} (h : ix.IsKept u fs k held) (cs : List Change) :
    ix.IsKept u fs k (ix.fate u fs k cs held) := by
  induction cs generalizing held with
  | nil => exact h
  | cons c cs ih =>
    rw [fate_cons]
    cases ix.touch? fs k c with
    | none => exact ih h
    | some t => exact ih (h.touched t)

/-- Once such a file has been looked at, it has an entry exactly if it is there and takes part. -/
theorem IsKept.look {held : Hold} (h : ix.IsKept u fs k held) :
    (ix.touched u fs k .look held).stored =
      (ix.admits u fs (.ofText k) false && fs.isFile (.ofText k)) := by
  obtain ⟨stored, attached⟩ := held
  obtain ⟨rfl, hstored⟩ := h
  rw [Indexer.touched, Hold.touch]
  split
  · next hadmits => simp [show ix.admits u fs (.ofText k) false = true from hadmits]
  · next hadmits =>
    have hnot : ix.admits u fs (.ofText k) false = false := Bool.eq_false_iff.2 hadmits
    have hgone : stored = false := by
      rw [← Bool.not_eq_true]
      exact fun hs => hadmits (hstored hs)
    simp [hnot, hgone]

theorem Settled.isKept (h : ix.Settled u fs) (q : Path) :
    ix.IsKept u fs q.toText (ix.hold q.toText) := by
  have hattached : (ix.hold q.toText).attached = false := by
    rw [← Bool.not_eq_true, hold_attached, h.attached]
    simp
  refine ⟨hattached, fun hstored => ?_⟩
  have hadmits := tracks_eq_ok_true.1 (h.stored q hstored)
  rwa [hattached, ← Path.ofText_toText q] at hadmits

/-- What comes of changes for a file is decided by the last one that touches it. -/
theorem Settled.fate_congr (h : ix.Settled u fs) {cs cs' : List Change}
    (heq : ix.lastTouch? fs k cs = ix.lastTouch? fs k cs') :
    (ix.fate u fs k cs (ix.hold k)).stored = (ix.fate u fs k cs' (ix.hold k)).stored := by
  cases ht : ix.lastTouch? fs k cs with
  | none =>
    rw [fate_untouched (lastTouch?_eq_none ht), fate_untouched (lastTouch?_eq_none (heq ▸ ht))]
  | some t =>
    obtain ⟨before, hfate⟩ := fate_of_lastTouch (u := u) ht (ix.hold k)
    obtain ⟨before', hfate'⟩ := fate_of_lastTouch (u := u) (heq ▸ ht) (ix.hold k)
    rw [hfate, hfate']
    cases t with
    | drop => rfl
    | look =>
      obtain ⟨_, c, _, -, hc, -⟩ := lastTouch?_eq_some ht
      obtain ⟨q, rfl⟩ := touch?_look hc
      rw [((h.isKept q).fate before).look, ((h.isKept q).fate before').look]

/-! ## Changes in order -/

/-- Of the changes in order the last touches of files are reported. -/
theorem Orderly.lastTouch? (h : ix.Orderly fs cs) (k : String) :
    ix.lastTouch? fs k (cs.foldl Debounce.add {}).changes = ix.lastTouch? fs k cs := by
  have reported : ∀ {c}, c ∈ (cs.foldl Debounce.add {}).changes →
      c ∈ cs ∧ Change.last? cs c.path = some c := by
    intro c hc
    have hlast := Debounce.mem_changes_iff.1 hc
    exact ⟨List.mem_reverse.1 (List.mem_of_find?_eq_some hlast), hlast⟩
  cases ht : ix.lastTouch? fs k cs with
  | none =>
    refine List.findSome?_eq_none_iff.2 fun c hc => ?_
    exact lastTouch?_eq_none ht c (reported (List.mem_reverse.1 hc)).1
  | some t =>
    obtain ⟨before, c, after, heq, hc, hafter⟩ := lastTouch?_eq_some ht
    have hmem : c ∈ cs := heq ▸ by simp
    obtain ⟨hsame, htouches⟩ := h k c hmem (by simp [hc])
    -- The change that touches last is the last one of its path.
    have hlast : Change.last? cs c.path = some c := by
      have hnone : after.reverse.find? (·.path = c.path) = none := by
        refine Option.eq_none_iff_forall_ne_some.2 fun c' hc' => ?_
        have hmem' := List.mem_reverse.1 (List.mem_of_find?_eq_some hc')
        refine htouches c' ?_ (hafter c' hmem')
        rw [Change.last?, heq]
        simp [hc']
      rw [Change.last?, heq]
      simp [hnone]
    have honly : ∀ c' ∈ (cs.foldl Debounce.add {}).changes, ix.touch? fs k c' ≠ none → c' = c := by
      intro c' hc' ht'
      obtain ⟨hmem', hlast'⟩ := reported hc'
      rw [hsame c' hmem' ht', hlast] at hlast'
      exact (Option.some.inj hlast').symm
    cases hr : ix.lastTouch? fs k (cs.foldl Debounce.add {}).changes with
    | none =>
      have hnone := lastTouch?_eq_none hr c (Debounce.mem_changes_iff.2 hlast)
      rw [hc] at hnone
      cases hnone
    | some t' =>
      obtain ⟨before', c', after', heq', hc', -⟩ := lastTouch?_eq_some hr
      obtain rfl := honly c' (heq' ▸ by simp) (by simp [hc'])
      rw [← hc, hc']

end Indexer

namespace Debounce

variable {σ : Type}

/-! ## A directory that is made anew -/

/-- A root with a directory that holds a file. -/
def recreated : FileSystem :=
  ⟨.ofList [(["r"], .directory), (["r", "d"], .directory), (["r", "d", "a.py"], .file [])], .root,
    [], []⟩

/-- The directory is removed with its file, and both are made anew. -/
def recreation : List FileEvent :=
  [.deleted "/r/d/a.py" false, .deleted "/r/d" true, .created "/r/d" true,
    .created "/r/d/a.py" false]

theorem recreation_changes :
    recreation.flatMap (·.changes fun p => !(Path.ofText p).isBinary) =
      [⟨.deleted, "/r/d/a.py"⟩, ⟨.directoryDeleted, "/r/d"⟩, ⟨.created, "/r/d/a.py"⟩] := by
  decide +kernel

theorem recreation_debounced :
    (recreation.foldl (handle fun p => !(Path.ofText p).isBinary) {}).changes =
      [⟨.created, "/r/d/a.py"⟩, ⟨.directoryDeleted, "/r/d"⟩] := by
  decide +kernel

theorem plain_embeds : Indexer.plain.Embeds := .of_none rfl

theorem recreation_touches :
    let ix := (Activity.fresh [.ofText "/r"]).index
    ix.touch? recreated "/r/d/a.py" ⟨.created, "/r/d/a.py"⟩ = some .look ∧
      ix.touch? recreated "/r/d/a.py" ⟨.deleted, "/r/d/a.py"⟩ = some .drop ∧
      ix.touch? recreated "/r/d/a.py" ⟨.directoryDeleted, "/r/d"⟩ = some .drop := by
  refine ⟨?_, ?_, ?_⟩ <;> cbv

theorem recreated_filtered :
    (Activity.fresh [.ofText "/r"]).index.Filtered Indexer.plain recreated := by
  intro p root h
  -- There is no other root.
  have hroots : [Path.ofText "/r"].mapM recreated.resolve = .ok [.ofText "/r"] := by cbv
  obtain ⟨roots, hmap, hfind⟩ := Except.bind_eq_ok_iff.1 h
  obtain rfl : roots = [.ofText "/r"] := Except.ok.inj (hmap.symm.trans hroots)
  have hfolders : sortPaths (Activity.fresh [.ofText "/r"]).index.attachedFolders = [] := by
    cbv
  have hmem := List.mem_of_find?_eq_some (Except.ok.inj hfind)
  rw [hfolders] at hmem
  obtain rfl : root = .ofText "/r" := List.mem_singleton.1 hmem
  have hmake : (IgnoreFilter.make recreated (.ofText "/r") {}).map IgnoreFilter.root =
      .ok (.ofText "/r") := by cbv
  obtain ⟨f, hf, -⟩ := Except.map_eq_ok_iff.1 hmake
  exact ⟨f, congrArg Prod.fst (Indexer.filterFor_made (u := Indexer.plain) rfl hf)⟩

theorem recreated_admits :
    (Activity.fresh [.ofText "/r"]).index.admits Indexer.plain recreated (.ofText "/r/d/a.py")
      false = true := by
  let ix := (Activity.fresh [.ofText "/r"]).index
  have hroot : ix.containingRoot? recreated (.ofText "/r/d/a.py") = .ok (some (.ofText "/r")) := by
    cbv
  have hinside : (Path.ofText "/r/d/a.py").relativeTo? (.ofText "/r") = some (.ofText "d/a.py") := by
    cbv
  have hbinary : (Path.ofText "/r/d/a.py").isBinary = false := by decide +kernel
  have htracks : (ix.tracks Indexer.plain recreated (.ofText "/r/d/a.py")).1 = .ok true :=
    Indexer.plain_tracks rfl rfl hroot (by cbv) hbinary (by cbv) hinside (by decide) (by cbv)
  exact Indexer.tracks_eq_ok_true.1 htracks

/-! ## What a flush leaves -/

/-- Whatever an index knows, whatever events come and on whatever files they end: the changes that are
flushed leave the same paths in the index as all changes in turn exactly if each file fares the same
under both. If only files that take part are in the index, that is so as soon as the last touch of
each file is the same in both; and it is the same as long as each file is touched by changes of one
path only, among them the last one of that path. The model of embeddings is taken to fail in its own
way only and, where a directory has appeared, the filters of the roots can be made, since otherwise a
scan is broken off midway. -/
theorem flush_paths_iff (u : Setup σ) (hu : u.Embeds) (fs : FileSystem) (ix : Indexer) (s : σ)
    (accepts : String → Bool) (events : List FileEvent)
    (hfilters : (∃ c ∈ events.flatMap (·.changes accepts), c.kind = .directoryCreated) →
      ix.Filtered u fs) :
    let all := events.flatMap (·.changes accepts)
    let debounced := events.foldl (handle accepts) {}
    let same : Prop := ∀ k,
      k ∈ (debounced.flush (Change.handle u fs) (ix, s)).2.1.store.paths ↔
        k ∈ (report (Change.handle u fs) all (ix, s)).1.store.paths
    (same ↔ ∀ k, (ix.fate u fs k debounced.changes (ix.hold k)).stored =
        (ix.fate u fs k all (ix.hold k)).stored) ∧
      (ix.Settled u fs →
        (∀ k, ix.lastTouch? fs k debounced.changes = ix.lastTouch? fs k all) → same) ∧
      (ix.Orderly fs all →
        ∀ k, ix.lastTouch? fs k debounced.changes = ix.lastTouch? fs k all) := by
  intro all debounced same
  have hdebounced : debounced = all.foldl add {} := handle_foldl accepts events {}
  have hreported : ∀ c ∈ debounced.changes, c ∈ all := by
    intro c hc
    rw [hdebounced, mem_changes_iff] at hc
    exact List.mem_reverse.1 (List.mem_of_find?_eq_some hc)
  have hscan : ∀ c ∈ all, c.kind = .directoryCreated → ix.Scannable u fs (.ofText c.path) :=
    fun c hc hkind => (hfilters ⟨c, hc, hkind⟩).scannable _
  have hflush := Indexer.report_hold hu debounced.changes
    (fun c hc => hscan c (hreported c hc)) s
  have hall := Indexer.report_hold hu all hscan s
  have hsame : same ↔ ∀ k, (ix.fate u fs k debounced.changes (ix.hold k)).stored =
      (ix.fate u fs k all (ix.hold k)).stored := by
    refine forall_congr' fun k => ?_
    rw [← hflush.hold k, ← hall.hold k, Bool.eq_iff_iff]
    exact iff_congr Table.mem_keys Table.mem_keys
  refine ⟨hsame, fun hsettled heq => ?_, fun horderly k => ?_⟩
  · exact hsame.2 fun k => hsettled.fate_congr (heq k)
  · rw [hdebounced]
    exact horderly.lastTouch? k

theorem flush_recreated :
    let ix := (Activity.fresh [.ofText "/r"]).index
    let accepts := fun p => !(Path.ofText p).isBinary
    let all := recreation.flatMap (·.changes accepts)
    let debounced := recreation.foldl (handle accepts) {}
    Indexer.plain.Embeds ∧
      ((∃ c ∈ all, c.kind = .directoryCreated) → ix.Filtered Indexer.plain recreated) ∧
      ((∀ k, k ∈ (debounced.flush (Change.handle Indexer.plain recreated)
            (ix, ())).2.1.store.paths ↔
          k ∈ (report (Change.handle Indexer.plain recreated) all (ix, ())).1.store.paths) ↔
        ∀ k, (ix.fate Indexer.plain recreated k debounced.changes (ix.hold k)).stored =
          (ix.fate Indexer.plain recreated k all (ix.hold k)).stored) := by
  intro ix accepts all debounced
  have hfilters : (∃ c ∈ all, c.kind = .directoryCreated) → ix.Filtered Indexer.plain recreated :=
    fun _ => recreated_filtered
  have H := flush_paths_iff Indexer.plain plain_embeds recreated ix () accepts recreation hfilters
  exact ⟨plain_embeds, hfilters, H.1⟩

/-- The file is in the index once all changes have been handled, and it is not in the index once the
debounced ones have been. -/
theorem recreated_lost :
    let ix := (Activity.fresh [.ofText "/r"]).index
    let accepts := fun p => !(Path.ofText p).isBinary
    let all := recreation.flatMap (·.changes accepts)
    let debounced := recreation.foldl (handle accepts) {}
    "/r/d/a.py" ∈
        (report (Change.handle Indexer.plain recreated) all (ix, ())).1.store.paths ∧
      "/r/d/a.py" ∉
        (debounced.flush (Change.handle Indexer.plain recreated) (ix, ())).2.1.store.paths := by
  intro ix accepts all debounced
  obtain ⟨hcreated, hdeleted, hdirectory⟩ := recreation_touches
  have hscan : ∀ (cs : List Change), ∀ c ∈ cs, c.kind = .directoryCreated →
      ix.Scannable Indexer.plain recreated (.ofText c.path) :=
    fun _ _ _ _ => recreated_filtered.scannable _
  have hall := Indexer.report_hold plain_embeds all (hscan all) ()
  have hflush := Indexer.report_hold plain_embeds debounced.changes (hscan _) ()
  have hfile : recreated.isFile (.ofText "/r/d/a.py") = true := by cbv
  constructor
  · -- The file is dropped with its directory and looked at afterwards.
    have hfate : (ix.fate Indexer.plain recreated "/r/d/a.py" all (ix.hold "/r/d/a.py")).stored =
        true := by
      rw [show all = _ from recreation_changes, Indexer.fate_cons, hdeleted, Indexer.fate_cons,
        hdirectory, Indexer.fate_cons, hcreated]
      simp [Indexer.fate_nil, Indexer.touched, Hold.touch, ix, recreated_admits, hfile]
    exact Table.mem_keys.2 ((congrArg Hold.stored (hall.hold "/r/d/a.py")).trans hfate)
  · -- It is looked at before its directory is dropped.
    have hfate : (ix.fate Indexer.plain recreated "/r/d/a.py" debounced.changes
        (ix.hold "/r/d/a.py")).stored = false := by
      rw [show debounced.changes = _ from recreation_debounced, Indexer.fate_cons, hcreated,
        Indexer.fate_cons, hdirectory]
      rfl
    intro hmem
    have hstored := (congrArg Hold.stored (hflush.hold "/r/d/a.py")).trans hfate
    exact Bool.false_ne_true (hstored.symm.trans (Table.mem_keys.1 hmem))

end Debounce
end CodeAtlas
