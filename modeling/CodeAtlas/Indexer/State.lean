import CodeAtlas.Ignore.Discover
import CodeAtlas.Index.Store
import CodeAtlas.Indexer.Setup

/-!
# The state of an indexer

An indexer keeps the store for the files below its roots and for files and folders that are
attached to it. Ignore filters are made when they are first needed, and kept until the next build.

* `Indexer.normalize`: the one path that a file goes by;
* `Indexer.tracks`: whether a file takes part in the index;
* `Indexer.discoverAll`: the files that a build takes in.
-/

namespace CodeAtlas

/-- What a build did. -/
structure BuildReport where
  generation : Int
  files : Nat
  symbols : Nat
  parseErrors : Nat
  references : Nat
  embeddings : Nat
  /-- What kept files from being found, by root or directory. -/
  problems : Table String String

/-- An index of the files below some roots, and what goes on with it. -/
structure Indexer where
  roots : List Path
  store : Store := .empty
  attachedFiles : List Path := []
  attachedFolders : List Path := []
  /-- Whether a build is going on. -/
  building : Bool := false
  filters : Table Path IgnoreFilter := .empty
  watching : Bool := false
  lastReport : Option BuildReport := none
  /-- The errors that the host was told of. -/
  notified : List Error := []
  /-- Counts the moments at which files are looked at. -/
  clock : Nat := 0

/-- Paths in their order. -/
def sortPaths (paths : List Path) : List Path := paths.mergeSort fun a b => !b.lt a

namespace Indexer

variable {σ : Type}

/-- Those roots that are directories, with their links replaced. -/
def validRoots (fs : FileSystem) (ix : Indexer) : Except Error (List Path) := do
  return (← ix.roots.mapM fs.resolve).filter fs.isDirectory

/-- The first root, or else the first attached folder, that a path lies in. -/
def containingRoot? (fs : FileSystem) (path : Path) (ix : Indexer) : Except Error (Option Path) := do
  let roots ← ix.roots.mapM fs.resolve
  return (roots ++ sortPaths ix.attachedFolders).find? fun r => (path.relativeTo? r).isSome

/-- The path that a file goes by. Links are only replaced in paths that lie in no root. -/
def normalize (fs : FileSystem) (path : Path) (ix : Indexer) : Except Error Path := do
  let path := path.absolute fs.workingDirectory
  let root ← ix.containingRoot? fs path
  if root.isNone && fs.exists? path then fs.resolve path else return path

/-- The filter of a root, which is made if there is none yet. -/
def filterFor (u : Setup σ) (fs : FileSystem) (root : Path) (ix : Indexer) :
    Except Error IgnoreFilter × Indexer :=
  match ix.filters.find? root with
  | some f => (.ok f, ix)
  | none =>
    match IgnoreFilter.make fs root ⟨u.config.extraIgnorePatterns, u.config.ignoreFileName, true⟩ with
    | .error e => (.error e, ix)
    | .ok f => (.ok f, { ix with filters := ix.filters.insert root f })

/-- The filters of several roots. -/
def filtersFor (u : Setup σ) (fs : FileSystem) :
    List Path → Indexer → Except Error (List (Path × IgnoreFilter)) × Indexer
  | [], ix => (.ok [], ix)
  | root :: roots, ix =>
    match ix.filterFor u fs root with
    | (.error e, ix) => (.error e, ix)
    | (.ok f, ix) =>
      let (rest, ix) := filtersFor u fs roots ix
      (rest.map ((root, f) :: ·), ix)

/-- Whether the file of a normalised path takes part in the index. -/
def tracks (u : Setup σ) (fs : FileSystem) (path : Path) (ix : Indexer) :
    Except Error Bool × Indexer :=
  if ix.attachedFiles.contains path then (.ok !path.isBinary, ix)
  else match ix.containingRoot? fs path with
    | .error e => (.error e, ix)
    | .ok none => (.ok false, ix)
    | .ok (some root) =>
      match ix.filterFor u fs root with
      | (.error e, ix) => (.error e, ix)
      | (.ok f, ix) => ((f.ignores fs path).map (!·), ix)

/-- Whether a file takes part in the index. -/
def isTracked (u : Setup σ) (fs : FileSystem) (path : Path) (ix : Indexer) :
    Except Error Bool × Indexer :=
  match ix.normalize fs path with
  | .error e => (.error e, ix)
  | .ok path => ix.tracks u fs path

/-- What a file is called: its path as seen from its root, and for attached folders from the
directory around them. -/
def displayName (fs : FileSystem) (path : Path) (ix : Indexer) : Except Error Path := do
  match ← ix.containingRoot? fs path with
  | none => return path
  | some root =>
    let inside := (path.relativeTo? root).getD path
    let roots ← ix.roots.mapM fs.resolve
    if ix.attachedFolders.contains root && !roots.contains root then
      return (Path.ofNames .relative [root.name]).join inside
    else return inside

/-- The files that a build takes in, and what kept others from being found. -/
def discoverAll (u : Setup σ) (fs : FileSystem) (roots : List Path) (ix : Indexer) :
    Except Error Discovery × Indexer :=
  let folders := sortPaths (ix.attachedFolders.filter fun f => !roots.contains f)
  match ix.filtersFor u fs (roots ++ folders) with
  | (.error e, ix) => (.error e, ix)
  | (.ok filters, ix) =>
    let found := discover fs (roots ++ folders) filters {}
    (found.map fun d =>
      let more := (sortPaths ix.attachedFiles).filter fun f => !d.files.contains f && fs.isFile f
      { d with files := d.files ++ more }, ix)

/-- Takes a normalised path out of the index; tells whether it was in the store. -/
def forget (path : Path) (ix : Indexer) : Bool × Indexer :=
  (ix.store.contains path.toText,
   { ix with
      attachedFiles := ix.attachedFiles.filter (· ≠ path)
      store := ix.store.remove path.toText })

/-- Whether the text of a path starts with that of a directory and a slash. -/
def isBelow (directory : Path) (path : String) : Bool :=
  (directory.toText ++ "/").toList.isPrefixOf path.toList

/-- Takes everything below a normalised directory out of the index, and counts the entries. -/
def forgetBelow (directory : Path) (ix : Indexer) : Nat × Indexer :=
  let gone := ix.store.paths.filter (isBelow directory)
  (gone.length,
   { ix with
      attachedFiles := ix.attachedFiles.filter fun f => !isBelow directory f.toText
      store := gone.foldl Store.remove ix.store })

end Indexer
end CodeAtlas
