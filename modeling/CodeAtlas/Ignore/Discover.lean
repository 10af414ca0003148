import CodeAtlas.Ignore.Filter

/-!
# Finding the files of an index

The files of an index are found by walking the directories below its roots. A directory that the
root's filter ignores is not entered, and links to directories are not followed; a link to a file
counts if its target lies in the root. What cannot be walked is recorded and left out.
-/

namespace CodeAtlas

/-- The files that were found, and what kept others from being found, by root or directory. -/
structure Discovery where
  files : List Path
  problems : Table String String

namespace Discovery

/-- What a walk of a directory finds in it. -/
structure Listing where
  files : List Path
  directories : List Path

/-- Tells a name in a directory as a file that counts, as a directory to enter, or as neither. -/
def sort (fs : FileSystem) (f : IgnoreFilter) (root path : Path) : Except Error Listing := do
  if fs.isDirectory path then
    let ignored ← f.ignores fs path true
    return ⟨[], if ignored || fs.isLink path then [] else [path]⟩
  else
    if ← f.ignores fs path then return ⟨[], []⟩
    if fs.isLink path then
      let target ← fs.resolve path
      if (target.relativeTo? root).isNone then return ⟨[], []⟩
    return ⟨if fs.isFile path then [path] else [], []⟩

/-- The listings of the names in a directory, one after the other. -/
def sortAll (fs : FileSystem) (f : IgnoreFilter) (root : Path) (paths : List Path) :
    Except Error Listing := do
  let parts ← paths.mapM (sort fs f root)
  return ⟨parts.flatMap Listing.files, parts.flatMap Listing.directories⟩

/-- Adds what a later walk found. -/
def append (a b : Discovery) : Discovery :=
  ⟨a.files ++ b.files, b.problems.pairs.foldl (fun t p => t.insert p.1 p.2) a.problems⟩

/-- Nothing. -/
def empty : Discovery := ⟨[], .empty⟩

/-- Walks directories of a root and what lies below them, `depth` levels deep. -/
def walk (fs : FileSystem) (f : IgnoreFilter) (root : Path) : Nat → Path → Except Error Discovery
  | 0, _ => .ok empty
  | depth + 1, directory =>
    match fs.list directory with
    | .error e => .ok ⟨[], .ofList [(directory.toText, e.message)]⟩
    | .ok names => do
      let here ← sortAll fs f root (names.map directory.child)
      let below ← here.directories.mapM (walk fs f root depth)
      return below.foldl append ⟨here.files, .empty⟩

/-- How many levels of directories a file system has. -/
def depth (fs : FileSystem) : Nat := (fs.nodes.keys.map List.length).foldl max 0 + 1

/-- Walks one root, with the filter that is given for it or else with one made from the options. -/
def walkRoot (fs : FileSystem) (filters : List (Path × IgnoreFilter)) (options : IgnoreOptions)
    (root : Path) : Except Error Discovery := do
  let root ← fs.resolve root
  let problem (text : String) : Discovery := ⟨[], .ofList [(root.toText, text)]⟩
  if !fs.exists? root then return problem "root does not exist"
  if !fs.isDirectory root then return problem "root is not a directory"
  let f ← match filters.lookup root with
    | some f => pure f
    | none => IgnoreFilter.make fs root options
  walk fs f root (depth fs) root

end Discovery

/-- Finds the files below the roots, sorted and each once. -/
def discover (fs : FileSystem) (roots : List Path) (filters : List (Path × IgnoreFilter))
    (options : IgnoreOptions) : Except Error Discovery := do
  let parts ← roots.mapM (Discovery.walkRoot fs filters options)
  let all := parts.foldl Discovery.append .empty
  return { all with files := all.files.eraseDups.mergeSort fun a b => !b.lt a }

end CodeAtlas
