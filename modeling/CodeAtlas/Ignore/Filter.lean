import CodeAtlas.Files.System
import CodeAtlas.Ignore.Pattern
import CodeAtlas.Text.Blank
import CodeAtlas.Text.Lines

/-!
# Ignore filters

A filter decides which paths below a root take part in an index. Files in binary formats never do.
For the others the last pattern that matches decides: built-in patterns come first, then patterns
that are given, then those of an ignore file in the root. What matches no pattern takes part.

Patterns are matched against the path with its links replaced, as seen from the root; what leads out
of the root matches nothing.
-/

namespace CodeAtlas

/-- The name of ignore files. -/
def ignoreFileName : String := ".ragignore"

/-- Patterns for what is generated, fetched or logged, and not written by hand. -/
def builtInPatterns : List String :=
  [".git/", ".hg/", ".svn/", "node_modules/", "dist/", "out/", "build/", "target/", "*.egg-info/",
   "__pycache__/", "venv/", ".venv/", "coverage/", "htmlcov/", "vendor/", "third_party/", "*.log"]

/-- The patterns among lines: without white space at their ends, and without blank lines and
comments. -/
def patternLines (lines : List String) : List String :=
  (lines.map Text.strip).filter fun l => l ≠ "" && !l.startsWith "#"

/-- The patterns of an ignore file; a file that cannot be read has none. -/
def filePatterns (fs : FileSystem) (file : Path) : List String :=
  if fs.isFile file then
    match fs.readText file with
    | .ok text => patternLines ((Text.lines text.toList).map fun l => String.ofList (Text.lineText l))
    | .error _ => []
  else []

/-- What a filter is made from. -/
structure IgnoreOptions where
  extraPatterns : List String := []
  fileName : String := ignoreFileName
  useBuiltIn : Bool := true
deriving DecidableEq, Repr

/-- Decides which paths below a root take part in an index. -/
structure IgnoreFilter where
  root : Path
  texts : List String
  patterns : List Pattern
deriving DecidableEq, Repr

namespace IgnoreFilter

/-- The texts of the patterns of a root. -/
def patternTexts (fs : FileSystem) (root : Path) (options : IgnoreOptions) : List String :=
  (if options.useBuiltIn then builtInPatterns else []) ++ patternLines options.extraPatterns ++
    filePatterns fs (root.join (.ofText options.fileName))

/-- Makes the filter of a root. -/
def make (fs : FileSystem) (root : Path) (options : IgnoreOptions) : Except Error IgnoreFilter := do
  let root ← fs.resolve root
  let texts := patternTexts fs root options
  return ⟨root, texts, ← texts.mapM Pattern.ofText⟩

/-- Whether the last pattern that matches a path is one that ignores it. -/
def matches? (f : IgnoreFilter) (path : List Char) : Bool :=
  match f.patterns.reverse.find? fun p => p.paths.contains path with
  | some p => !p.negated
  | none => false

/-- Whether the filter ignores a path as seen from its root. -/
def ignoresRelative (f : IgnoreFilter) (path : Path) (isDirectory : Bool) : Bool :=
  if path.names = [] then false
  else f.matches? (path.toText.toList ++ if isDirectory then ['/'] else [])

/-- Whether the filter ignores a path. -/
def ignores (f : IgnoreFilter) (fs : FileSystem) (path : Path) (isDirectory : Bool := false) :
    Except Error Bool :=
  let path := f.root.join path
  if !isDirectory && path.isBinary then .ok true
  else do
    let found ← fs.resolve path
    return match found.relativeTo? f.root with
      | some relative => f.ignoresRelative relative isDirectory
      | none => false

/-- What the filter is called. -/
def describe (f : IgnoreFilter) : String :=
  "IgnoreFilter(root=" ++ f.root.toText ++ ", patterns=" ++ toString f.texts.length ++ ")"

end IgnoreFilter
end CodeAtlas
