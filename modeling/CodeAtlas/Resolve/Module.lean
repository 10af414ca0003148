import CodeAtlas.Data.Table
import CodeAtlas.Files.Path

/-!
# Modules

A source file provides a module, named by the components of its path below the project's root,
joined by dots. The file `__init__` of a directory provides the module of the directory. Files
below `src` or `lib` also provide the module named without that first component, unless another
file came first.

`ModuleTable.file?` finds the file that a hint in an import denotes: a dotted name, a name relative
to the module of the importing file, or, for scripts, a path.
-/

namespace CodeAtlas

/-- The module that a file provides, by its path below the root. -/
def Path.moduleName? (p : Path) : Option String :=
  if p.suffix = ".py" ∨ p.suffix = ".pyw" then
    let parts := p.parent.components ++ if p.stem = "__init__" then [] else [p.stem]
    if parts.isEmpty then none else some (".".intercalate parts)
  else none

/-- Directories of sources, whose name is no part of the names that modules are imported by. -/
def sourceDirectories : List String := ["src", "lib"]

/-- The suffixes that a path in a script's import may leave out, in the order they are tried. -/
def scriptSuffixes : List String :=
  [".ts", ".tsx", ".mts", ".cts", ".js", ".jsx", ".mjs", ".cjs"]

/-- The files of modules, and the modules of files. -/
structure ModuleTable where
  files : Table String String
  names : Table String String

namespace ModuleTable

/-- The table without modules. -/
def empty : ModuleTable := ⟨.empty, .empty⟩

/-- What follows a leading directory of sources in a module name. -/
def shortName? (module : String) : Option String :=
  match Text.cutFirst? '.' module.toList with
  | some (head, rest) =>
    if sourceDirectories.contains (String.ofList head) && !rest.isEmpty then
      some (String.ofList rest)
    else none
  | none => none

/-- Enters a file under the module that it provides below the first root that contains it. A module
that has a file keeps it. -/
def add (roots : List Path) (t : ModuleTable) (file : String) : ModuleTable :=
  match (roots.findSome? (Path.ofText file).relativeTo?).bind Path.moduleName? with
  | none => t
  | some module =>
    let files := t.files.insertIfNew module file
    { files := match shortName? module with
        | some short => files.insertIfNew short file
        | none => files
      names := t.names.insertIfNew file module }

/-- The absolute name of a module that is named with leading dots: the first dot stands for the
package of the importing file, and each further dot for the package around it. -/
def absoluteName? (t : ModuleTable) (module fromFile : String) : Option String := do
  let dots := (module.toList.takeWhile (· = '.')).length
  let remainder := module.toList.drop dots
  let current ← t.names.find? fromFile
  let parts := Text.splitOn '.' current.toList
  let package := if fromFile.endsWith "__init__.py" then parts else parts.dropLast
  if package.length + 1 < dots then none
  else
    let outer := package.take (package.length - (dots - 1))
    let full := (outer ++ [remainder]).filter (· ≠ [])
    if full = [] then none else some (".".intercalate (full.map String.ofList))

/-- The paths that an import in a script may mean, in the order they are tried. -/
def scriptCandidates (base : String) : List String :=
  let folder := if base.endsWith "/" then base else base ++ "/"
  base :: scriptSuffixes.map (base ++ ·) ++ scriptSuffixes.map (folder ++ "index" ++ ·)

/-- The file that a path in a script's import denotes. -/
def scriptFile? (isKnown : String → Bool) (specifier fromFile : String) : Option String :=
  if specifier.startsWith "." then
    let base := ((Path.ofText fromFile).parent.join (Path.ofText specifier)).normalized.toText
    (scriptCandidates base).findSome? fun candidate =>
      if isKnown candidate then some candidate
      else
        let plain := (Path.ofText candidate).toText
        if isKnown plain then some plain else none
  else none

/-- The file that a hint denotes; `isKnown` tells the files of the project. -/
def file? (t : ModuleTable) (isKnown : String → Bool) (module fromFile : String) :
    Option String :=
  if module.contains '/' then scriptFile? isKnown module fromFile
  else if module.startsWith "." then (t.absoluteName? module fromFile).bind t.files.find?
  else t.files.find? module

end ModuleTable
end CodeAtlas
