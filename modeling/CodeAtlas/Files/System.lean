import CodeAtlas.Data.Table
import CodeAtlas.Error
import CodeAtlas.Files.Path

/-!
# File systems

A file system is a tree of directories, files and links, kept as a table from the names on the way
from the root to the node. Certain directories cannot be listed, and certain files cannot be read.

* `locate` follows a path, and all links on its way, to the node that it leads to;
* `canonical` replaces links by their targets as far as there is something to replace;
* `resolve` is `canonical`, and refuses paths that run into links that lead back to themselves.
-/

namespace CodeAtlas

/-- What a directory can hold. -/
inductive Node
  | file (bytes : List UInt8)
  | link (target : Path)
  | directory

/-- A tree of files, with the directory that relative paths start from. -/
structure FileSystem where
  nodes : Table (List String) Node
  workingDirectory : Path
  unlistable : List Path := []
  unreadable : List Path := []

namespace FileSystem

/-- The node at a place that is reached without following links. -/
def node? (fs : FileSystem) (names : List String) : Option Node :=
  if names = [] then some .directory else fs.nodes.find? names

/-- The target of a link, as a place to start from and the names to follow from there. -/
def linkStart (at' : List String) (target : Path) : List String :=
  if target.isAbsolute then [] else at'

/-- How many links a path may run through. -/
def linkLimit : Nat := 40

/-- Follows names from a place; at most `budget` links are followed. `path` is the whole path, for
the error. -/
def locateFrom (fs : FileSystem) (path : String) (budget : Nat) (at' : List String) :
    List String → Except FileError (List String)
  | [] => .ok at'
  | ".." :: rest => fs.locateFrom path budget at'.dropLast rest
  | name :: rest =>
    let here := at' ++ [name]
    match fs.node? here with
    | none => .error (.notFound path)
    | some .directory => fs.locateFrom path budget here rest
    | some (.file _) => if rest.isEmpty then .ok here else .error (.notDirectory path)
    | some (.link target) =>
      match budget with
      | 0 => .error (.tooManyLinks path)
      | budget + 1 => fs.locateFrom path budget (linkStart at' target) (target.names ++ rest)
termination_by rest => (budget, rest.length)

/-- The absolute form of a path, its two-dot components kept. -/
def fromRoot (fs : FileSystem) (p : Path) : Path := fs.workingDirectory.join p

/-- The place that a path leads to. -/
def locate (fs : FileSystem) (p : Path) : Except FileError (List String) :=
  fs.locateFrom p.toText linkLimit [] (fs.fromRoot p).names

/-- The node that a path leads to. -/
def target? (fs : FileSystem) (p : Path) : Option Node :=
  match fs.locate p with
  | .ok names => fs.node? names
  | .error _ => none

/-- Whether the path leads to a file. -/
def isFile (fs : FileSystem) (p : Path) : Bool := fs.target? p matches some (.file _)

/-- Whether the path leads to a directory. -/
def isDirectory (fs : FileSystem) (p : Path) : Bool := fs.target? p matches some .directory

/-- Whether the path leads to anything. -/
def exists? (fs : FileSystem) (p : Path) : Bool := (fs.target? p).isSome

/-- Follows names from a place and replaces links by what they lead to, for as many links within
links as `depth` says. A name that leads to nothing is kept. Where a link is met again while it is
being replaced, it and all names behind it are kept, and the flag is false. -/
def canonicalFrom (fs : FileSystem) (depth : Nat) (active : List (List String))
    (at' : List String) : List String → List String × Bool
  | [] => (at', true)
  | ".." :: rest => fs.canonicalFrom depth active at'.dropLast rest
  | name :: rest =>
    let here := at' ++ [name]
    match fs.node? here with
    | some (.link target) =>
      match depth with
      | 0 => (here ++ rest, false)
      | depth + 1 =>
        if active.contains here then (here ++ rest, false)
        else
          match fs.canonicalFrom depth (here :: active) (linkStart at' target) target.names with
          | (found, true) => fs.canonicalFrom (depth + 1) active found rest
          | (found, false) => (found ++ rest, false)
    | _ => fs.canonicalFrom depth active here rest
termination_by rest => (depth, rest.length)

/-- The path with its links replaced, without two-dot components. -/
def canonical (fs : FileSystem) (p : Path) : Path :=
  (Path.ofNames .root (fs.canonicalFrom (fs.nodes.size + 1) [] [] (fs.fromRoot p).names).1).normalized

/-- The path with its links replaced; a path that runs into a loop of links is refused. -/
def resolve (fs : FileSystem) (p : Path) : Except Error Path :=
  let found := fs.canonical p
  match fs.locate found with
  | .error (.tooManyLinks path) => .error (.linkLoop path)
  | _ => .ok found

/-- The names in the directory at a place. -/
def namesIn (fs : FileSystem) (place : List String) : List String :=
  fs.nodes.keys.filterMap fun names =>
    if names.dropLast = place then names.getLast?.filter fun s => IsComponent s ∧ s ≠ ".." else none

/-- The names in the directory that a path leads to, unless it cannot be listed. -/
def list (fs : FileSystem) (directory : Path) : Except FileError (List String) :=
  if fs.unlistable.contains directory then .error (.denied directory.toText)
  else (fs.locate directory).map fs.namesIn

/-- Whether the path itself is a link; links before its last component are followed. -/
def isLink (fs : FileSystem) (p : Path) : Bool :=
  match fs.locate p.parent with
  | .ok place => (fs.node? (place ++ [p.name]) matches some (.link _))
  | .error _ => false

/-- Turns a carriage return, and one followed by a line feed, into a line feed. -/
def plainLineFeeds : List Char → List Char
  | '\r' :: '\n' :: cs => '\n' :: plainLineFeeds cs
  | '\r' :: cs => '\n' :: plainLineFeeds cs
  | c :: cs => c :: plainLineFeeds cs
  | [] => []

/-- Why a file cannot be read as text. -/
inductive ReadError
  | refused (cause : FileError)
  /-- The bytes are not UTF-8. -/
  | notText
deriving DecidableEq, Repr

/-- The text of a file's bytes. -/
def textOfBytes (bytes : List UInt8) : Except ReadError String :=
  match String.fromUTF8? (ByteArray.mk bytes.toArray) with
  | some s => .ok (String.ofList (plainLineFeeds s.toList))
  | none => .error .notText

/-- The bytes of the file that a path leads to. -/
def bytes (fs : FileSystem) (p : Path) : Except FileError (List UInt8) :=
  match fs.locate p with
  | .error e => .error e
  | .ok names => match fs.node? names with
    | some (.file bytes) => .ok bytes
    | some _ => .error (.isDirectory p.toText)
    | none => .error (.notFound p.toText)

/-- The number of bytes of the file that a path leads to. -/
def sizeOf (fs : FileSystem) (p : Path) : Nat :=
  match fs.bytes p with
  | .ok bytes => bytes.length
  | .error _ => 0

/-- The text of the file that a path leads to, its line ends as line feeds. -/
def readText (fs : FileSystem) (p : Path) : Except ReadError String :=
  match fs.bytes p with
  | .error e => .error (.refused e)
  | .ok bytes =>
    if fs.unreadable.contains p then .error (.refused (.denied p.toText)) else textOfBytes bytes

/-! ## Changes -/

/-- The empty tree. -/
def empty (workingDirectory : Path) : FileSystem := ⟨.empty, workingDirectory, [], []⟩

/-- The places on the way to a place, itself the last one. -/
def ancestors (names : List String) : List (List String) :=
  (List.range names.length).map fun i => names.take (i + 1)

/-- The tree with directories on the whole way to a place. -/
def withDirectories (fs : FileSystem) (names : List String) : FileSystem :=
  { fs with nodes := (ancestors names).foldl (fun t d => t.insertIfNew d .directory) fs.nodes }

/-- Puts a node at the end of a path; directories on the way are made where there are none. -/
def write (fs : FileSystem) (p : Path) (n : Node) : FileSystem :=
  let directory := (fs.canonical p.parent).names
  let fs := fs.withDirectories directory
  match n with
  | .directory => fs.withDirectories (directory ++ [p.name])
  | n => { fs with nodes := fs.nodes.insert (directory ++ [p.name]) n }

/-- The place of the last component of a path: links before it are followed. -/
def placeOf (fs : FileSystem) (p : Path) : List String :=
  (fs.canonical p.parent).names ++ [p.name]

/-- Removes what is at the end of a path, and all below it. -/
def delete (fs : FileSystem) (p : Path) : FileSystem :=
  let place := fs.placeOf p
  { fs with nodes := fs.nodes.filter fun names _ => !place.isPrefixOf names }

/-- Moves what is at the end of a path, and all below it, to another place. -/
def rename (fs : FileSystem) (p q : Path) : FileSystem :=
  let source := fs.placeOf p
  let fs := fs.withDirectories (fs.canonical q.parent).names
  let goal := fs.placeOf q
  let moved := fs.nodes.pairs.filter fun n => source.isPrefixOf n.1
  let rest := (fs.delete p).delete q
  let put (t : Table (List String) Node) (n : List String × Node) :=
    t.insert (goal ++ n.1.drop source.length) n.2
  { rest with nodes := moved.foldl put rest.nodes }

end FileSystem
end CodeAtlas
