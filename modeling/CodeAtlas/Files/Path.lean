import CodeAtlas.Text.Split

/-!
# Paths

A path is relative, or starts at a root, and has components: texts that are neither empty nor a
single dot and hold no slash. Reading a path drops empty components and single dots; two dots are
kept. Exactly two leading slashes are a root of their own.

`Path.lt` orders paths by their components, not by their texts. `Path.isBinary` tells by the suffix
whether a file is taken to hold no text.
-/

namespace CodeAtlas

/-- Where a path starts. -/
inductive Anchor
  | relative
  | root
  /-- The root that is written with two slashes. -/
  | doubleRoot
deriving DecidableEq, Repr, Inhabited

namespace Anchor

/-- The slashes that a path starts with. -/
def text : Anchor → String
  | relative => ""
  | root => "/"
  | doubleRoot => "//"

/-- The root as a component of its own, if there is one. -/
def components : Anchor → List String
  | relative => []
  | a => [a.text]

end Anchor

/-- What can stand between two slashes of a path. -/
def IsComponent (s : String) : Prop := s ≠ "" ∧ s ≠ "." ∧ '/' ∉ s.toList

instance (s : String) : Decidable (IsComponent s) := by unfold IsComponent; infer_instance

/-- A path: where it starts, and its components. -/
structure Path where
  anchor : Anchor
  names : List String
  isComponent : ∀ s ∈ names, IsComponent s
deriving DecidableEq, Repr

namespace Path

instance : Inhabited Path := ⟨⟨.relative, [], by simp⟩⟩

/-- The root directory. -/
def root : Path := ⟨.root, [], by simp⟩

/-- The path with those of the texts that can be components. -/
def ofNames (anchor : Anchor) (names : List String) : Path :=
  ⟨anchor, names.filter fun s => IsComponent s, by simp⟩

/-- The root that a text starts with. -/
def anchorOf : List Char → Anchor
  | '/' :: '/' :: '/' :: _ => .root
  | '/' :: '/' :: _ => .doubleRoot
  | '/' :: _ => .root
  | _ => .relative

/-- Reads a path. -/
def ofText (s : String) : Path :=
  ofNames (anchorOf s.toList) ((Text.splitOn '/' s.toList).map String.ofList)

/-- The text of a path; a single dot stands for the relative path without components. -/
def toText (p : Path) : String :=
  if p.anchor = .relative ∧ p.names = [] then "."
  else p.anchor.text ++ "/".intercalate p.names

/-- The components, a root being one of them. -/
def components (p : Path) : List String := p.anchor.components ++ p.names

/-- The order of paths: by their components. -/
def lt (a b : Path) : Bool := decide (a.components < b.components)

/-- Whether the path starts at a root. -/
def isAbsolute (p : Path) : Bool := p.anchor ≠ .relative

/-- The last component, or the empty text. -/
def name (p : Path) : String := p.names.getLast?.getD ""

/-- The path without its last component. -/
def parent (p : Path) : Path :=
  ⟨p.anchor, p.names.dropLast, fun s h => p.isComponent s (List.dropLast_subset _ h)⟩

/-- The second path as seen from the first: an absolute one stays as it is. -/
def join (p q : Path) : Path :=
  if q.isAbsolute then q
  else ⟨p.anchor, p.names ++ q.names, fun s h => by
    rcases List.mem_append.1 h with h | h
    · exact p.isComponent s h
    · exact q.isComponent s h⟩

/-- The path with one more component. -/
def child (p : Path) (name : String) : Path := p.join (ofNames .relative [name])

/-- The path as seen from a directory, if it lies below it. -/
def relativeTo? (p dir : Path) : Option Path :=
  if p.anchor = dir.anchor ∧ dir.names <+: p.names then
    some ⟨.relative, p.names.drop dir.names.length, fun s h =>
      p.isComponent s (List.drop_subset _ _ h)⟩
  else none

/-- Cuts a component in front of its last dot, if that is neither its first nor its last character. -/
def splitSuffix (name : String) : String × String :=
  let cs := name.toList
  let tail := cs.reverse.takeWhile (· ≠ '.')
  let stem := cs.length - tail.length - 1
  if tail = [] ∨ cs.length ≤ tail.length + 1 then (name, "")
  else (String.ofList (cs.take stem), String.ofList (cs.drop stem))

/-- The suffix of the last component, with its dot; empty if there is none. -/
def suffix (p : Path) : String := (splitSuffix p.name).2

/-- The last component without its suffix. -/
def stem (p : Path) : String := (splitSuffix p.name).1

/-- A character in lower case, as far as the result can be an ASCII letter. -/
def lowerChar (c : Char) : Char := if c = '\u212a' then 'k' else c.toLower

/-- The suffix in lower case. -/
def lowerSuffix (p : Path) : String := String.ofList (p.suffix.toList.map lowerChar)

/-- Takes up a component: two dots remove the one before, and nothing at a root. -/
def normalStep (anchor : Anchor) (done : List String) (s : String) : List String :=
  if s ≠ ".." then s :: done
  else match done with
    | [] => if anchor = .relative then [s] else []
    | t :: rest => if t = ".." then s :: done else rest

/-- The path without two-dot components, as far as it has something for them to remove. -/
def normalized (p : Path) : Path :=
  ofNames p.anchor (p.names.foldl (normalStep p.anchor) []).reverse

/-- The normalised path as seen from a working directory. -/
def absolute (p workingDirectory : Path) : Path := (workingDirectory.join p).normalized

end Path

/-- Suffixes of files that hold no text. -/
def binarySuffixes : List String :=
  [".jpg", ".jpeg", ".png", ".gif", ".bmp", ".ico", ".webp",
   ".mp3", ".wav", ".ogg", ".mp4", ".avi", ".mov", ".wmv",
   ".zip", ".rar", ".7z", ".gz", ".tar",
   ".pdf", ".doc", ".docx", ".xls", ".xlsx", ".ppt", ".pptx",
   ".exe", ".dll", ".so", ".dylib", ".pyc", ".class", ".o", ".a",
   ".woff", ".woff2", ".ttf"]

/-- Whether the suffix is that of a binary format, in any case. -/
def Path.isBinary (p : Path) : Bool := binarySuffixes.contains p.lowerSuffix

end CodeAtlas
