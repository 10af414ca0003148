import CodeAtlas.Index.Entry
import CodeAtlas.Resolve.Module

/-!
# Finding the declaration that a use means

A name table holds the symbols of a project, taken in the order of their files' paths. A use is
resolved by what is known about it:

1. imported from a module: a declaration of that name in the module's file; if there is none, the
   only symbol of that name in the project; and if the hint is no file, a member of the class that
   it ends in;
2. called on the object of a class: a member of that class in the same file;
3. otherwise: a declaration in the same file, or else in the project, methods last.

A declaration that lies in no class is preferred to one that does.
-/

namespace CodeAtlas

/-- The symbols of a project by name, by handle and by file, and its modules. -/
structure NameTable where
  handles : Table String (List Handle)
  symbols : Table Handle Symbol
  files : Table String (List Symbol)
  modules : ModuleTable

namespace NameTable

/-- The table without symbols. -/
def empty : NameTable := ⟨.empty, .empty, .empty, .empty⟩

/-- Enters a symbol under its name and its handle. -/
def addSymbol (t : NameTable) (s : Symbol) : NameTable :=
  { t with
    symbols := t.symbols.insert s.handle s
    handles := t.handles.insert s.name ((t.handles.find? s.name).getD [] ++ [s.handle]) }

/-- Enters the symbols of a file, and its module. -/
def addEntry (roots : List Path) (t : NameTable) (e : Entry) : NameTable :=
  let t := e.symbols.foldl addSymbol { t with files := t.files.insert e.path e.symbols }
  { t with modules := t.modules.add roots e.path }

/-- The table of a project. -/
def ofEntries (roots : List Path) (entries : List Entry) : NameTable :=
  (entries.mergeSort fun a b => decide (a.path ≤ b.path)).foldl (addEntry roots) empty

/-- Whether the project has the file. -/
def hasFile (t : NameTable) (path : String) : Bool := t.files.contains path

/-- The symbols of a file. -/
def symbolsOf (t : NameTable) (path : String) : List Symbol := (t.files.find? path).getD []

/-- The handles of all symbols of a name, in the order of their files. -/
def handlesOf (t : NameTable) (name : String) : List Handle := (t.handles.find? name).getD []

/-- The file that provides a module. -/
def moduleFile? (t : NameTable) (module fromFile : String) : Option String :=
  t.modules.file? t.hasFile module fromFile

/-- The first symbol outside of classes, or else the first symbol. -/
def preferred? (symbols : List Symbol) : Option Handle :=
  ((symbols.find? fun s => s.container.isNone) <|> symbols.head?).map Symbol.handle

/-- A dotted name without its last component, and that component. -/
def splitOwner (module : String) : String × String :=
  match Text.cutLast? '.' module.toList with
  | some (parent, owner) => (String.ofList parent, String.ofList owner)
  | none => ("", module)

/-- The symbols of a file that have a name. -/
def symbolsNamed (t : NameTable) (path name : String) : List Symbol :=
  (t.symbolsOf path).filter fun s => s.name = name

/-- The symbol that a use of an imported name means. -/
def resolveImported (t : NameTable) (u : Use) (module : String) : Option Handle :=
  match t.moduleFile? module u.file with
  | some file =>
    match preferred? (t.symbolsNamed file u.name) with
    | some h => some h
    | none => match t.handlesOf u.name with
      | [h] => some h
      | _ => none
  | none =>
    let (parent, owner) := splitOwner module
    if parent ≠ "" && !module.contains '/' then do
      let file ← t.moduleFile? parent u.file
      let s ← (t.symbolsNamed file u.name).find? fun s => s.container = some owner
      return s.handle
    else none

/-- The symbol that a bare name means in a project whose file does not declare it. -/
def resolveAnywhere (t : NameTable) (name : String) : Option Handle :=
  let candidates := (t.handlesOf name).filterMap t.symbols.find?
  ((candidates.find? fun s => s.kind ≠ .method) <|> candidates.head?).map Symbol.handle

/-- The symbol that a use means. -/
def resolve (t : NameTable) (u : Use) : Option Handle :=
  match u.module with
  | some module => t.resolveImported u module
  | none =>
    let here := t.symbolsNamed u.file u.name
    match u.container with
    | some c => (here.find? fun s => s.container = some c).map Symbol.handle
    | none => preferred? here <|> t.resolveAnywhere u.name

/-- Whether a use is known to mean something outside of the project. -/
def isExternal (t : NameTable) (u : Use) : Bool :=
  if u.external then true
  else match u.declaration with
    | some site => !t.hasFile site.file
    | none => match u.module with
      | none => false
      | some module =>
        if (t.moduleFile? module u.file).isSome then false
        else
          let parent := (splitOwner module).1
          if parent ≠ "" && !module.contains '/' then (t.moduleFile? parent u.file).isNone
          else true

end NameTable
end CodeAtlas
