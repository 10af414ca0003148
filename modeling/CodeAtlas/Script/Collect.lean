import CodeAtlas.Data.Table
import CodeAtlas.Script.Program
import CodeAtlas.Source.Declaration
import CodeAtlas.Text.Blank

/-!
# Declarations and uses of a script

Declarations of classes, functions and methods are recorded wherever they stand, variables only
outside of functions. A use is the callee of a call or of a construction. Imports are looked up for
the whole script, wherever they stand in it.

Declarations come in the order of their starts, and so do uses; of uses with one start, plain calls
come first, then called members from the inside out, then constructions.
-/

namespace CodeAtlas.Script

/-- A declaration as the syntax tree tells it: with byte columns. -/
structure Definition where
  form : Form
  name : String
  span : Span
  container : Option String
deriving DecidableEq, Repr

/-- How something is referred to. -/
inductive MentionForm
  | call
  | memberCall
  | construct
deriving DecidableEq, Repr

/-- A call or a construction as the syntax tree tells it: with byte columns. -/
structure Mention where
  form : MentionForm
  name : String
  span : Span
  /-- The name of the object whose member is called, if that is a plain name. -/
  object : Option String
  /-- The class around a member of `this`. -/
  container : Option String
deriving DecidableEq, Repr

/-- What stands around a node: the name of the innermost class, and whether there is a function. -/
structure Context where
  owner : Option String
  inFunction : Bool
deriving DecidableEq, Repr, Inhabited

/-- The context inside of a declaration. -/
def Context.inside (c : Context) (form : Form) (name : String) : Context :=
  match form with
  | .class_ | .abstractClass => { c with owner := some name }
  | .function | .generator | .method => { c with inFunction := true }
  | .interface | .enum | .typeAlias | .variable_ => c

/-- The context inside of a node that declares no name. -/
def Context.within (c : Context) : Frame → Context
  | .class_ name => { c with owner := name }
  | .function => { c with inFunction := true }
  | .phrase => c

/-- Declarations and mentions. -/
abbrev Findings := List Definition × List Mention

namespace Findings

/-- The findings of two nodes. -/
def append (a b : Findings) : Findings := (a.1 ++ b.1, a.2 ++ b.2)

instance : Append Findings := ⟨append⟩

/-- A single mention. -/
def mention (m : Mention) : Findings := ([], [m])

end Findings

/-- The mention that a callee is. -/
def Node.mention (c : Context) : Node → Findings
  | .identifier name span => .mention ⟨.call, name, span, none, none⟩
  | .member (.identifier object _) property span _ =>
    .mention ⟨.memberCall, property, span, some object, none⟩
  | .member .this property span _ => .mention ⟨.memberCall, property, span, none, c.owner⟩
  | .member _ property span _ => .mention ⟨.memberCall, property, span, none, none⟩
  | _ => ([], [])

/-- The mention that the class of a construction is. -/
def Node.constructed : Node → Findings
  | .identifier name span => .mention ⟨.construct, name, span, none, none⟩
  | _ => ([], [])

mutual

/-- What a node declares and calls. -/
def Node.findings (c : Context) : Node → Findings
  | .identifier .. | .this => ([], [])
  | .member object _ _ others => object.findings c ++ findingsAll c others
  | .call callee arguments =>
    callee.findings c ++ findingsAll c arguments ++ callee.mention c
  | .construct callee arguments =>
    callee.findings c ++ findingsAll c arguments ++ callee.constructed
  | .declaration form name span parts =>
    let inner := findingsAll (c.inside form name) parts
    if form = .variable_ && c.inFunction then inner
    else ((⟨form, name, span, c.owner⟩ :: inner.1), inner.2)
  | .framed frame parts => findingsAll (c.within frame) parts

/-- What nodes declare and call. -/
def findingsAll (c : Context) : List Node → Findings
  | [] => ([], [])
  | n :: ns => n.findings c ++ findingsAll c ns

end

/-- The kind of symbol that a declaration is. -/
def Form.kind : Form → SymbolKind
  | .class_ | .abstractClass => .class_
  | .function | .generator => .function
  | .method => .method
  | .interface => .interface
  | .enum => .enum
  | .typeAlias => .typeAlias
  | .variable_ => .variable_

/-- What imports bind: names of modules, and names for modules. -/
structure Bindings where
  /-- The module and the exported name that a name stands for. -/
  names : Table String (String × String)
  namespaces : Table String String

/-- A module as it is written, without its quotes. -/
def Import.module (i : Import) : String :=
  String.ofList (Text.trimWhile (fun c => c = '\x27' || c = '"' || c = '\x60') i.source.toList)

/-- What the imports of a script bind; a later binding of a name counts. -/
def Bindings.ofImports (is : List Import) : Bindings :=
  is.foldl (fun b i =>
    { names := i.names.foldl (fun t n => t.insert n.1 (i.module, n.2)) b.names
      namespaces := i.namespaces.foldl (fun t n => t.insert n i.module) b.namespaces })
    ⟨.empty, .empty⟩

/-- The use that a mention is, given what imports bind. A module that is no relative path lies outside
of the project. -/
def Mention.toUse (file : String) (columns : ColumnMap) (b : Bindings) (m : Mention) : Use :=
  let hint : Option String × String :=
    match m.form with
    | .memberCall => (m.object.bind b.namespaces.find?, m.name)
    | _ =>
      match b.names.find? m.name with
      | some (module, exported) => (some module, exported)
      | none => (none, m.name)
  { file := file, range := m.span.toRange columns, name := hint.2, module := hint.1,
    container := m.container, declaration := none
    external := match hint.1 with
      | some module => module.toList.head? != some '.'
      | none => false }

/-- Puts items into the order of the starts of their ranges; items with one start keep their order. -/
def sortByStart {α : Type} (range : α → Range) (xs : List α) : List α :=
  xs.mergeSort fun a b => decide ((range a).start ≤ (range b).start)

/-- The forms of mentions in the order in which mentions with one start are listed. -/
def MentionForm.all : List MentionForm := [.call, .memberCall, .construct]

/-- The forms of declarations in the order in which declarations with one start are listed. -/
def Form.all : List Form :=
  [.class_, .abstractClass, .function, .generator, .method, .interface, .enum, .typeAlias, .variable_]

/-- Whether a span does not start behind another one. -/
def startsBefore (a b : Span) : Bool :=
  a.start.line < b.start.line || (a.start.line = b.start.line && a.start.column ≤ b.start.column)

/-- What a parsed script declares and uses. -/
def Program.extract (p : Program) (file : String) (columns : ColumnMap) : Extraction :=
  let (definitions, mentions) := findingsAll ⟨none, false⟩ p.body
  let bindings := Bindings.ofImports p.imports
  let declared := Form.all.flatMap fun f => definitions.filter fun d => d.form = f
  let listed := MentionForm.all.flatMap fun f =>
    (mentions.filter fun m => m.form = f).mergeSort fun a b => startsBefore a.span b.span
  { declarations := sortByStart Declaration.range (declared.map fun d =>
      ⟨d.name, d.form.kind, d.span.toRange columns, d.container⟩)
    uses := sortByStart Use.range (listed.map (Mention.toUse file columns bindings)) }

/-- What a script declares and uses, from its text. -/
def extract (d : Dialect) (file content : String) : Except ParseError Extraction :=
  match Program.parse? d content with
  | some p => .ok (p.extract file (ColumnMap.ofText content.toList))
  | none => .error ⟨file, some 1, "syntax error"⟩

end CodeAtlas.Script
