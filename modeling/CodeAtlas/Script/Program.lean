import CodeAtlas.Grammar.Parse
import CodeAtlas.Script.Language
import CodeAtlas.Script.Scanner

/-!
# Programs

`Program.parse?` reads a script according to the grammar of its language and takes from the tree what
declarations, uses and imports are made of.
-/

namespace CodeAtlas.Script

open Grammar (Tree)

/-- The places of all characters of a text, and of its end. -/
def placesFrom (p : Place) : List Char → List Place
  | [] => [p]
  | c :: cs => p :: placesFrom (p.after c) cs

/-- A text, with the place of each character. -/
structure Source where
  text : Array Char
  places : Array Place

namespace Source

/-- The source of a text. -/
def ofText (content : List Char) : Source :=
  ⟨content.toArray, (placesFrom ⟨1, 0⟩ content).toArray⟩

/-- What is written where a node is. -/
def written (s : Source) (t : Tree) : String :=
  String.ofList (s.text.extract t.start t.stop).toList

/-- Where a node is. -/
def span (s : Source) (t : Tree) : Span :=
  ⟨s.places.getD t.start ⟨1, 0⟩, s.places.getD t.stop ⟨1, 0⟩⟩

end Source

/-- What a node of the grammar declares, and the kinds of nodes that are names of it. -/
def declares : String → Option (Form × List String)
  | "classDeclaration" => some (.class_, ["identifier", "typeIdentifier"])
  | "abstractClassDeclaration" => some (.abstractClass, ["typeIdentifier"])
  | "functionDeclaration" => some (.function, ["identifier"])
  | "generatorFunctionDeclaration" => some (.generator, ["identifier"])
  | "methodDefinition" => some (.method, ["propertyIdentifier"])
  | "interfaceDeclaration" => some (.interface, ["typeIdentifier"])
  | "enumDeclaration" => some (.enum, ["identifier"])
  | "typeAliasDeclaration" => some (.typeAlias, ["typeIdentifier"])
  | "variableDeclarator" => some (.variable_, ["identifier"])
  | _ => none

/-- What a node that declares no name means for the nodes in it. -/
def Source.frame (s : Source) (t : Tree) : Frame :=
  match t.kind with
  | "class" | "classDeclaration" | "abstractClassDeclaration" =>
    .class_ ((t.inRole "name").head?.map s.written)
  | "functionExpression" | "arrowFunction" | "functionDeclaration"
  | "generatorFunctionDeclaration" | "methodDefinition" => .function
  | _ => .phrase

mutual

/-- The node of a script that a node of the grammar is. -/
def Source.node (s : Source) : Tree → Node
  | .node kind role start stop children =>
    let t : Tree := .node kind role start stop children
    let parts := s.nodes children
    let having (r : String) : Option (Tree × Node) :=
      (children.zip parts).find? fun c => c.1.role = some r
    let others (r : String) : List Node :=
      ((children.zip parts).eraseP fun c => c.1.role = some r).map Prod.snd
    let leaf (n : Node) : Node := if parts.isEmpty then n else .phrase parts
    match kind with
    | "identifier" => leaf (.identifier (s.written t) (s.span t))
    | "this" => leaf .this
    | "memberExpression" =>
      match having "object", having "property" with
      | some (_, object), some (property, _) =>
        if property.kind = "propertyIdentifier" then
          .member object (s.written property) (s.span t) (others "object")
        else .phrase parts
      | _, _ => .phrase parts
    | "callExpression" =>
      match having "function" with
      | some (_, callee) => .call callee (others "function")
      | none => .phrase parts
    | "newExpression" =>
      match having "constructor" with
      | some (_, callee) => .construct callee (others "constructor")
      | none => .phrase parts
    | _ =>
      let name := (declares kind).bind fun d =>
        ((t.inRole "name").find? fun c => d.2.contains c.kind).map fun c => (d.1, s.written c)
      match name with
      | some (form, name) => .declaration form name (s.span t) parts
      | none => .framed (s.frame t) parts

/-- The nodes of a script that nodes of the grammar are. -/
def Source.nodes (s : Source) : List Tree → List Node
  | [] => []
  | t :: ts => s.node t :: s.nodes ts

end

/-- The children of a kind. -/
def ofKind (kind : String) (ts : List Tree) : List Tree := ts.filter fun t => t.kind = kind

/-- The imports that a statement of a script is made of: none, unless it names a module. -/
def Source.import? (s : Source) (t : Tree) : Option Import :=
  if t.kind ≠ "importStatement" then none
  else (t.inRole "source").head?.map fun source =>
    let clauses := (ofKind "importClause" t.children).flatMap Tree.children
    { source := s.written source
      names := clauses.flatMap fun c =>
        match c.kind with
        | "identifier" => [(s.written c, s.written c)]
        | "namedImports" =>
          (ofKind "importSpecifier" c.children).filterMap fun i =>
            (i.inRole "name").head?.map fun name =>
              (s.written ((i.inRole "alias").head?.getD name), s.written name)
        | _ => []
      namespaces := (ofKind "namespaceImport" clauses).flatMap fun c =>
        (ofKind "identifier" c.children).map s.written }

/-- The program that a tree of the grammar is. -/
def Source.program (s : Source) (root : Tree) : Program :=
  { imports := root.children.filterMap s.import?
    body := s.nodes root.children }

/-- The program that a text is in some language, if it is one. -/
def Program.parse? (d : Dialect) (content : String) : Option Program :=
  let source := Source.ofText content.toList
  (Grammar.parse? d.table (Scanner.scan d.typed) source.text).map source.program

end CodeAtlas.Script
