import CodeAtlas.Document.Kind
import CodeAtlas.Document.Lexer

/-!
# The nodes of a document

The tokens of a document are read into nodes: scalars, sequences and mappings. A node may be named by
an anchor, once, and is referred to by its name from there on, also from inside. So nodes refer to
each other by numbers, which are given in the order in which nodes start.
-/

namespace CodeAtlas.Document

/-- What a node holds; other nodes are given by their numbers. -/
inductive Content
  | scalar (text : String)
  | sequence (items : List Nat)
  | mapping (fields : List (Nat × Nat))
deriving DecidableEq, Repr

/-- A node of a document. -/
structure Node where
  kind : Kind
  content : Content
deriving DecidableEq, Repr

/-- What a node is marked as. -/
inductive Tag
  /-- Nothing: its own form decides. -/
  | unmarked
  /-- Nothing, but a scalar that is not plain is taken as if it were. -/
  | bare
  | named (name : String)
deriving DecidableEq, Repr

namespace Tag

/-- The tag of a name that is written out. -/
def ofName (name : String) : Tag := if name = "!" then bare else named name

/-- The kind of a scalar. -/
def scalarKind (tag : Tag) (plain : Bool) (text : String) : Kind :=
  match tag with
  | named name => .ofName name
  | bare => .ofForm text
  | unmarked => if plain then .ofForm text else .text

/-- The kind of a collection that is `kind` if nothing else is said. -/
def collectionKind (tag : Tag) (kind : Kind) : Kind :=
  match tag with
  | named name => .ofName name
  | _ => kind

end Tag

/-- The handles that need no directive. -/
def standardHandles : List (String × String) := [("!", "!"), ("!!", "tag:yaml.org,2002:")]

/-- A reading of nodes that is under way. -/
structure Composer where
  tokens : List Token
  /-- What is wrong behind the tokens. -/
  trouble : Option Trouble
  /-- What the handles of tags stand for. -/
  handles : List (String × String) := standardHandles
  nodes : Array Node := #[]
  /-- The nodes that have names. -/
  named : List (String × Nat) := []

/-- A step of reading nodes. -/
abbrev Compose := StateT Composer (Except Trouble)

namespace Compose

/-- The next token; none at the end. Whatever is wrong behind the tokens is met here. -/
def peek : Compose (Option Token) := fun c =>
  match c.tokens, c.trouble with
  | t :: _, _ => .ok (some t, c)
  | [], none => .ok (none, c)
  | [], some t => .error t

/-- Moves on behind the next token. -/
def skip : Compose Unit := modify fun c => { c with tokens := c.tokens.drop 1 }

/-- The next token is not what it must be. -/
def malformed {α : Type} : Compose α := throw .malformed

/-- Gives a number to a node. -/
def add (n : Node) : Compose Nat :=
  modifyGet fun c => (c.nodes.size, { c with nodes := c.nodes.push n })

/-- Adds the empty plain scalar, which stands where a node is left out. -/
def absent : Compose Nat := add ⟨.null, .scalar ""⟩

/-- Puts content into a node. -/
def fill (id : Nat) (content : Content) : Compose Nat := do
  modify fun c => { c with nodes := c.nodes.modify id fun n => { n with content := content } }
  return id

/-- Takes an anchor. -/
def takeAnchor : Compose (Option String) := do
  match ← peek with
  | some (.anchor name) =>
    skip
    return some name
  | _ => return none

/-- Takes a tag. -/
def takeTag : Compose (Option TagMark) := do
  match ← peek with
  | some (.tag t) =>
    skip
    return some t
  | _ => return none

/-- What a tag stands for. -/
def resolveTag : Option TagMark → Compose Tag
  | none => return .unmarked
  | some ⟨none, text⟩ => return .ofName text
  | some ⟨some handle, text⟩ => do
    match (← get).handles.lookup handle with
    | some start => return .ofName (start ++ text)
    | none => malformed

/-- Adds a node under a name, which no other node may have. -/
def addNamed (name : Option String) (n : Node) : Compose Nat := do
  let id ← add n
  match name with
  | none => return id
  | some name =>
    if ((← get).named.lookup name).isSome then malformed
    modify fun c => { c with named := (name, id) :: c.named }
    return id

/-- The node with a name. -/
def follow (name : String) : Compose Nat := do
  match (← get).named.lookup name with
  | some id => return id
  | none => malformed

/-- Whether the next token is one of some. -/
def isAt (ts : List Token) : Compose Bool := do
  match ← peek with
  | some t => return ts.contains t
  | none => return false

/-- Takes the separator in front of all but the first entry. -/
def takeSeparator (first : Bool) : Compose Unit := do
  if !first then
    if ← isAt [.separator] then skip else malformed

mutual

/-- Reads a node. Collections by indentation are read if `block` says so; `loose` ones need not be
indented further than the mapping around them. -/
def node (block loose : Bool) : Nat → Compose Nat
  | 0 => malformed
  | fuel + 1 => do
    match ← peek with
    | some (.alias_ name) =>
      skip
      follow name
    | _ =>
      let early ← takeAnchor
      let mark ← takeTag
      let name ← if early.isNone then takeAnchor else pure early
      let tag ← resolveTag mark
      let sequence := addNamed name ⟨tag.collectionKind .list, .sequence []⟩
      let mapping := addNamed name ⟨tag.collectionKind .mapping, .mapping []⟩
      let leftOut : Compose Nat :=
        if name.isSome || mark.isSome then
          addNamed name ⟨tag.scalarKind true "", .scalar ""⟩
        else malformed
      match ← peek with
      | some (.scalar text plain) =>
        skip
        addNamed name ⟨tag.scalarKind plain text, .scalar text⟩
      | some .entry =>
        if loose then do
          let id ← sequence
          fill id (.sequence (← looseItems [] fuel))
        else leftOut
      | some .flowSequence => do
        let id ← sequence
        skip
        fill id (.sequence (← flowItems [] fuel))
      | some .flowMapping => do
        let id ← mapping
        skip
        fill id (.mapping (← flowFields [] fuel))
      | some .blockSequence =>
        if block then do
          let id ← sequence
          skip
          fill id (.sequence (← blockItems [] fuel))
        else leftOut
      | some .blockMapping =>
        if block then do
          let id ← mapping
          skip
          fill id (.mapping (← blockFields [] fuel))
        else leftOut
      | _ => leftOut

/-- Reads a node unless one of some tokens says that it is left out. -/
def nodeUnless (block loose : Bool) (ends : List Token) : Nat → Compose Nat
  | 0 => malformed
  | fuel + 1 => do
    if ← isAt ends then absent else node block loose fuel

/-- Reads what stands behind the sign of a value, if there is one. -/
def valueUnless (block loose : Bool) (ends : List Token) : Nat → Compose Nat
  | 0 => malformed
  | fuel + 1 => do
    if ← isAt [.value] then
      skip
      nodeUnless block loose ends fuel
    else absent

/-- Reads the entries of a sequence by indentation, behind some. -/
def blockItems (done : List Nat) : Nat → Compose (List Nat)
  | 0 => malformed
  | fuel + 1 => do
    match ← peek with
    | some .entry =>
      skip
      let item ← nodeUnless true false [.entry, .blockEnd] fuel
      blockItems (item :: done) fuel
    | some .blockEnd =>
      skip
      return done.reverse
    | _ => malformed

/-- Reads the entries of a sequence that is indented no further than the mapping around it. -/
def looseItems (done : List Nat) : Nat → Compose (List Nat)
  | 0 => malformed
  | fuel + 1 => do
    if ← isAt [.entry] then
      skip
      let item ← nodeUnless true false [.entry, .key, .value, .blockEnd] fuel
      looseItems (item :: done) fuel
    else return done.reverse

/-- Reads the fields of a mapping by indentation. -/
def blockFields (done : List (Nat × Nat)) : Nat → Compose (List (Nat × Nat))
  | 0 => malformed
  | fuel + 1 => do
    match ← peek with
    | some .key =>
      skip
      let name ← nodeUnless true true [.key, .value, .blockEnd] fuel
      let content ← valueUnless true true [.key, .value, .blockEnd] fuel
      blockFields ((name, content) :: done) fuel
    | some .blockEnd =>
      skip
      return done.reverse
    | _ => malformed

/-- Reads the entries of a sequence in brackets; one with a key is a mapping of one field. -/
def flowItems (done : List Nat) : Nat → Compose (List Nat)
  | 0 => malformed
  | fuel + 1 => do
    if !(← isAt [.flowSequenceEnd]) then takeSeparator done.isEmpty
    match ← peek with
    | some .flowSequenceEnd =>
      skip
      return done.reverse
    | some .key =>
      let id ← add ⟨.mapping, .mapping []⟩
      skip
      let name ← nodeUnless false false [.value, .separator, .flowSequenceEnd] fuel
      let content ← valueUnless false false [.separator, .flowSequenceEnd] fuel
      let item ← fill id (.mapping [(name, content)])
      flowItems (item :: done) fuel
    | _ =>
      let item ← node false false fuel
      flowItems (item :: done) fuel

/-- Reads the fields of a mapping in brackets. -/
def flowFields (done : List (Nat × Nat)) : Nat → Compose (List (Nat × Nat))
  | 0 => malformed
  | fuel + 1 => do
    if !(← isAt [.flowMappingEnd]) then takeSeparator done.isEmpty
    match ← peek with
    | some .flowMappingEnd =>
      skip
      return done.reverse
    | some .key =>
      skip
      let name ← nodeUnless false false [.value, .separator, .flowMappingEnd] fuel
      let content ← valueUnless false false [.separator, .flowMappingEnd] fuel
      flowFields ((name, content) :: done) fuel
    | _ =>
      let name ← node false false fuel
      let _ ← peek
      let content ← absent
      flowFields ((name, content) :: done) fuel

end

/-- Whether the directive gives the version of the format. -/
def isVersion : Directive → Bool
  | .version _ => true
  | _ => false

/-- The handles that directives give, and what they stand for. -/
def handlesOf (ds : List Directive) : List (String × String) :=
  ds.filterMap fun
    | .tag handle start => some (handle, start)
    | _ => none

/-- Whether a directive contradicts those before it, or asks for another format. -/
def clashes (seen : List Directive) : Directive → Bool
  | .version major => major ≠ 1 || seen.any isVersion
  | .tag handle _ => (handlesOf seen).any fun h => h.1 = handle
  | .other => false

/-- Takes the directives in front of a document, behind some. -/
def takeDirectives (seen : List Directive) : Nat → Compose (List Directive)
  | 0 => malformed
  | fuel + 1 => do
    match ← peek with
    | some (.directive d) =>
      skip
      if clashes seen d then malformed
      takeDirectives (seen ++ [d]) fuel
    | _ => return seen

/-- Takes the ends of documents that follow. -/
def takeEnds : Nat → Compose Unit
  | 0 => malformed
  | fuel + 1 => do
    if ← isAt [.documentEnd] then
      skip
      takeEnds fuel

/-- Checks that no other document follows. -/
def finish (fuel : Nat) : Compose Unit := do
  takeEnds fuel
  if (← peek).isSome then
    let _ ← takeDirectives [] fuel
    let _ ← peek
    malformed

/-- Reads a document behind its directives and the mark of its start. -/
def content (fuel : Nat) : Compose Nat := do
  match ← peek with
  | none | some (.directive _) | some .documentStart | some .documentEnd => absent
  | _ => node true false fuel

/-- Reads a document: its node, if it has one. -/
def document (fuel : Nat) : Compose (Option Nat) := do
  let root ← match ← peek with
    | none => return none
    | some (.directive _) | some .documentStart =>
      let ds ← takeDirectives [] fuel
      if !(← isAt [.documentStart]) then malformed
      skip
      modify fun c => { c with handles := handlesOf ds ++ standardHandles }
      content fuel
    | _ => node true false fuel
  finish fuel
  return some root

end Compose

/-- The nodes of a document, and which of them is the document, if it has any. -/
structure Graph where
  root : Option Nat
  nodes : Array Node

/-- Reads the nodes of a document. -/
def Graph.ofText (text : List Char) : Except Trouble Graph := do
  let ts := Tokens.ofText text
  let (root, c) ← Compose.document (4 * ts.front.length + 8)
    { tokens := ts.front, trouble := ts.trouble }
  return ⟨root, c.nodes⟩

end CodeAtlas.Document
