import CodeAtlas.Data.Value
import CodeAtlas.Document.Node
import CodeAtlas.Document.Numeral
import CodeAtlas.Text.Base64

/-!
# The value of a document

Scalars have their values at once; collections are gone through in the order in which they are met,
those around before those inside. A mapping takes over the fields of others under the key `<<`; its
own fields count more. Where a scalar is asked for, a mapping stands for what it has under the key
`=`.
-/

namespace CodeAtlas.Document

/-- Whether nodes of this kind hold others. -/
def Kind.isCollection : Kind → Bool
  | list | mapping | set | pairs => true
  | _ => false

/-- Values of nodes that are being found. -/
structure Builder where
  nodes : Array Node
  /-- The values of scalars that were met. -/
  values : Array (Option Value)
  /-- The nodes that were met. -/
  met : Array Bool
  /-- The collections that were met but not gone through, the last one first. -/
  waiting : List Nat := []

/-- A step of finding values. -/
abbrev Build := StateT Builder (Except Trouble)

namespace Build

/-- The document does not follow the format. -/
def malformed {α : Type} : Build α := throw .malformed

/-- The node with a number. -/
def node (id : Nat) : Build Node := do
  match (← get).nodes[id]? with
  | some n => return n
  | none => malformed

/-- The items of a sequence. -/
def items (id : Nat) : Build (List Nat) := do
  match (← node id).content with
  | .sequence items => return items
  | _ => malformed

/-- The fields of a mapping. -/
def fields (id : Nat) : Build (List (Nat × Nat)) := do
  match (← node id).content with
  | .mapping fields => return fields
  | _ => malformed

/-- Changes a node. -/
def alter (id : Nat) (f : Node → Node) : Build Unit :=
  modify fun b => { b with nodes := b.nodes.modify id f }

/-! ## Scalars -/

/-- The text of a scalar, or of what stands for a mapping. -/
def scalarText (id : Nat) : Nat → Build String
  | 0 => malformed
  | fuel + 1 => do
    match (← node id).content with
    | .scalar text => return text
    | .sequence _ => malformed
    | .mapping fields =>
      match ← fields.findM? fun f => return (← node f.1).kind == .default with
      | some f => scalarText f.2 fuel
      | none => malformed

/-- The value of a scalar. -/
def scalarValue (kind : Kind) (text : String) : Except Trouble Value :=
  match kind with
  | .null => .ok .null
  | .bool =>
    let word := String.ofList (Text.lower text.toList)
    match Kind.truthWords.lookup word with
    | some b => .ok (.bool b)
    | none => .error (.unknownWord word)
  | .int => (readInt text).map Value.int
  | .real => (readReal text).map Value.real
  | .text => .ok (.text text)
  | .bytes =>
    if text.toList.all fun c => c.toNat < 128 then
      match Text.Base64.decode? text.toList with
      | some bs => .ok (.bytes bs)
      | none => .error .malformed
    else .error .malformed
  | .time => match Moment.ofText? (Kind.withoutBreak text).toList with
    | some m => m.check.map Value.other
    | none => .error .badTime
  | _ => .error .malformed

/-- Finds the value of a scalar. A mapping has no form of a time. -/
def scalar (id : Nat) (n : Node) : Build Value := do
  let text ← scalarText id ((← get).nodes.size + 1)
  match n.kind, n.content with
  | .time, .mapping _ => throw .timeOfMapping
  | kind, _ => scalarValue kind text

/-! ## Collections -/

/-- Meets a node: a scalar gets its value, and a collection has to wait. -/
def meet (id : Nat) : Build Unit := do
  if !((← get).met[id]?.getD true) then
    let n ← node id
    modify fun b => { b with met := b.met.set! id true }
    if n.kind.isCollection then modify fun b => { b with waiting := id :: b.waiting }
    else
      let v ← scalar id n
      modify fun b => { b with values := b.values.set! id (some v) }

/-- The fields that a node gives to a mapping that takes it over, `flatten` being applied to
mappings before: those of a mapping, or those of the mappings in a sequence, the last one first. -/
def taken (flatten : Nat → Build Unit) (id : Nat) : Build (List (Nat × Nat)) := do
  match (← node id).content with
  | .mapping _ =>
    flatten id
    fields id
  | .sequence items =>
    let parts ← items.mapM fun item => do
      let _ ← fields item
      flatten item
      fields item
    return parts.reverse.flatten
  | .scalar _ => malformed

/-- Goes through the rest of the fields of a mapping, behind those that are `done`, with fields in
front that it takes over. A mapping may take over itself; then it has been gone through. -/
def flattenFrom (flatten : Nat → Build Unit) (id : Nat) (merged done : List (Nat × Nat)) :
    List (Nat × Nat) → Build Unit
  | [] => alter id fun n => { n with content := .mapping (merged ++ done.reverse) }
  | f :: rest => do
    match (← node f.1).kind with
    | .merge =>
      let left := done.reverse ++ rest
      alter id fun n => { n with content := .mapping left }
      let more ← taken flatten f.2
      let now ← fields id
      if now = left then flattenFrom flatten id (merged ++ more) done rest
      else alter id fun n => { n with content := .mapping (merged ++ more ++ now) }
    | .default =>
      alter f.1 fun n => { n with kind := .text }
      flattenFrom flatten id merged (f :: done) rest
    | _ => flattenFrom flatten id merged (f :: done) rest

/-- Puts the fields that a mapping takes over in front of its own. The key of a default value is a
text here. -/
def flatten : Nat → Nat → Build Unit
  | 0, _ => malformed
  | depth + 1, id => do flattenFrom (flatten depth) id [] [] (← fields id)

/-- How many fields all mappings have. -/
def fieldCount : Build Nat := do
  return (← get).nodes.foldl (fun n x => match x.content with
    | .mapping fields => n + fields.length
    | _ => n) 0

/-- Goes through a collection. A key must not be a collection. -/
def enter (id : Nat) : Build Unit := do
  match (← node id).kind with
  | .list => (← items id).forM meet
  | .pairs => (← items id).forM fun item => do
    match ← fields item with
    | [(key, value)] =>
      meet key
      meet value
    | _ => malformed
  | _ =>
    let _ ← fields id
    flatten ((← fieldCount) + 1) id
    (← fields id).forM fun (key, value) => do
      meet key
      if (← node key).kind.isCollection then malformed
      meet value

/-- Goes through all collections that wait, and those that are met then. -/
def enterAll : Nat → Build Unit
  | 0 => return
  | fuel + 1 => do
    match (← get).waiting.reverse with
    | [] => return
    | ids =>
      modify fun b => { b with waiting := [] }
      ids.forM enter
      enterAll fuel

end Build

/-! ## Values -/

/-- Whether two values cannot both be in a set. -/
def sameElement : Value → Value → Bool
  | .null, .null => true
  | .text s, .text t => s = t
  | .bytes s, .bytes t => s = t
  | .int i, .int j => i = j
  | .real x, .real y => x == y
  | .bool a, .bool b => a = b
  | _, _ => false

/-- The elements of a set, each once. -/
def distinct (vs : List Value) : List Value :=
  (vs.foldl (fun done v => if done.any (sameElement v) then done else v :: done) []).reverse

/-- The value of a scalar; collections are taken as empty. -/
def Builder.flatValue (b : Builder) (id : Nat) : Value :=
  match (b.nodes[id]?).map Node.kind with
  | some .list | some .pairs => .list []
  | some .mapping => .mapping []
  | some .set => .set []
  | _ => (b.values[id]?.join).getD .null

/-- The value of a node down to a depth; collections further inside are taken as empty. -/
def Builder.value (b : Builder) : Nat → Nat → Value
  | 0, id => b.flatValue id
  | depth + 1, id =>
    match b.nodes[id]? with
    | some ⟨.list, .sequence items⟩ => .list (items.map (b.value depth))
    | some ⟨.pairs, .sequence items⟩ => .list (items.map fun _ => .other "tuple")
    | some ⟨.mapping, .mapping fields⟩ =>
      .ofFields (fields.filterMap fun (key, value) =>
        match b.flatValue key with
        | .text name => some (name, b.value depth value)
        | _ => none)
    | some ⟨.set, .mapping fields⟩ => .set (distinct (fields.map fun f => b.flatValue f.1))
    | _ => b.flatValue id

/-- The depth to which the values of a document are shown. -/
def depthLimit : Nat := 5

/-- Reads a document and gives its value; a document without a node has none. -/
def load (text : String) : Except Trouble Value := do
  let g ← Graph.ofText text.toList
  match g.root with
  | none => return .null
  | some root =>
    let start : Builder :=
      { nodes := g.nodes
        values := g.nodes.map fun _ => none
        met := g.nodes.map fun _ => false }
    let ((), b) ← (do Build.meet root; Build.enterAll (g.nodes.size + 1) : Build Unit) start
    return b.value depthLimit root

end CodeAtlas.Document
