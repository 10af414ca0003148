/-!
# Values of data formats

What a document in a data format says: the same type serves for JSON and for configuration files.
The fields of a mapping have distinct names and keep their order.
-/

namespace CodeAtlas

/-- A value of a data format. -/
inductive Value
  | null
  | bool (b : Bool)
  | int (i : Int)
  | real (x : Float)
  | text (s : String)
  | list (items : List Value)
  | mapping (fields : List (String × Value))
  | bytes (bs : List UInt8)
  | set (items : List Value)
  /-- A value of another type, such as a date. -/
  | other (kind : String)
deriving Inhabited

namespace Value

/-- Puts a field into a mapping; a field that is there already keeps its place. -/
def setField (name : String) (v : Value) : List (String × Value) → List (String × Value)
  | [] => [(name, v)]
  | f :: fs => if f.1 = name then (name, v) :: fs else f :: setField name v fs

/-- The mapping with the given fields; of two fields with one name the last one counts. -/
def ofFields (fields : List (String × Value)) : Value :=
  mapping (fields.foldl (fun fs f => setField f.1 f.2 fs) [])

/-- What the type of a value is called. -/
def typeName : Value → String
  | null => "NoneType"
  | bool _ => "bool"
  | int _ => "int"
  | real _ => "float"
  | text _ => "str"
  | list _ => "list"
  | mapping _ => "dict"
  | bytes _ => "bytes"
  | set _ => "set"
  | other kind => kind

/-- The parts of a value: the elements of a list or a set, the characters of a text, the numbers of
bytes, the names of fields. -/
def parts? : Value → Option (List Value)
  | list items => some items
  | set items => some items
  | text s => some (s.toList.map fun c => text (String.singleton c))
  | bytes bs => some (bs.map fun b => int b.toNat)
  | mapping fields => some (fields.map fun f => text f.1)
  | _ => none

/-- The field of a mapping. -/
def field? (v : Value) (name : String) : Option Value :=
  match v with
  | mapping fields => fields.lookup name
  | _ => none

end Value
end CodeAtlas
