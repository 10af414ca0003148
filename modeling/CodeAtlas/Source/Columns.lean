import CodeAtlas.Source.Position
import CodeAtlas.Text.Lines

/-!
# From byte columns to character columns

Parsers report columns in bytes of UTF-8, while ranges count characters. `ColumnMap.column` turns
the first into the second: on an existing line the greatest number of characters that fit into the
given bytes. A line of ASCII characters needs no conversion, and a line that does not exist gets
none.
-/

namespace CodeAtlas

/-- The number of bytes of a text in UTF-8. -/
def Text.byteLength (cs : List Char) : Nat := cs.foldr (fun c n => c.utf8Size + n) 0

/-- How many leading characters fit into `budget` bytes. -/
def Text.charsWithin : List Char → Nat → Nat
  | [], _ => 0
  | c :: cs, budget =>
    if c.utf8Size ≤ budget then charsWithin cs (budget - c.utf8Size) + 1 else 0

/-- Whether every character is ASCII. -/
def Text.isAscii (cs : List Char) : Bool := cs.all fun c => c.toNat < 128

/-- The lines of a file, without their terminators. -/
structure ColumnMap where
  lines : Array (List Char)

namespace ColumnMap

/-- The map of a text. -/
def ofText (content : List Char) : ColumnMap := ⟨((Text.lines content).map Text.lineText).toArray⟩

/-- The character column of a byte column; a negative one counts back from the end of the line. -/
def column (m : ColumnMap) (line byteColumn : Int) : Int :=
  if line < 0 then byteColumn
  else match m.lines[line.toNat]? with
    | none => byteColumn
    | some text =>
      if Text.isAscii text then byteColumn
      else if byteColumn < 0 then
        Text.charsWithin text (byteColumn + Text.byteLength text).toNat
      else Text.charsWithin text byteColumn.toNat

/-- The range of a span given in lines and byte columns. -/
def range (m : ColumnMap) (startLine startByte endLine endByte : Nat) : Range :=
  ⟨⟨startLine, m.column startLine startByte⟩, ⟨endLine, m.column endLine endByte⟩⟩

end ColumnMap
end CodeAtlas
