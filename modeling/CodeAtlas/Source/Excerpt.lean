import CodeAtlas.Source.Position
import CodeAtlas.Text.Cut
import CodeAtlas.Text.Lines

/-!
# The text of a range

`excerpt content r` is the text that `r` covers, its last character excluded. Line numbers outside
the text are moved to its first or last line, and an end line before the start line to the start
line; characters cut a line as `cut` does.
-/

namespace CodeAtlas.Text

/-- The text of a range over given lines. -/
def excerptOfLines (ls : List (List Char)) (r : Range) : List Char :=
  let first := min r.start.line.toNat (ls.length - 1)
  let last := min (max r.stop.line first).toNat (ls.length - 1)
  let head := (ls[first]?).getD []
  if first = last then
    cut head r.start.character r.stop.character
  else
    cutFrom head r.start.character ++ ((ls.take last).drop (first + 1)).flatten ++
      cutTo ((ls[last]?).getD []) r.stop.character

/-- The text that a range covers, end character excluded. -/
def excerpt (content : String) (r : Range) : String :=
  String.ofList (excerptOfLines (lines content.toList) r)

end CodeAtlas.Text
