import CodeAtlas.Text.Blank
import CodeAtlas.Text.Cut
import CodeAtlas.Text.Split

/-!
# Truncated excerpts

A text that is too long is cut behind a line, so that a marker behind it still fits; if not even
the first line fits, it is cut inside of that line. Where there is no room for more than the marker,
the end of the marker stands for the text.
-/

namespace CodeAtlas.Context

/-- What a truncated text ends with. -/
def marker : List Char := "\n// ... content truncated ...".toList

/-- The longest run of leading lines, each with a line break behind it, that fits into `budget`
characters. -/
def wholeLines (budget : Nat) : List (List Char) → List Char
  | [] => []
  | l :: ls =>
    if l.length + 1 ≤ budget then l ++ '\n' :: wholeLines (budget - (l.length + 1)) ls else []

/-- Cuts a text to at most `limit` characters, the marker counted. -/
def truncateChars (content : List Char) (limit : Int) : List Char :=
  if (content.length : Int) ≤ limit then content
  else if limit ≤ marker.length then
    marker.drop (marker.length - limit.toNat)
  else
    let budget := limit.toNat - marker.length
    let kept := wholeLines budget (Text.splitOn '\n' content)
    Text.dropEndWhile (· = '\n') (if kept = [] then content.take budget else kept) ++ marker

/-- Cuts a text to at most `limit` characters, the marker counted. -/
def truncate (content : String) (limit : Int) : String :=
  String.ofList (truncateChars content.toList limit)

end CodeAtlas.Context
