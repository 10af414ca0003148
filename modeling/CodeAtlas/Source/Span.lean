import CodeAtlas.Source.Columns

/-!
# Places and spans

Parsers tell places by line, counted from one, and by byte column, counted from zero; only a line
feed ends a line for them. `Span.toRange` turns such a span into a range with character columns.
-/

namespace CodeAtlas

/-- A place in a source: a line, from one, and a byte column in it, from zero. -/
structure Place where
  line : Nat
  column : Nat
deriving DecidableEq, Repr, Inhabited

/-- The place after a character. -/
def Place.after (p : Place) (c : Char) : Place :=
  if c = '\n' then ⟨p.line + 1, 0⟩ else ⟨p.line, p.column + c.utf8Size⟩

/-- The place after a run of characters. -/
def Place.afterAll (p : Place) (cs : List Char) : Place := cs.foldl Place.after p

/-- The stretch of a source from `start` to `stop`. -/
structure Span where
  start : Place
  stop : Place
deriving DecidableEq, Repr, Inhabited

/-- The range of a span, with columns in characters. -/
def Span.toRange (columns : ColumnMap) (s : Span) : Range :=
  columns.range (s.start.line - 1) s.start.column (s.stop.line - 1) s.stop.column

end CodeAtlas
