import CodeAtlas.Error
import CodeAtlas.Index.Symbol

/-!
# Ranking by similarity

The similarity of two vectors is the cosine of the angle between them, computed in floating point
with plain sums from left to right; a vector without length is similar to nothing. `rank` keeps the
candidates that are similar enough to a query, the most similar ones first and equally similar ones
in their given order.
-/

namespace CodeAtlas

/-- The sum of the products of paired components, from left to right. -/
def dotProduct (a b : Embedding) : Float := (List.zipWith (· * ·) a b).foldl (· + ·) 0.0

/-- The length of a vector. -/
def magnitude (a : Embedding) : Float := (dotProduct a a).sqrt

/-- The cosine of the angle between two vectors of one dimension. -/
def cosine (a b : Embedding) : Except Error Float :=
  if a.length ≠ b.length then .error (.dimensionMismatch a.length b.length)
  else
    let m := magnitude a
    let n := magnitude b
    if m == 0.0 || n == 0.0 then .ok 0.0 else .ok (dotProduct a b / (m * n))

/-- A file, or a symbol in it, and how similar it is to a query. -/
structure Hit where
  file : String
  symbol : Option Symbol
  score : Float
deriving Inhabited

/-- What the hit is called. -/
def Hit.label (h : Hit) : String :=
  match h.symbol with
  | some s => h.file ++ "::" ++ s.qualifiedName
  | none => h.file

/-- A file, or a symbol in it, and its vector. -/
structure Candidate where
  file : String
  symbol : Option Symbol
  vector : Embedding

/-- The candidate as a hit, if its vector can be compared to the query and is similar enough. -/
def Candidate.hit? (query : Embedding) (minSimilarity : Float) (c : Candidate) : Option Hit :=
  match cosine query c.vector with
  | .ok score => if minSimilarity ≤ score then some ⟨c.file, c.symbol, score⟩ else none
  | .error _ => none

/-- The `limit` best hits, the best ones first. -/
def rank (query : Embedding) (candidates : List Candidate) (limit : Int) (minSimilarity : Float) :
    List Hit :=
  ((candidates.filterMap (Candidate.hit? query minSimilarity)).mergeSort
    fun a b => decide (b.score ≤ a.score)).take limit.toNat

end CodeAtlas
