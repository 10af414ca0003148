import CodeAtlas.Error
import CodeAtlas.Text.Split

/-!
# Ignore patterns

A pattern is split at slashes into segments. A pattern without a slash, or with one only at its end,
may match anywhere below the root; any other one matches from the root on. The segment `**` stands
for any directories, also none; in other segments `*`, `?` and `[…]` stand for characters. A
pattern that ends in a slash matches what lies in a directory, and any other one both a file or
directory and what lies in it, unless it ends in the segment `*`. A leading `!` makes a pattern take
back what earlier ones matched.

A pattern is read into `Piece`s, which a path is matched against from its start. The path of a
directory ends in a slash.
-/

namespace CodeAtlas

/-- What a part of a pattern matches. -/
inductive Piece
  /-- This character. -/
  | literal (c : Char)
  /-- A character that is no slash. -/
  | one
  /-- Any number of characters that are no slashes. -/
  | many
  /-- At least one character, none of them a slash. -/
  | segment
  /-- A character in one of the ranges, or in none of them if negated. -/
  | class_ (negated : Bool) (ranges : List (Char × Char))
  /-- Nothing, or leading directories with a slash behind them. -/
  | leading
  /-- Nothing, or directories with a slash in front of them. -/
  | inner
  /-- The end, or a slash. -/
  | boundary
  /-- The end, with or without a slash. -/
  | finish
deriving DecidableEq, Repr

namespace Piece

/-- Whether a text is at its end, where a single line feed may still follow. -/
def atEnd (cs : List Char) : Bool := cs = [] || cs = ['\n']

/-- What is left of a text once a run of matching characters is taken off its front, in all ways. -/
def afterRun (p : Char → Bool) : List Char → List (List Char)
  | [] => [[]]
  | c :: cs => if p c then (c :: cs) :: afterRun p cs else [c :: cs]

/-- What is left of a text once at least one matching character is taken off its front. -/
def afterSome (p : Char → Bool) : List Char → List (List Char)
  | [] => []
  | c :: cs => if p c then afterRun p cs else []

/-- What is left of a text once a slash is taken off its front. -/
def afterSlash : List Char → List (List Char)
  | '/' :: cs => [cs]
  | _ => []

/-- What may be left of a text once a piece has matched its front. -/
def rests : Piece → List Char → List (List Char)
  | literal c, cs => match cs with
    | d :: ds => if d = c then [ds] else []
    | [] => []
  | one, cs => match cs with
    | d :: ds => if d ≠ '/' then [ds] else []
    | [] => []
  | many, cs => afterRun (· ≠ '/') cs
  | segment, cs => afterSome (· ≠ '/') cs
  | class_ negated ranges, cs => match cs with
    | d :: ds => if (ranges.any fun r => r.1 ≤ d && d ≤ r.2) != negated then [ds] else []
    | [] => []
  | leading, cs => cs :: (afterSome (· ≠ '\n') cs).flatMap afterSlash
  | inner, cs => cs :: (afterSlash cs).flatMap (afterSome (· ≠ '\n'))
  | boundary, cs => afterSlash cs ++ if atEnd cs then [cs] else []
  | finish, cs => (cs :: afterSlash cs).filter atEnd

/-- Whether pieces match the front of a text. -/
def matchFront (pieces : List Piece) (cs : List Char) : Bool :=
  !(pieces.foldl (fun found p => (found.flatMap p.rests).eraseDups) [cs]).isEmpty

end Piece

/-- What a pattern matches. -/
inductive PathSet
  /-- Every path with a character in it. -/
  | everything
  /-- Every path with a slash in it. -/
  | inDirectory
  | pieces (ps : List Piece)
deriving DecidableEq, Repr

/-- Whether the set holds a path. -/
def PathSet.contains : PathSet → List Char → Bool
  | everything, path => path.any (· ≠ '\n')
  | inDirectory, path => path.contains '/'
  | pieces ps, path => Piece.matchFront ps path

/-- A pattern: what it matches, and whether it takes matches back. -/
structure Pattern where
  negated : Bool
  paths : PathSet
deriving DecidableEq, Repr

namespace Pattern

/-- The ranges of a class, from the inside of its brackets; a hyphen between two characters makes a
range of them. -/
def classRanges : List Char → List (Char × Char)
  | lo :: '-' :: hi :: cs => (lo, hi) :: classRanges cs
  | c :: cs => (c, c) :: classRanges cs
  | [] => []

/-- Splits a text behind an opening bracket into the inside of the brackets and what follows. The
first character inside may be a closing bracket. -/
def splitClass : List Char → Option (List Char × List Char)
  | ']' :: cs => (Text.cutFirst? ']' cs).map fun (inside, rest) => (']' :: inside, rest)
  | cs => Text.cutFirst? ']' cs

/-- Takes the sign of negation off the inside of a class. -/
def splitNegation : List Char → Bool × List Char
  | '!' :: cs => (true, cs)
  | '^' :: cs => (true, cs)
  | cs => (false, cs)

theorem length_of_cutFirst? {sep : Char} {cs a b : List Char}
    (h : Text.cutFirst? sep cs = some (a, b)) : b.length < cs.length := by
  induction cs generalizing a with
  | nil => simp [Text.cutFirst?] at h
  | cons c cs ih =>
    simp only [Text.cutFirst?] at h
    split at h
    · simp only [Option.some.injEq, Prod.mk.injEq] at h
      simp [← h.2]
    · simp only [Option.map_eq_some_iff, Prod.mk.injEq] at h
      obtain ⟨⟨x, y⟩, hxy, -, rfl⟩ := h
      exact Nat.lt_succ_of_lt (ih hxy)

theorem length_of_splitClass {cs a b : List Char} (h : splitClass cs = some (a, b)) :
    b.length < cs.length := by
  unfold splitClass at h
  split at h
  · simp only [Option.map_eq_some_iff, Prod.mk.injEq] at h
    obtain ⟨⟨x, y⟩, hxy, -, rfl⟩ := h
    exact Nat.lt_succ_of_lt (length_of_cutFirst? hxy)
  · exact length_of_cutFirst? h

theorem length_splitNegation (cs : List Char) : (splitNegation cs).2.length ≤ cs.length := by
  unfold splitNegation
  split <;> simp

/-- Reads a segment that is neither `*` nor `**`. An opening bracket without a closing one stands
for itself, and so does a character behind a backslash outside of brackets; there must be one. -/
def segmentPieces : List Char → Option (List Piece)
  | [] => some []
  | ['\\'] => none
  | '\\' :: c :: cs => (segmentPieces cs).map (.literal c :: ·)
  | '*' :: cs => (segmentPieces cs).map (.many :: ·)
  | '?' :: cs => (segmentPieces cs).map (.one :: ·)
  | '[' :: cs =>
    match h : splitClass (splitNegation cs).2 with
    | none => (segmentPieces cs).map (.literal '[' :: ·)
    | some (inside, rest) =>
      have : rest.length < cs.length + 1 := by
        have := length_of_splitClass h
        have := length_splitNegation cs
        omega
      (segmentPieces rest).map (.class_ (splitNegation cs).1 (classRanges inside) :: ·)
  | c :: cs => (segmentPieces cs).map (.literal c :: ·)
termination_by cs => cs.length

/-- The segment that stands for any directories. -/
def anyDirectories : List Char := ['*', '*']

/-- Drops a segment for any directories behind another one. -/
def collapse : List (List Char) → List (List Char)
  | a :: b :: rest =>
    if a = anyDirectories ∧ b = anyDirectories then collapse (b :: rest) else a :: collapse (b :: rest)
  | segments => segments

/-- The segments of a pattern, from the root on. -/
def normalSegments (segments : List (List Char)) : List (List Char) :=
  let fromRoot := match segments with
    | [] :: rest => rest
    | [s] => if s = anyDirectories then [s] else [anyDirectories, s]
    | [s, []] => if s = anyDirectories then [s, []] else [anyDirectories, s, []]
    | segments => segments
  let full := match fromRoot.getLast? with
    | some [] => fromRoot.dropLast ++ [anyDirectories]
    | _ => fromRoot
  collapse full

/-- The pieces of a segment that is not `**`. -/
def ownPieces (s : List Char) : Option (List Piece) :=
  if s = ['*'] then some [.segment] else segmentPieces s

/-- What follows the last segment, if it is not `**`. -/
def closing (s : List Char) : Piece := if s = ['*'] then .finish else .boundary

/-- The pieces of segments, with `before` in front of the first one that is not `**`. -/
def piecesFrom (before : List Piece) : List (List Char) → Option (List Piece)
  | [] => some []
  | [s] =>
    if s = anyDirectories then some [.literal '/']
    else (ownPieces s).map fun own => before ++ own ++ [closing s]
  | s :: rest => do
    let later ← piecesFrom [.literal '/'] rest
    if s = anyDirectories then return .inner :: later
    return before ++ (← ownPieces s) ++ later

/-- The pieces of a pattern's segments. -/
def pathPieces : List (List Char) → Option (List Piece)
  | [] => some []
  | s :: rest =>
    if s = anyDirectories then (piecesFrom [] rest).map (.leading :: ·)
    else piecesFrom [] (s :: rest)

/-- Whether no range of a class has its ends the wrong way round. -/
def isSound : Piece → Bool
  | .class_ _ ranges => ranges.all fun r => r.1 ≤ r.2
  | _ => true

/-- Reads a pattern. -/
def ofText (text : String) : Except Error Pattern :=
  let (negated, cs) := match text.toList with
    | '!' :: cs => (true, cs)
    | cs => (false, cs)
  let segments := normalSegments (Text.splitOn '/' cs)
  let forDirectory := cs.getLast? = some '/' && cs ≠ ['/']
  if segments = [] then .error (.badPattern text)
  else if segments = [anyDirectories] then
    .ok ⟨negated, if forDirectory then .inDirectory else .everything⟩
  else if segments = [anyDirectories, ['*']] then .ok ⟨negated, .everything⟩
  else if segments = [anyDirectories, ['*'], anyDirectories] then .ok ⟨negated, .inDirectory⟩
  else match pathPieces segments with
    | none => .error (.badPattern text)
    | some pieces =>
      if pieces.all isSound then .ok ⟨negated, .pieces pieces⟩ else .error .badClass

end Pattern
end CodeAtlas
