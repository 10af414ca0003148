import CodeAtlas.Offside.Tree

/-!
# Forms

A form says what may stand at a place of a token list and which parse trees that gives. Choices are
ordered: the first alternative that can be read is taken for good. Some forms describe mistakes.
They are tried only once it is known that the source is wrong, and a `Complaint` says which line
the mistake is on.

Forms that refer to themselves do so by way of a `Phrase`.
-/

namespace CodeAtlas.Offside

/-- The forms that others refer to by name. -/
inductive Phrase
  /-- A whole source. -/
  | source
  /-- The expression of a replacement field. -/
  | field
  | statement
  /-- A statement without a body. -/
  | simple
  | block
  /-- The further conditions of a condition. -/
  | elseIf
  | expression
  | starExpression
  | namedMistake
  | disjunction
  | conjunction
  | inversion
  | operation
  | factor
  | awaited
  | strings
  | arguments
  | starTarget
  /-- A target without a star. -/
  | target
  /-- The object of a target that is a member or a subscript. -/
  | targetOwner
  | singleTarget
  | deletionTarget
  | annotatedMistake
  | closedPattern
  | starPattern
deriving DecidableEq, Repr, Inhabited, Hashable

namespace Phrase

/-- The number of phrases. -/
def count : Nat := 25

/-- Whether what has been read as the phrase at a place is remembered. -/
def isRemembered : Phrase → Bool
  | simple | block | expression | starExpression | namedMistake | disjunction | conjunction
  | inversion | operation | factor | awaited | strings | arguments | starTarget | target
  | targetOwner | deletionTarget | closedPattern | starPattern => true
  | source | field | statement | elseIf | singleTarget | annotatedMistake => false

end Phrase

/-- What a number has to be. -/
inductive NumberPart
  | any
  | real
  | imaginary
deriving DecidableEq, Repr

/-- Where a mistake is, if it is one. -/
inductive Complaint
  /-- At the furthest token that has been looked at. -/
  | furthest
  /-- Where the first part starts. -/
  | first
  /-- Where the first part starts, unless a line break ends the statement in between. -/
  | missingComma
  /-- Where the first part starts, if that is a name that was a keyword once. -/
  | formerKeyword
  /-- Where the part of the first target is that cannot be one, if there is any. -/
  | misused (use : TargetUse)
  /-- Where the last positional argument starts, if there are several. -/
  | generator
deriving DecidableEq, Repr

/-- A form. -/
inductive Form
  /-- An operator or a delimiter, which gives no tree. -/
  | mark (m : String)
  /-- A keyword or another word, which gives no tree. -/
  | word (w : String)
  /-- A mark or a keyword that gives a leaf. -/
  | keep (m : String)
  | name
  /-- A name that a word with a meaning in some places starts with. -/
  | contextual
  | number (part : NumberPart)
  /-- Adjacent string literals. -/
  | texts
  /-- A token of a kind, which gives no tree. -/
  | kind (k : TokenKind)
  /-- Looks at the next token and takes none. -/
  | absent
  | call (p : Phrase)
  | all (fs : List Form)
  | any (fs : List Form)
  | opt (f : Form)
  | many (f : Form)
  | some (f : Form)
  | sepBy (f : Form) (separator : String)
  /-- A head, and any number of tails, each of which becomes a branch with what was read before as
  its first part. -/
  | suffixed (head tail : Form)
  | ahead (f : Form)
  | notAhead (f : Form)
  /-- Commits to the alternative: none behind it is tried in the innermost `bound`. -/
  | commit
  /-- A form on its own, beyond which a `commit` has no effect. -/
  | bound (f : Form)
  /-- A mark whose absence is a mistake. -/
  | forced (m : String)
  | branch (label : Label) (f : Form)
  /-- A branch if there are several parts. -/
  | chain (label : Label) (f : Form)
  /-- What gives no tree. -/
  | skip (f : Form)
  /-- A mistake, tried only in a source that is known to be wrong. -/
  | mistake (f : Form)
  /-- What is read as if mistakes were not tried. -/
  | trusting (f : Form)
  /-- A mistake that has been made where the form can be read. -/
  | complain (c : Complaint) (f : Form)
deriving Inhabited

namespace Form

/-- One of several marks. -/
def marks (ms : List String) : Form := any (ms.map mark)

/-- Items with commas between them and maybe one at the end. -/
def commaList (f : Form) : Form := all [sepBy f ",", opt (mark ",")]

/-- A mistake that is reported where its first part starts. -/
def complainFirst (fs : List Form) : Form := complain .first (all fs)

/-- A mistake that is reported at the furthest token. -/
def complainFurthest (fs : List Form) : Form := complain .furthest (all fs)

end Form
end CodeAtlas.Offside
