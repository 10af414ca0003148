import CodeAtlas.Source.Span

/-!
# Tokens of an indented source

In an indented source the layout is part of the grammar: a line that stands deeper than the one
before opens a block, and a shallower one closes blocks. Tokens therefore include `newline`,
`indent` and `dedent`. Places count lines from one and columns in bytes from zero.
-/

namespace CodeAtlas.Offside

/-- What a token is. -/
inductive TokenKind
  /-- An identifier. -/
  | word
  /-- A word that cannot be used as a name. -/
  | keyword
  | number
  /-- A string literal, with its prefix and quotes. -/
  | text
  /-- An operator or a delimiter. -/
  | mark
  | newline
  | indent
  | dedent
  /-- The end of the source. -/
  | finish
  /-- The source cannot be read beyond this place. -/
  | fault
deriving DecidableEq, Repr, Inhabited

/-- A token with the places where it starts and stops. -/
structure Token where
  kind : TokenKind
  text : String
  /-- The number of brackets that are open behind the token. -/
  level : Nat
  start : Place
  stop : Place
deriving Repr, Inhabited

/-- Whether the token stands for layout and not for characters of the source. -/
def Token.isLayout (t : Token) : Bool :=
  match t.kind with
  | .newline | .indent | .dedent | .finish | .fault => true
  | _ => false

/-- Why a source cannot be read to its end. -/
inductive Fault
  /-- A token is malformed. This is reported even if the grammar is violated earlier. -/
  | malformed (line : Nat)
  /-- The layout is wrong or the source ends too early. This is reported where the grammar gets that
  far; `openLine` is the line of the innermost bracket that is open there. -/
  | layout (line : Nat) (openLine : Option Nat)
deriving DecidableEq, Repr

/-- The tokens of a source, the last of which is `finish` or `fault`. -/
structure TokenList where
  tokens : List Token
  fault : Option Fault

/-- Words that cannot be used as names. -/
def keywords : List String :=
  ["False", "None", "True", "and", "as", "assert", "async", "await", "break", "class", "continue",
   "def", "del", "elif", "else", "except", "finally", "for", "from", "global", "if", "import", "in",
   "is", "lambda", "nonlocal", "not", "or", "pass", "raise", "return", "try", "while", "with",
   "yield"]

end CodeAtlas.Offside
