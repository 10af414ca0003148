import CodeAtlas.Grammar.Rule

/-!
# Tokens of scripts

Names, numbers, comments, and the pieces of strings, templates, regular expressions and markup.
-/

namespace CodeAtlas.Script.Rules

open Grammar

/-- Blanks of one byte. -/
def asciiBlank : CharSet := .ofRanges [('\t', '\r'), (' ', ' ')]

/-- Characters that are blank though they are no ASCII characters, and such that have no width. -/
def wideBlank : CharSet :=
  .ofRanges [('\xa0', '\xa0'), ('\u1680', '\u1680'), ('\u2000', '\u200b'), ('\u2028', '\u2029'),
    ('\u202f', '\u202f'), ('\u205f', '\u2060'), ('\u3000', '\u3000'), ('\ufeff', '\ufeff')]

/-- What may stand between tokens. -/
def blanks : CharSet := asciiBlank.union wideBlank

/-- The ends of lines. -/
def lineEnds : CharSet := .ofText "\r\n\u2028\u2029"

/-- Decimal digits. -/
def digit : CharSet := .ofRanges [('0', '9')]

/-- Hexadecimal digits. -/
def hexDigit : CharSet := .ofRanges [('0', '9'), ('a', 'f'), ('A', 'F')]

/-- ASCII letters. -/
def letter : CharSet := .ofRanges [('a', 'z'), ('A', 'Z')]

/-- One of some characters. -/
def oneOf (s : String) : Pattern := .one (.ofText s)

/-- Any character but some. -/
def noneOf (s : String) : Pattern := .one (CharSet.ofText s).complement

/-- A character that is no line feed. -/
def onLine : Pattern := noneOf "\n"

/-- An escape by a code point in a name. -/
def nameEscape : Pattern :=
  .either
    (.concat [.ofString "\\u", .times (.one hexDigit) 4 0])
    (.concat [.ofString "\\u\x7b", .manyOne (.one hexDigit), .ofString "\x7d"])

/-- The characters that cannot be part of a name. -/
def notInNames : CharSet :=
  (CharSet.ofRanges [('\x00', '\x1f')]).union <| blanks.union <|
    .ofText ":;\x60\"'@#.,|^&<=>+-*/\\%?!~()[]\x7b\x7d"

/-- A character of a name, or an escape. -/
def namePart : Pattern := .either (.one notInNames.complement) nameEscape

/-- The first character of a name, or an escape. -/
def nameStart : Pattern := .either (.one (notInNames.union digit).complement) nameEscape

/-- The text of a name. -/
def nameText : Pattern := .seq nameStart (.many namePart)

/-- A name or a keyword. -/
def word : Token := .ofPattern nameText

/-- The name of a private member. -/
def privateName : Token := .ofPattern (.seq (.ofString "#") nameText)

/-- The first line of a script that tells which program runs it. -/
def firstLine : Token := .ofPattern (.seq (.ofString "#!") (.many onLine))

/-- Comments to the end of the line, and comments with an end of their own. -/
def comment : Token :=
  let rest : Pattern := .many (.concat [noneOf "/*", .many (noneOf "*"), .manyOne (oneOf "*")])
  .ofPattern <| .either
    (.seq (.ofString "//") (.many (.one lineEnds.complement)))
    (.concat [.ofString "/*", .many (noneOf "*"), .manyOne (oneOf "*"), rest, .ofString "/"])

/-- Digits of a set, with single underscores between them. -/
def grouped (s : CharSet) : Pattern :=
  .seq (.one s) (.many (.seq (.optional (.ofString "_")) (.one s)))

/-- A number. -/
def numeral : Token :=
  let digits := grouped digit
  let exponent := Pattern.concat [oneOf "eE", .optional (oneOf "-+"), digits]
  let hex := Pattern.concat [.ofString "0", oneOf "xX", grouped hexDigit]
  let binary := Pattern.concat [.ofString "0", oneOf "bB", grouped (.ofText "01")]
  let octal := Pattern.concat [.ofString "0", oneOf "oO", grouped (.ofRanges [('0', '7')])]
  let whole := Pattern.either (.ofString "0") <|
    .concat [.optional (.ofString "0"), .one (.ofRanges [('1', '9')]),
      .optional (.seq (.optional (.ofString "_")) digits)]
  let decimal := Pattern.anyOf [
    .concat [whole, .ofString ".", .optional digits, .optional exponent],
    .concat [.ofString ".", digits, .optional exponent],
    .seq whole exponent,
    digits]
  .ofPattern <| .anyOf [hex, decimal, binary, octal,
    .seq (.anyOf [hex, binary, octal, digits]) (.ofString "n")]

/-- A piece of a string between double quotes. -/
def doubleText : Token := (Token.ofPattern (.manyOne (noneOf "\"\\\r\n"))).joined 1

/-- A piece of a string between single quotes. -/
def singleText : Token := (Token.ofPattern (.manyOne (noneOf "'\\\r\n"))).joined 1

/-- An escape in a string. -/
def escape : Token :=
  let octal : Pattern := .one (.ofRanges [('0', '7')])
  let hex : Pattern := .one hexDigit
  (Token.ofPattern <| .seq (.ofString "\\") <| .anyOf [
    .one ((CharSet.ofText "xu").union (.ofRanges [('0', '7')])).complement,
    .times octal 1 2,
    .seq (.ofString "x") (.times hex 2 0),
    .seq (.ofString "u") (.times hex 4 0),
    .concat [.ofString "u\x7b", .manyOne hex, .ofString "\x7d"],
    .seq (oneOf "\r?") (oneOf "\n\u2028\u2029")]).joined 0

/-- What stands between the slashes of a regular expression. -/
def regexBody : Token :=
  let escaped := Pattern.seq (.ofString "\\") onLine
  (Token.ofPattern <| .manyOne <| .anyOf [
    .concat [.ofString "[", .many (.either escaped (noneOf "]\n\\")), .ofString "]"],
    escaped,
    noneOf "/\\[\n"]).joined (-1)

/-- The slash behind a regular expression. -/
def slash : Grammar.Expr := .token ((Token.literal "/").joined 1)

/-- The flags of a regular expression. -/
def regexFlags : Token := (Token.ofPattern (.manyOne (.one (.ofRanges [('a', 'z')])))).joined 0

/-- A name with dashes. -/
def dashed : Token :=
  let start := letter.union (.ofText "_$")
  let part := start.union digit
  .ofPattern <| .concat [.one start, .many (.one part), .ofString "-",
    .many (.one (part.union (.ofText "-")))]

/-- A piece of markup text in which an ampersand begins no reference, with some end. -/
def markupText (quote : String) : Token :=
  (Token.ofPattern <| .manyOne <| .either
    (noneOf (quote ++ "&"))
    (.seq (.ofString "&") (.one ((CharSet.ofText "#").union letter).complement))).joined 1

/-- A piece of a markup string between double quotes. -/
def doubleMarkupText : Token := markupText "\""

/-- A piece of a markup string between single quotes. -/
def singleMarkupText : Token := markupText "'"

/-- A reference to a character in markup. -/
def characterReference : Token :=
  .ofPattern <| .concat [
    .ofString "&",
    .either
      (.seq (.ofString "#") <| .either
        (.seq (oneOf "xX") (.times (.one hexDigit) 1 5))
        (.times (.one digit) 1 4))
      (.times (.one letter) 1 29),
    .ofString ";"]

/-- The words of a static getter with a line end behind them, which count as one word. -/
def staticGet : Grammar.Expr :=
  .token <| .ofPattern <| .concat [
    .ofString "static", .manyOne (.one asciiBlank), .ofString "get", .many (.one asciiBlank),
    .ofString "\n"]

end CodeAtlas.Script.Rules
