import CodeAtlas.Offside.Rules.Expression

/-!
# Forms of patterns

The patterns of a match statement. Only the expressions inside of string literals are of interest in
them, so nearly all branches are labelled `pattern`.
-/

namespace CodeAtlas.Offside.Rules

open Form

/-- What shows that a name is no capture. -/
def notCapture : Form := notAhead (marks [".", "(", "="])

/-- A name that a pattern binds. -/
def captureTarget : Form := all [notAhead (word "_"), name, notCapture]

/-- A number that may be negative. -/
def signedNumber : Form := any [number .any, branch .pattern (all [mark "-", number .any])]

/-- A number with a real and an imaginary part. -/
def complexNumber : Form :=
  branch .pattern
    (all [opt (mark "-"), number .real, marks ["+", "-"], number .imaginary])

/-- A literal. -/
def literalPattern : Form :=
  any [
    all [signedNumber, notAhead (marks ["+", "-"])],
    complexNumber,
    call .strings,
    keep "None", keep "True", keep "False"]

/-- A dotted name of at least two components. -/
def dottedPattern : Form := branch .pattern (all [name, some (all [mark ".", name])])

/-- A dotted name of any number of components. -/
def namePattern : Form := branch .pattern (sepBy name ".")

/-- Alternatives. -/
def orPattern : Form := chain .pattern (sepBy (call .closedPattern) "|")

/-- A pattern, maybe with a name for what it matches. -/
def pattern : Form :=
  any [
    branch .pattern (all [orPattern, word "as", captureTarget]),
    mistake (any [
      complainFirst [skip orPattern, word "as", all [ahead (word "_"), name]],
      complainFirst [skip orPattern, word "as", notAhead name, expression]]),
    orPattern]

/-- An item of a sequence. -/
def starOrPattern : Form := any [call .starPattern, pattern]

/-- The items of a sequence. -/
def sequenceItems : Form := commaList starOrPattern

/-- A sequence with a comma. -/
def openSequence : Form := branch .pattern (all [starOrPattern, mark ",", opt sequenceItems])

/-- A sequence in brackets or parentheses. -/
def sequencePattern : Form :=
  any [
    branch .pattern (all [mark "[", opt sequenceItems, mark "]"]),
    branch .pattern (all [mark "(", opt openSequence, mark ")"])]

/-- A key of a mapping and the pattern of its value. -/
def keyPattern : Form :=
  branch .pair (all [any [literalPattern, dottedPattern], mark ":", pattern])

/-- The rest of a mapping. -/
def restPattern : Form := all [mark "**", skip captureTarget]

/-- A mapping. -/
def mappingPattern : Form :=
  any [
    branch .dictionary (all [mark "\x7b", mark "\x7d"]),
    branch .dictionary (all [mark "\x7b", restPattern, opt (mark ","), mark "\x7d"]),
    branch .dictionary
      (all [mark "\x7b", sepBy keyPattern ",", mark ",", restPattern, opt (mark ","), mark "\x7d"]),
    branch .dictionary (all [mark "\x7b", sepBy keyPattern ",", opt (mark ","), mark "\x7d"])]

/-- The positional arguments of a class pattern. -/
def positionalPatterns : Form := sepBy pattern ","

/-- The arguments of a class pattern that are given by a name. -/
def keywordPatterns : Form := sepBy (all [skip name, mark "=", pattern]) ","

/-- A class and the patterns of its members. -/
def classPattern : Form :=
  any [
    branch .pattern (all [namePattern, mark "(", mark ")"]),
    branch .pattern (all [namePattern, mark "(", positionalPatterns, opt (mark ","), mark ")"]),
    branch .pattern (all [namePattern, mark "(", keywordPatterns, opt (mark ","), mark ")"]),
    branch .pattern
      (all [namePattern, mark "(", positionalPatterns, mark ",", keywordPatterns, opt (mark ","),
        mark ")"]),
    mistake (complainFirst [
      skip namePattern, mark "(", skip (opt (all [positionalPatterns, mark ","])),
      skip keywordPatterns, mark ",", positionalPatterns])]

/-- A pattern that is no alternative and has no name. -/
def closedPattern : Form :=
  any [
    literalPattern,
    captureTarget,
    all [ahead (word "_"), name],
    all [dottedPattern, notCapture],
    all [mark "(", pattern, mark ")"],
    sequencePattern,
    mappingPattern,
    classPattern]

/-- A starred name in a sequence. -/
def starPattern : Form :=
  any [
    branch .pattern (all [mark "*", captureTarget]),
    branch .pattern (all [mark "*", ahead (word "_"), name])]

/-- The pattern of a case, which may be a sequence without brackets. -/
def casePattern : Form := any [openSequence, pattern]

end CodeAtlas.Offside.Rules
