import CodeAtlas.Offside.Form

/-!
# Forms of expressions

Operators matter only for the order of their operands, so all arithmetic levels of precedence are one
form: operands with infix operators between them.
-/

namespace CodeAtlas.Offside.Rules

open Form

/-- Any expression. -/
def expression : Form := call .expression

/-- An expression with a star in front; it is a mistake at once if none follows the star. -/
def starredExpression : Form :=
  any [branch .starred (all [mark "*", expression]), complainFurthest [mark "*"]]

/-- An operand list with a star in front. -/
def starredOperation : Form := branch .starred (all [mark "*", call .operation])

/-- A name that is bound inside an expression, and its value. -/
def assignmentExpression : Form :=
  bound (branch .compound (all [name, mark ":=", commit, expression]))

/-- An expression, or an assignment inside one. -/
def namedExpression : Form :=
  any [assignmentExpression, mistake (call .namedMistake), all [expression, notAhead (mark ":=")]]

/-- An assignment sign that does not belong to a statement. -/
def strayAssignment : Form := notAhead (marks ["=", ":="])

/-- An item of a display. -/
def starNamed : Form := any [starredOperation, namedExpression]

/-- The items of a display. -/
def starNamedList : Form := commaList starNamed

/-- Expressions with commas between them: a tuple if there is a comma. -/
def tupled (item : Form) : Form :=
  any [
    branch .sequence (all [item, some (all [mark ",", item]), opt (mark ",")]),
    branch .sequence (all [item, mark ","]),
    item]

/-- A list of expressions, which may have stars. -/
def starExpressions : Form := tupled (call .starExpression)

/-- An item of a list of expressions. -/
def starExpression : Form := any [starredOperation, expression]

/-- A list of expressions without stars. -/
def expressions : Form := tupled expression

/-- A yield expression. -/
def yieldExpression : Form :=
  any [
    branch .compound (all [word "yield", word "from", expression]),
    branch .compound (all [word "yield", opt starExpressions])]

/-- The right-hand side of an assignment. -/
def assignedValue : Form := any [yieldExpression, starExpressions]

/-- What stands to the left of `in` in a loop, where it cannot be assigned to. -/
def loopTargetMistake : Form :=
  mistake (complain (.misused .loop) (all [opt (word "async"), word "for", starExpressions]))

/-- Targets with commas between them: a tuple if there is a comma. -/
def starTargets : Form :=
  any [
    all [call .starTarget, notAhead (mark ",")],
    branch .sequence
      (all [call .starTarget, many (all [mark ",", call .starTarget]), opt (mark ",")])]

/-- A clause of a comprehension: targets, a source and conditions. -/
def comprehensionClause : Form :=
  bound (any [
    all [opt (word "async"), word "for", starTargets, word "in", commit, call .disjunction,
      many (all [word "if", call .disjunction])],
    loopTargetMistake])

/-- The clauses of a comprehension. -/
def comprehensionClauses : Form := some comprehensionClause

/-- Mistakes in a comprehension. -/
def comprehensionMistake : Form :=
  mistake (any [
    complainFirst [marks ["[", "(", "\x7b"], starredExpression, comprehensionClauses],
    complainFirst [marks ["[", "\x7b"], starNamed, mark ",", starNamedList, comprehensionClauses],
    complainFirst [marks ["[", "\x7b"], starNamed, mark ",", comprehensionClauses]])

/-- A list. -/
def list : Form := branch .sequence (all [mark "[", opt starNamedList, mark "]"])

/-- A comprehension in square brackets. -/
def listComprehension : Form :=
  any [
    branch .compound (all [mark "[", namedExpression, comprehensionClauses, mark "]"]),
    comprehensionMistake]

/-- A tuple in parentheses. -/
def tuple : Form :=
  branch .sequence
    (all [mark "(", opt (all [starNamed, mark ",", opt starNamedList]), mark ")"])

/-- An expression in parentheses, which stays what it is. -/
def group : Form :=
  any [
    all [mark "(", any [yieldExpression, namedExpression], mark ")"],
    mistake (any [
      complainFirst [mark "(", starredExpression, mark ")"],
      complainFirst [mark "(", keep "**", expression, mark ")"]])]

/-- An element of a generator or a positional argument. -/
def plainArgument : Form := any [assignmentExpression, all [expression, notAhead (mark ":=")]]

/-- A generator. -/
def generator : Form :=
  any [
    branch .compound (all [mark "(", plainArgument, comprehensionClauses, mark ")"]),
    comprehensionMistake]

/-- A key and its value. -/
def keyValue : Form := all [expression, mark ":", expression]

/-- An item of a dictionary. -/
def dictionaryItem : Form :=
  any [branch .unpacking (all [mark "**", call .operation]), branch .pair keyValue]

/-- A value with a star in front, where a dictionary has a value. -/
def starredValueMistake : Form :=
  complainFirst [skip expression, mark ":", keep "*", call .operation]

/-- A key without a value. -/
def keyMistake : Form :=
  any [
    complainFirst [expression, notAhead (mark ":")],
    starredValueMistake,
    complainFirst [skip expression, keep ":", ahead (marks ["\x7d", ","])]]

/-- Mistakes in the items of a dictionary. -/
def dictionaryMistake : Form :=
  any [
    all [sepBy dictionaryItem ",", mark ",", keyMistake],
    starredValueMistake,
    complainFirst [skip expression, keep ":", ahead (marks ["\x7d", ","])]]

/-- A dictionary. -/
def dictionary : Form :=
  any [
    branch .dictionary (all [mark "\x7b", opt (commaList dictionaryItem), mark "\x7d"]),
    bound (all [mark "\x7b", dictionaryMistake, mark "\x7d"])]

/-- A set. -/
def set : Form := branch .compound (all [mark "\x7b", starNamedList, mark "\x7d"])

/-- A comprehension of a dictionary. -/
def dictionaryComprehension : Form :=
  any [
    branch .compound (all [mark "\x7b", keyValue, comprehensionClauses, mark "\x7d"]),
    mistake (complainFirst [
      mark "\x7b", keep "**", call .operation, comprehensionClauses, mark "\x7d"])]

/-- A comprehension of a set. -/
def setComprehension : Form :=
  any [
    branch .compound (all [mark "\x7b", namedExpression, comprehensionClauses, mark "\x7d"]),
    comprehensionMistake]

/-- A name, a literal, a display or what stands in parentheses. -/
def atom : Form :=
  any [
    name, keep "True", keep "False", keep "None",
    all [ahead (kind .text), call .strings],
    number .any,
    all [ahead (mark "("), any [tuple, group, generator]],
    all [ahead (mark "["), any [list, listComprehension]],
    all [ahead (mark "\x7b"), any [dictionary, set, dictionaryComprehension, setComprehension]],
    keep "..."]

/-- An item of an index: an index or a slice. -/
def slice : Form :=
  any [
    branch .compound
      (all [opt expression, mark ":", opt expression, opt (all [mark ":", opt expression])]),
    namedExpression]

/-- An index, which is a tuple if there is a comma or a star. -/
def slices : Form :=
  any [
    all [slice, notAhead (mark ",")],
    branch .sequence (commaList (any [slice, starredExpression]))]

/-- The arguments of a call in their parentheses. -/
def callArguments : Form := all [mark "(", opt (call .arguments), mark ")"]

/-- An index in its brackets. -/
def index : Form := all [mark "[", slices, mark "]"]

/-- An atom with the members, calls and indexes behind it. -/
def primary : Form :=
  suffixed atom (any [
    branch .member (all [mark ".", name]),
    branch .call generator,
    branch .call callArguments,
    branch .subscript index])

/-- A primary that may be awaited. -/
def awaited : Form := any [branch .compound (all [word "await", primary]), primary]

/-- A primary, maybe with an exponent. -/
def power : Form := chain .compound (all [call .awaited, opt (all [mark "**", call .factor])])

/-- An operand with its signs. -/
def factor : Form :=
  any [branch .compound (all [marks ["+", "-", "~"], call .factor]), power]

/-- The operators between operands. -/
def infixMarks : List String := ["|", "^", "&", "<<", ">>", "+", "-", "*", "/", "//", "%", "@"]

/-- Operands with operators between them. -/
def operation : Form :=
  chain .compound (all [call .factor, many (all [marks infixMarks, call .factor])])

/-- A comparison operator and its right-hand side. -/
def comparisonTail : Form :=
  any [
    all [marks ["==", "!=", "<=", "<", ">=", ">"], call .operation],
    all [word "not", word "in", call .operation],
    branch .within (all [word "in", call .operation]),
    all [word "is", word "not", call .operation],
    all [word "is", call .operation]]

/-- A chain of comparisons, or its negation. -/
def inversion : Form :=
  any [
    branch .compound (all [word "not", call .inversion]),
    chain .comparison (all [call .operation, many comparisonTail])]

/-- What holds if all parts do. -/
def conjunction : Form :=
  chain .compound (all [call .inversion, many (all [word "and", call .inversion])])

/-- What holds if one of the parts does. -/
def disjunction : Form :=
  chain .compound (all [call .conjunction, many (all [word "or", call .conjunction])])

/-- A value under a condition. -/
def conditional : Form :=
  branch .conditional
    (all [call .disjunction, word "if", call .disjunction, word "else", expression])

end CodeAtlas.Offside.Rules
