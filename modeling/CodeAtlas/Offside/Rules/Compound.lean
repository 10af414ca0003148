import CodeAtlas.Offside.Rules.Pattern
import CodeAtlas.Offside.Rules.Statement
import CodeAtlas.Offside.Rules.Whole

/-!
# Forms of statements with a body

A statement with several bodies, such as a condition with its alternatives, is a run of clauses.
-/

namespace CodeAtlas.Offside.Rules

open Form

/-- The end of a line that is not followed by an indented one. -/
def unindented : Form := all [lineEnd, notAhead (kind .indent)]

/-- Mistakes in the header of a clause: the colon is missing, or the body is. -/
def headerMistake (header : Form) : Form :=
  mistake (any [
    complainFurthest [header, lineEnd],
    complainFurthest [header, mark ":", unindented]])

/-- A header whose body is missing. -/
def bodyMistake (header : Form) : Form := mistake (complainFurthest [header, mark ":", unindented])

/-- A colon and a body. -/
def body : Form := all [mark ":", call .block]

/-- A colon, which must be there, and a body. -/
def forcedBody : Form := all [forced ":", call .block]

/-- The lines of a block, or simple statements on the line of its header. -/
def block : Form :=
  any [
    branch .block
      (all [lineEnd, kind .indent, some (call .statement), kind .dedent]),
    branch .block simpleStatements,
    mistake (complainFurthest [unindented])]

/-- The alternative of a condition or a loop. -/
def alternative : Form :=
  any [bodyMistake (word "else"), branch .clause (all [word "else", forcedBody])]

/-- A keyword and a condition. -/
def condition (keyword : String) : Form := all [word keyword, namedExpression]

/-- A condition with a body. -/
def conditionClause (keyword : String) : Form := branch .clause (all [condition keyword, body])

/-- A condition with a body, and its alternatives. -/
def conditionClauses (keyword : String) : Form :=
  any [
    headerMistake (condition keyword),
    all [conditionClause keyword, call .elseIf],
    all [conditionClause keyword, opt alternative]]

/-- A loop on a condition. -/
def whileLoop : Form :=
  any [
    headerMistake (condition "while"),
    all [conditionClause "while", opt alternative]]

/-- The header of a loop over a source. -/
def forHeader : Form :=
  all [opt (word "async"), word "for", starTargets, word "in", starExpressions]

/-- A loop over a source. -/
def forLoop : Form :=
  bound (any [
    headerMistake forHeader,
    all [
      branch .clause
        (all [opt (word "async"), word "for", starTargets, word "in", commit, starExpressions, body]),
      opt alternative],
    loopTargetMistake])

/-- An item of a with statement. -/
def withItem : Form :=
  any [
    all [expression, word "as", call .starTarget, ahead (marks [",", ")", ":"])],
    mistake (complain (.misused .assignment)
      (all [skip expression, word "as", expression, ahead (marks [",", ")", ":"])])),
    expression]

/-- The start of a with statement. -/
def withWord : Form := all [opt (word "async"), word "with"]

/-- The items of a with statement as they are read to find a mistake. -/
def withItems (value : Form) : Form := sepBy (all [value, opt (all [word "as", call .starTarget])]) ","

/-- The header of a with statement, without parentheses and with them. -/
def withHeaders : List Form :=
  [all [withWord, withItems expression],
   all [withWord, mark "(", withItems expressions, opt (mark ","), mark ")"]]

/-- A with statement; its items may stand in parentheses. -/
def withStatement : Form :=
  any [
    mistake (any (withHeaders.map fun h => complainFurthest [h, mark ":", unindented])),
    branch .clause (all [withWord, mark "(", commaList withItem, mark ")", body]),
    branch .clause (all [withWord, sepBy withItem ",", body]),
    mistake (any (withHeaders.map fun h => complainFurthest [h, lineEnd]))]

/-- The name of what a handler handles. -/
def handledName : Form := opt (all [word "as", skip name])

/-- Mistakes in the header of a handler. -/
def handlerMistake : Form :=
  mistake (any [
    complainFirst [
      word "except", opt (mark "*"), expression, mark ",", expressions, handledName, mark ":"],
    complainFurthest [word "except", opt (mark "*"), expression, handledName, lineEnd],
    complainFurthest [word "except", lineEnd],
    complainFurthest [word "except", mark "*", any [lineEnd, mark ":"]]])

/-- A handler. -/
def handler : Form :=
  any [
    mistake (any [
      complainFurthest [word "except", expression, handledName, mark ":", unindented],
      complainFurthest [word "except", mark ":", unindented]]),
    branch .clause (all [word "except", expression, handledName, body]),
    branch .clause (all [word "except", body]),
    handlerMistake]

/-- A handler with a star. -/
def starHandler : Form :=
  any [
    bodyMistake (all [word "except", mark "*", expression, handledName]),
    branch .clause (all [word "except", mark "*", expression, handledName, body]),
    handlerMistake]

/-- What is done at the end of a try statement in any case. -/
def finalClause : Form :=
  any [bodyMistake (word "finally"), branch .clause (all [word "finally", forcedBody])]

/-- Mistakes in a try statement. -/
def tryMistake : Form :=
  mistake (any [
    complainFurthest [word "try", mark ":", unindented],
    complainFurthest [
      word "try", mark ":", call .block, notAhead (any [word "except", word "finally"])],
    complainFirst [
      skip (all [word "try", mark ":", many (call .block), some handler]), keep "except",
      mark "*", expression, handledName, mark ":"],
    complainFirst [
      skip (all [word "try", mark ":", many (call .block), some starHandler]), keep "except",
      opt (all [expression, handledName]), mark ":"]])

/-- A try statement, whose handlers have all a star or none. -/
def tryStatement : Form :=
  any [
    tryMistake,
    all [branch .clause (all [word "try", forcedBody]), finalClause],
    all [
      branch .clause (all [word "try", forcedBody]), some handler, opt alternative,
      opt finalClause],
    all [
      branch .clause (all [word "try", forcedBody]), some starHandler, opt alternative,
      opt finalClause]]

/-- What is matched. -/
def matchSubject : Form :=
  any [
    branch .sequence (all [starNamed, mark ",", opt starNamedList]),
    namedExpression]

/-- The header of a match statement. -/
def matchHeader : Form := all [word "match", matchSubject]

/-- The header of a case. -/
def caseHeader : Form := all [word "case", casePattern, opt (condition "if")]

/-- A case. -/
def caseClause : Form := any [headerMistake caseHeader, branch .clause (all [caseHeader, body])]

/-- A match statement. Its words are names elsewhere. -/
def matchStatement : Form :=
  any [
    all [
      branch .clause matchHeader, mark ":", lineEnd, kind .indent, some caseClause, kind .dedent],
    headerMistake matchHeader]

/-- The decorators of a definition. -/
def decorators : Form := branch .decorators (some (all [mark "@", namedExpression, lineEnd]))

/-- A definition, maybe with decorators. -/
def decorable (definition : Form) : Form :=
  any [branch .decorated (all [decorators, definition]), definition]

/-- A function. -/
def function : Form :=
  any [
    bodyMistake (all [
      opt (word "async"), word "def", name, mark "(", functionParameters, mark ")",
      opt (all [mark "->", expression])]),
    branch .function (all [
      opt (word "async"), word "def", name, forced "(", functionParameters, mark ")",
      opt (all [mark "->", branch .note expression]), forcedBody])]

/-- The header of a class. -/
def classHeader : Form := all [word "class", name, opt callArguments]

/-- A class. -/
def classDefinition : Form :=
  any [headerMistake classHeader, branch .classDefinition (all [classHeader, body])]

/-- A statement with a body. -/
def compound : Form :=
  any [
    all [ahead (any [word "def", mark "@", word "async"]), decorable function],
    all [ahead (word "if"), conditionClauses "if"],
    all [ahead (any [word "class", mark "@"]), decorable classDefinition],
    all [ahead (any [word "with", word "async"]), withStatement],
    all [ahead (any [word "for", word "async"]), forLoop],
    all [ahead (word "try"), tryStatement],
    all [ahead (word "while"), whileLoop],
    matchStatement]

end CodeAtlas.Offside.Rules
