import CodeAtlas.Offside.Rules.Call

/-!
# Forms of simple statements

Statements that have no body.
-/

namespace CodeAtlas.Offside.Rules

open Form

/-- The end of a line. -/
def lineEnd : Form := kind .newline

/-- The operators that change a place by a value. -/
def changeMarks : Form :=
  marks ["+=", "-=", "*=", "@=", "/=", "%=", "&=", "|=", "^=", "<<=", ">>=", "**=", "//="]

/-- Mistakes in an assignment. -/
def assignmentMistake : Form :=
  mistake (any [
    complainFirst [call .annotatedMistake, mark ":", expression],
    complainFirst [starNamed, mark ",", many starNamed, mark ":", expression],
    complainFirst [expression, mark ":", expression],
    complain (.misused .assignment)
      (all [skip (many (all [starTargets, mark "="])), starExpressions, mark "="]),
    complainFirst [skip (many (all [starTargets, mark "="])), yieldExpression, mark "="],
    complainFirst [starExpressions, changeMarks, assignedValue]])

/-- The value behind an annotation. -/
def annotatedValue : Form := opt (all [mark "=", assignedValue])

/-- An assignment. -/
def assignment : Form :=
  bound (any [
    branch .annotated (all [name, mark ":", expression, annotatedValue]),
    branch .annotated
      (all [any [all [mark "(", call .singleTarget, mark ")"], memberTarget], mark ":",
        expression, annotatedValue]),
    branch .assign
      (all [some (all [starTargets, mark "="]), assignedValue, notAhead (mark "="), opt absent]),
    branch .simple (all [call .singleTarget, changeMarks, commit, assignedValue]),
    assignmentMistake])

/-- A dotted name. -/
def dottedName : Form := branch .dotted (sepBy name ".")

/-- An imported name with its alias. -/
def importAlias (imported : Form) : Form :=
  branch .alias (all [imported, opt (all [word "as", name])])

/-- Names that are imported from a module. -/
def importAliases : Form := sepBy (importAlias name) ","

/-- What is imported from a module. -/
def importedNames : Form :=
  any [
    all [mark "(", importAliases, opt (mark ","), mark ")"],
    all [importAliases, notAhead (mark ",")],
    mark "*",
    mistake (complainFurthest [importAliases, mark ",", lineEnd])]

/-- A dot of a relative module. -/
def moduleDots : Form := any [keep ".", keep "..."]

/-- An import of modules or of names of a module. -/
def importStatement : Form :=
  any [
    branch .importModules (all [word "import", sepBy (importAlias dottedName) ","]),
    branch .importNames
      (all [word "from", many moduleDots, dottedName, word "import", importedNames]),
    branch .importNames (all [word "from", some moduleDots, word "import", importedNames])]

/-- A deletion. -/
def deletion : Form :=
  any [
    branch .simple
      (all [word "del", deletionTargets, ahead (any [mark ";", lineEnd])]),
    mistake (complain (.misused .deletion) (all [word "del", starExpressions]))]

/-- Names that are looked up further out. -/
def outerNames : Form := skip (sepBy name ",")

/-- A statement without a body. -/
def simple : Form :=
  any [
    assignment,
    branch .simple starExpressions,
    branch .simple (all [word "return", opt starExpressions]),
    importStatement,
    branch .simple (all [word "raise", expression, opt (all [word "from", expression])]),
    branch .simple (word "raise"),
    branch .simple (word "pass"),
    all [ahead (word "del"), deletion],
    branch .simple yieldExpression,
    branch .simple (all [word "assert", expression, opt (all [mark ",", expression])]),
    branch .simple (word "break"),
    branch .simple (word "continue"),
    branch .simple (all [word "global", outerNames]),
    branch .simple (all [word "nonlocal", outerNames])]

/-- Simple statements on one line. -/
def simpleStatements : Form :=
  any [
    all [call .simple, notAhead (mark ";"), lineEnd],
    all [sepBy (call .simple) ";", opt (mark ";"), lineEnd]]

end CodeAtlas.Offside.Rules
