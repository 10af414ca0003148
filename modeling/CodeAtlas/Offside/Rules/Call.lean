import CodeAtlas.Offside.Rules.Expression

/-!
# Forms of arguments and targets

The arguments of a call, and the places that can be assigned to or deleted.
-/

namespace CodeAtlas.Offside.Rules

open Form

/-- Mistakes in an argument that is given by a name. -/
def keywordMistake : Form :=
  mistake (any [
    complainFirst [any [keep "True", keep "False", keep "None"], mark "="],
    complainFirst [name, mark "=", expression, comprehensionClauses],
    complainFirst [notAhead (all [name, mark "="]), expression, mark "="]])

/-- An argument that is given by a name. -/
def keywordArgument : Form := branch .keyword (all [skip name, mark "=", expression])

/-- An argument behind the first one that is given by a name. -/
def keywordOrStarred : Form := any [keywordMistake, keywordArgument, starredExpression]

/-- An argument behind the first mapping. -/
def keywordOrMapping : Form :=
  any [keywordMistake, keywordArgument, branch .keyword (all [mark "**", expression])]

/-- The arguments from the first one on that is given by a name or by a mapping. -/
def keywordArguments : Form :=
  any [
    all [sepBy keywordOrStarred ",", mark ",", sepBy keywordOrMapping ","],
    sepBy keywordOrStarred ",",
    sepBy keywordOrMapping ","]

/-- An argument that is given by its position. -/
def positionalArgument : Form :=
  any [starredExpression, all [plainArgument, notAhead (mark "=")]]

/-- The arguments of a call. -/
def argumentList : Form :=
  branch .arguments (any [
    all [sepBy positionalArgument ",", opt (all [mark ",", keywordArguments])],
    keywordArguments])

/-- Mistakes in the arguments of a call. -/
def argumentsMistake : Form :=
  mistake (any [
    complainFirst [
      skip (any [all [sepBy positionalArgument ",", mark ",", keywordArguments], keywordArguments]),
      keep ",", sepBy (all [starredExpression, notAhead (mark "=")]) ","],
    complainFirst [
      expression, comprehensionClauses, mark ",",
      opt (any [argumentList, all [expression, comprehensionClauses]])],
    complainFirst [name, mark "=", expression, comprehensionClauses],
    complain .generator (all [argumentList, comprehensionClauses]),
    complainFirst [skip argumentList, mark ",", expression, comprehensionClauses],
    complainFurthest [argumentList, mark ",", argumentList]])

/-- The arguments of a call, up to its closing parenthesis. -/
def arguments : Form :=
  any [all [argumentList, opt (mark ","), ahead (mark ")")], argumentsMistake]

/-- A mark that goes on with a primary. -/
def suffixMark : Form := marks ["(", "[", "."]

/-- A primary that something follows. -/
def targetOwner : Form :=
  suffixed (all [atom, ahead suffixMark]) (any [
    branch .member (all [mark ".", name, ahead suffixMark]),
    branch .subscript (all [index, ahead suffixMark]),
    branch .call (all [generator, ahead suffixMark]),
    branch .call (all [callArguments, ahead suffixMark])])

/-- A member or a subscript that nothing follows. -/
def memberTarget : Form :=
  any [
    branch .member (all [call .targetOwner, mark ".", name, notAhead suffixMark]),
    branch .subscript (all [call .targetOwner, index, notAhead suffixMark])]

/-- The items of a tuple that is a target, in parentheses. -/
def targetTuple : Form :=
  any [
    all [call .starTarget, some (all [mark ",", call .starTarget]), opt (mark ",")],
    all [call .starTarget, mark ","]]

/-- A place that can be assigned to. -/
def target : Form :=
  any [
    memberTarget,
    name,
    all [mark "(", call .target, mark ")"],
    branch .sequence (all [mark "(", opt targetTuple, mark ")"]),
    branch .sequence (all [mark "[", opt (commaList (call .starTarget)), mark "]"])]

/-- A place that can be assigned to, maybe with a star. -/
def starTarget : Form :=
  any [
    branch .starred (all [mark "*", notAhead (mark "*"), call .starTarget]),
    call .target]

/-- A place that is no tuple and no list. -/
def singleTarget : Form :=
  any [memberTarget, name, all [mark "(", call .singleTarget, mark ")"]]

/-- Places that are deleted. -/
def deletionTargets : Form := commaList (call .deletionTarget)

/-- A place that can be deleted. -/
def deletionTarget : Form :=
  any [
    memberTarget,
    name,
    all [mark "(", call .deletionTarget, mark ")"],
    branch .sequence (all [mark "(", opt deletionTargets, mark ")"]),
    branch .sequence (all [mark "[", opt deletionTargets, mark "]"])]

/-- A display with an annotation. -/
def annotatedMistake : Form :=
  any [list, tuple, all [mark "(", call .annotatedMistake, mark ")"]]

/-- Mistakes around an assignment inside an expression. -/
def namedMistake : Form :=
  any [
    complainFirst [expression, mark ":=", expression],
    complainFirst [name, mark "=", call .operation, strayAssignment],
    complainFirst [
      notAhead (any [list, tuple, generator, word "True", word "None", word "False"]),
      call .operation, mark "=", call .operation, strayAssignment]]

end CodeAtlas.Offside.Rules
