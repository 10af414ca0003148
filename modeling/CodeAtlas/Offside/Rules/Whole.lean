import CodeAtlas.Offside.Rules.Parameter

/-!
# Forms of whole expressions

An expression is a disjunction, one under a condition, or a function without a name. What looks like
two expressions next to each other is a mistake.
-/

namespace CodeAtlas.Offside.Rules

open Form

/-- Two expressions next to each other, or a condition without an alternative. -/
def expressionMistake : Form :=
  mistake (any [
    complain .missingComma (all [
      notAhead (any [all [name, kind .text], contextual]), call .disjunction,
      trusting (any [conditional, call .disjunction, lambdaExpression])]),
    complainFirst [
      call .disjunction, word "if", call .disjunction,
      notAhead (any [word "else", mark ":"])]])

/-- A statement of old, which is a call now. -/
def formerStatementMistake : Form :=
  mistake (complain .formerKeyword (all [name, notAhead (mark "("), starExpressions]))

/-- An expression. -/
def wholeExpression : Form :=
  any [
    expressionMistake, formerStatementMistake, conditional, call .disjunction, lambdaExpression]

end CodeAtlas.Offside.Rules
