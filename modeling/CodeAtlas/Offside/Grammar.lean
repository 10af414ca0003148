import CodeAtlas.Offside.Rules.Compound

/-!
# The grammar of an indented source

`Phrase.form` gives the form of each phrase.
-/

namespace CodeAtlas.Offside

open Form

/-- The form of a phrase. -/
def Phrase.form : Phrase → Form
  | source => all [opt (some (call statement)), kind .finish]
  | field => Rules.starExpressions
  | statement => any [Rules.compound, Rules.simpleStatements]
  | simple => Rules.simple
  | block => Rules.block
  | elseIf => Rules.conditionClauses "elif"
  | expression => Rules.wholeExpression
  | starExpression => Rules.starExpression
  | namedMistake => Rules.namedMistake
  | disjunction => Rules.disjunction
  | conjunction => Rules.conjunction
  | inversion => Rules.inversion
  | operation => Rules.operation
  | factor => Rules.factor
  | awaited => Rules.awaited
  | strings => texts
  | arguments => Rules.arguments
  | starTarget => Rules.starTarget
  | target => Rules.target
  | targetOwner => Rules.targetOwner
  | singleTarget => Rules.singleTarget
  | deletionTarget => Rules.deletionTarget
  | annotatedMistake => Rules.annotatedMistake
  | closedPattern => Rules.closedPattern
  | starPattern => Rules.starPattern

end CodeAtlas.Offside
