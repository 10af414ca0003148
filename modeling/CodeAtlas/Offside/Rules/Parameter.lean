import CodeAtlas.Offside.Rules.Expression

/-!
# Forms of parameter lists

A parameter list may have a slash, which closes the positional-only parameters, a star, after which
parameters are keyword-only, and at its end a double star. Before the star no parameter without a
default follows one with a default. The parameters of a function stand in parentheses and may have
annotations; those of a lambda expression end at a colon.
-/

namespace CodeAtlas.Offside.Rules

open Form

/-- What the parameters belong to. -/
inductive Owner
  | function
  | lambda
deriving DecidableEq, Repr

namespace Owner

/-- The mark behind the parameters. -/
def closing : Owner → String
  | function => ")"
  | lambda => ":"

/-- The mark behind the parameters, and all that may stand before it. -/
def close (o : Owner) : Form := mark o.closing

/-- Looks at the token behind a parameter of a function. -/
def peek : Owner → Form
  | function => opt absent
  | lambda => all []

/-- A name with its annotation. -/
def parameter : Owner → Form
  | function => all [name, opt (branch .note (all [mark ":", expression]))]
  | lambda => name

/-- What follows a parameter: a comma, or the mark behind all of them. -/
def next (o : Owner) : Form :=
  any [all [mark ",", o.peek], all [o.peek, ahead o.close]]

/-- A parameter without a default. -/
def plain (o : Owner) : Form := all [o.parameter, o.next]

/-- The default of a parameter. -/
def default : Form :=
  any [
    branch .default (all [mark "=", expression]),
    mistake (complainFirst [keep "=", ahead (marks [")", ","])])]

/-- A parameter with a default. -/
def defaulted (o : Owner) : Form := all [o.parameter, default, o.next]

/-- A parameter that may have a default. -/
def either (o : Owner) : Form := all [o.parameter, opt default, o.next]

/-- A slash, and what follows it. -/
def slash (o : Owner) : Form :=
  any [all [mark "/", mark ","], all [mark "/", ahead o.close]]

/-- Parameters without a default and the slash behind them. -/
def plainSlash (o : Owner) : Form := all [some o.plain, o.slash]

/-- Parameters of which the last has a default, and the slash behind them. -/
def defaultedSlash (o : Owner) : Form := all [many o.plain, some o.defaulted, o.slash]

/-- Mistakes at a double star. -/
def doubleStarMistake (o : Owner) : Form :=
  mistake (any [
    complainFirst [mark "**", skip o.parameter, keep "="],
    complainFirst [mark "**", skip o.parameter, mark ",", o.parameter],
    complainFirst [
      mark "**", skip o.parameter, mark ",", any [keep "*", keep "**", keep "/"]]])

/-- The parameter with a double star. -/
def doubleStar (o : Owner) : Form := any [o.doubleStarMistake, all [mark "**", o.plain]]

/-- A star behind which no parameter follows. -/
def bareStarMistake : Owner → Form
  | function =>
    complainFirst [keep "*", any [mark ")", all [mark ",", marks [")", "**"]]]]
  | lambda =>
    complainFurthest [mark "*", any [mark ":", all [mark ",", marks [":", "**"]]]]

/-- Mistakes at a star. -/
def starMistake (o : Owner) : Form :=
  mistake (any [
    o.bareStarMistake,
    complainFirst [mark "*", skip o.parameter, keep "="],
    complainFirst [
      mark "*", skip (any [o.plain, mark ","]), skip (many o.either), keep "*",
      any [o.plain, mark ","]]])

/-- The parameter with a star, whose annotation may have a star too. -/
def starred : Owner → Form
  | function =>
    any [
      all [mark "*", plain function, many (either function), opt (doubleStar function)],
      all [
        mark "*", name, branch .note (all [mark ":", call .starExpression]),
        next function, many (either function), opt (doubleStar function)]]
  | lambda => all [mark "*", plain lambda, many (either lambda), opt (doubleStar lambda)]

/-- The parameters from the star on. -/
def fromStar (o : Owner) : Form :=
  branch .keywordOnly (any [
    o.starMistake,
    o.starred,
    all [mark "*", mark ",", some o.either, opt o.doubleStar],
    o.doubleStar])

/-- Parameters in parentheses inside the list. -/
def groupMistake : Owner → Form
  | function =>
    complainFirst [
      skip (many (plain function)), keep "(", some (plain function), opt (mark ","), mark ")"]
  | lambda =>
    complainFirst [
      skip (many (plain lambda)), keep "(", sepBy (parameter lambda) ",", opt (mark ","), mark ")"]

/-- Mistakes in a parameter list. -/
def listMistake (o : Owner) : Form :=
  mistake (any [
    complainFirst [
      skip (many o.plain), skip (any [o.defaultedSlash, some o.defaulted]), o.plain],
    o.groupMistake,
    complainFirst [keep "/", mark ","],
    complainFirst [
      skip (any [o.plainSlash, o.defaultedSlash]), skip (many o.either), keep "/"],
    complainFirst [
      skip (opt (any [o.plainSlash, o.defaultedSlash])), skip (many o.either), mark "*",
      skip (any [mark ",", o.plain]), skip (many o.either), keep "/"],
    complainFirst [skip (some o.either), mark "/", keep "*"]])

/-- A parameter list that is not empty. -/
def list (o : Owner) : Form :=
  branch .parameters (any [
    o.listMistake,
    all [o.plainSlash, many o.plain, many o.defaulted, opt o.fromStar],
    all [o.defaultedSlash, many o.defaulted, opt o.fromStar],
    all [some o.plain, many o.defaulted, opt o.fromStar],
    all [some o.defaulted, opt o.fromStar],
    o.fromStar])

end Owner

/-- The parameters of a function, without their parentheses. -/
def functionParameters : Form := opt (Owner.list .function)

/-- A function without a name. -/
def lambdaExpression : Form :=
  branch .lambda (all [word "lambda", opt (Owner.list .lambda), mark ":", expression])

end CodeAtlas.Offside.Rules
