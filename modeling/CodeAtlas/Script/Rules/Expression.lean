import CodeAtlas.Script.Rules.Token

/-!
# Expressions of scripts

The rules of expressions, of the patterns that values are taken apart by, and of literals.
-/

namespace CodeAtlas.Script.Rules

open Grammar Grammar.Expr

/-- The operators between two expressions, with their levels. -/
def binaryOperators : List (String × String) :=
  [("&&", "logicalAnd"), ("||", "logicalOr"), (">>", "binaryShift"), (">>>", "binaryShift"),
   ("<<", "binaryShift"), ("&", "bitwiseAnd"), ("^", "bitwiseXor"), ("|", "bitwiseOr"),
   ("+", "binaryPlus"), ("-", "binaryPlus"), ("*", "binaryTimes"), ("/", "binaryTimes"),
   ("%", "binaryTimes"), ("**", "binaryExp"), ("<", "binaryRelation"), ("<=", "binaryRelation"),
   ("==", "binaryEquality"), ("===", "binaryEquality"), ("!=", "binaryEquality"),
   ("!==", "binaryEquality"), (">=", "binaryRelation"), (">", "binaryRelation"), ("??", "ternary"),
   ("instanceof", "binaryRelation"), ("in", "binaryRelation")]

/-- An expression with an operator: powers group to the right, all others to the left. -/
def binary (operator strength : String) : Grammar.Expr :=
  let operand :=
    if operator = "in" then choice [the "expression", the "privatePropertyIdentifier"]
    else the "expression"
  let whole := sequence [operand, operator, the "expression"]
  level strength (if operator = "**" then right whole else left whole)

/-- What expressions are made of, and patterns of objects and arrays. -/
def primaries : List (String × Grammar.Expr) :=
  [("parenthesizedExpression", sequence ["(", the "_expressions", ")"]),
   ("_expressions", choice [the "expression", the "sequenceExpression"]),
   ("expression", choice [
     the "primaryExpression", the "_markupElement", the "assignmentExpression",
     the "augmentedAssignmentExpression", the "awaitExpression", the "unaryExpression",
     the "binaryExpression", the "ternaryExpression", the "updateExpression", the "newExpression",
     the "yieldExpression"]),
   ("primaryExpression", choice [
     the "subscriptExpression", the "memberExpression", the "parenthesizedExpression",
     the "_identifier", shown "identifier" (the "_reservedIdentifier"), the "this", the "super",
     the "number", the "string", the "templateString", the "regex", the "true", the "false",
     the "null", the "object", the "array", the "functionExpression", the "arrowFunction",
     the "generatorFunction", the "class", the "metaProperty", the "callExpression"]),
   ("yieldExpression", right (sequence [
     "yield", choice [sequence ["*", the "expression"], optional (the "expression")]])),
   ("object", level "object" (sequence [
     "\x7b",
     optional (commas (optional (choice [
       the "pair", the "spreadElement", the "methodDefinition", the "identifier",
       the "_reservedIdentifier"]))),
     "\x7d"])),
   ("objectPattern", level "object" (sequence [
     "\x7b",
     optional (commas (optional (choice [
       the "pairPattern", the "restPattern", the "objectAssignmentPattern", the "identifier",
       the "_reservedIdentifier"]))),
     "\x7d"])),
   ("assignmentPattern", sequence [the "pattern", "=", the "expression"]),
   ("objectAssignmentPattern", sequence [
     choice [the "_reservedIdentifier", the "identifier", the "_destructuringPattern"], "=",
     the "expression"]),
   ("array", sequence [
     "[", optional (commas (optional (choice [the "expression", the "spreadElement"]))), "]"]),
   ("arrayPattern", sequence [
     "[", optional (commas (optional (choice [the "pattern", the "assignmentPattern"]))), "]"])]

/-- Calls, members, assignments and operators. -/
def operations : List (String × Grammar.Expr) :=
  [("optionalChain", "?."),
   ("callExpression", choice [
     level "call" (sequence [
       role "function" (choice [the "expression", the "import"]), the "arguments"]),
     level "templateCall" (sequence [
       role "function" (choice [the "primaryExpression", the "newExpression"]), the "templateString"]),
     level "member" (sequence [
       role "function" (the "primaryExpression"), the "optionalChain", the "arguments"])]),
   ("newExpression", level "new" (right (sequence [
     "new", role "constructor" (choice [the "primaryExpression", the "newExpression"]),
     optional (weight 1 (the "arguments"))]))),
   ("awaitExpression", level "unaryVoid" (sequence ["await", the "expression"])),
   ("memberExpression", level "member" (sequence [
     role "object" (choice [the "expression", the "primaryExpression", the "import"]),
     choice [".", the "optionalChain"],
     role "property" (choice [
       the "privatePropertyIdentifier", anyWord (shown "propertyIdentifier" (the "identifier"))])])),
   ("subscriptExpression", level "member" (right (sequence [
     role "object" (choice [the "expression", the "primaryExpression"]),
     optional (the "optionalChain"), "[", the "_expressions", "]"]))),
   ("_lhsExpression", choice [
     the "memberExpression", the "subscriptExpression", the "_identifier",
     shown "identifier" (the "_reservedIdentifier"), the "_destructuringPattern"]),
   ("assignmentExpression", level "assign" (right (sequence [
     choice [the "parenthesizedExpression", the "_lhsExpression"], "=", the "expression"]))),
   ("_augmentedAssignmentLhs", choice [
     the "memberExpression", the "subscriptExpression",
     shown "identifier" (the "_reservedIdentifier"), the "identifier", the "parenthesizedExpression"]),
   ("augmentedAssignmentExpression", level "assign" (right (sequence [
     the "_augmentedAssignmentLhs",
     choice [
       "+=", "-=", "*=", "/=", "%=", "^=", "&=", "|=", ">>=", ">>>=", "<<=", "**=", "&&=", "||=",
       "??="],
     the "expression"]))),
   ("_initializer", sequence ["=", the "expression"]),
   ("_destructuringPattern", choice [the "objectPattern", the "arrayPattern"]),
   ("spreadElement", sequence ["...", the "expression"]),
   ("ternaryExpression", level "ternary" (right (sequence [
     the "expression", the "_questionMark", the "expression", ":", the "expression"]))),
   ("binaryExpression", choice (binaryOperators.map fun o => binary o.1 o.2)),
   ("unaryExpression", level "unaryVoid" (left (sequence [
     choice ["!", "~", "-", "+", "typeof", "void", "delete"], the "expression"]))),
   ("updateExpression", left (choice [
     sequence [the "expression", choice ["++", "--"]],
     sequence [choice ["++", "--"], the "expression"]])),
   ("sequenceExpression", right (commas (the "expression")))]

/-- Literals and names. -/
def literals : List (String × Grammar.Expr) :=
  [("string", choice [
     sequence [
       "\"", any (choice [the "unescapedDoubleStringFragment", the "escapeSequence"]), "\""],
     sequence ["'", any (choice [the "unescapedSingleStringFragment", the "escapeSequence"]), "'"]]),
   ("unescapedDoubleStringFragment", .leaf (.token doubleText)),
   ("unescapedSingleStringFragment", .leaf (.token singleText)),
   ("escapeSequence", .leaf (.token escape)),
   ("comment", .leaf (.token comment)),
   ("templateString", sequence [
     "\x60", any (choice [the "_templateText", the "escapeSequence", the "templateSubstitution"]),
     "\x60"]),
   ("templateSubstitution", sequence ["$\x7b", the "_expressions", "\x7d"]),
   ("regex", sequence ["/", the "regexPattern", slash, optional (the "regexFlags")]),
   ("regexPattern", .leaf (.token regexBody)),
   ("regexFlags", .leaf (.token regexFlags)),
   ("number", .leaf (.token numeral)),
   ("_identifier", choice [the "undefined", the "identifier"]),
   ("identifier", .leaf (.token word)),
   ("privatePropertyIdentifier", .leaf (.token privateName)),
   ("metaProperty", choice [sequence ["new", ".", "target"], sequence ["import", ".", "meta"]]),
   ("this", "this"),
   ("super", "super"),
   ("true", "true"),
   ("false", "false"),
   ("null", "null"),
   ("undefined", "undefined"),
   ("arguments", sequence [
     "(", optional (commas (optional (choice [the "expression", the "spreadElement"]))), ")"])]

end CodeAtlas.Script.Rules
