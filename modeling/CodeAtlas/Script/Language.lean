import CodeAtlas.Grammar.Table
import CodeAtlas.Script.Rules.Class
import CodeAtlas.Script.Rules.Expression
import CodeAtlas.Script.Rules.Markup
import CodeAtlas.Script.Rules.Statement
import CodeAtlas.Script.Rules.Type
import CodeAtlas.Script.Rules.Typed
import CodeAtlas.Script.Tree

/-!
# The languages of scripts

The grammars of plain and of typed scripts, with or without markup.
-/

namespace CodeAtlas.Script

open Grammar

/-- The orders of levels in all scripts. -/
def orders : List (List Rank) :=
  [[.level "member", .level "templateCall", .level "call", .rule "updateExpression",
    .level "unaryVoid", .level "binaryExp", .level "binaryTimes", .level "binaryPlus",
    .level "binaryShift", .level "binaryCompare", .level "binaryRelation", .level "binaryEquality",
    .level "bitwiseAnd", .level "bitwiseXor", .level "bitwiseOr", .level "logicalAnd",
    .level "logicalOr", .level "ternary", .rule "sequenceExpression", .rule "arrowFunction"],
   [.level "assign", .rule "primaryExpression"],
   [.level "member", .level "templateCall", .level "new", .level "call", .rule "expression"],
   [.level "declare", .level "literal"],
   [.rule "primaryExpression", .rule "statementBlock", .level "object"],
   [.rule "metaProperty", .rule "import"],
   [.rule "importStatement", .rule "import"],
   [.rule "exportStatement", .rule "primaryExpression"],
   [.rule "lexicalDeclaration", .rule "primaryExpression"]]

/-- The further orders of levels in typed scripts. -/
def typedOrders : List (List Rank) :=
  [[.level "call", .level "instantiation", .level "unary", .level "binary",
    .rule "awaitExpression", .rule "arrowFunction"],
   [.level "extends", .level "instantiation"],
   [.rule "intersectionType", .rule "unionType", .rule "conditionalType", .rule "functionType",
    .level "binary", .rule "typePredicate", .rule "readonlyType"],
   [.rule "mappedTypeClause", .rule "primaryExpression"],
   [.rule "accessibilityModifier", .rule "primaryExpression"],
   [.level "unaryVoid", .rule "expression"],
   [.rule "extendsClause", .rule "primaryExpression"],
   [.level "unary", .level "assign"],
   [.level "declare", .rule "expression"],
   [.rule "predefinedType", .rule "unaryExpression"],
   [.rule "type", .rule "maybeType"],
   [.rule "tupleType", .rule "arrayType", .rule "pattern", .rule "type"],
   [.rule "readonlyType", .rule "pattern"],
   [.rule "readonlyType", .rule "primaryExpression"],
   [.rule "typeQuery", .rule "subscriptExpression", .rule "expression"],
   [.rule "typeQuery", .rule "_typeQuerySubscriptExpression"],
   [.rule "nestedTypeIdentifier", .rule "genericType", .rule "primaryType", .rule "lookupType",
    .rule "indexTypeQuery", .rule "type"],
   [.rule "asExpression", .rule "satisfiesExpression", .rule "primaryType"],
   [.rule "_typeQueryMemberExpression", .rule "memberExpression"],
   [.rule "memberExpression", .rule "_typeQueryMemberExpressionInTypeAnnotation"],
   [.rule "_typeQueryMemberExpression", .rule "primaryExpression"],
   [.rule "_typeQuerySubscriptExpression", .rule "subscriptExpression"],
   [.rule "_typeQuerySubscriptExpression", .rule "primaryExpression"],
   [.rule "_typeQueryCallExpression", .rule "primaryExpression"],
   [.rule "_typeQueryInstantiationExpression", .rule "primaryExpression"],
   [.rule "typeQuery", .rule "primaryExpression"],
   [.rule "overrideModifier", .rule "primaryExpression"],
   [.rule "decoratorCallExpression", .rule "decorator"],
   [.rule "literalType", .rule "pattern"],
   [.rule "predefinedType", .rule "pattern"],
   [.rule "callExpression", .rule "_typeQueryCallExpression"],
   [.rule "callExpression", .rule "_typeQueryCallExpressionInTypeAnnotation"],
   [.rule "newExpression", .rule "primaryExpression"],
   [.rule "metaProperty", .rule "primaryExpression"],
   [.rule "constructSignature", .rule "_propertyName"]]

/-- The grammar of plain scripts. -/
def plainGrammar : Grammar where
  rules := Rules.modules ++ Rules.statements ++ Rules.primaries ++ Rules.markup ++
    Rules.functions ++ Rules.operations ++ Rules.literals ++ Rules.members
  categories := ["statement", "declaration", "expression", "primaryExpression", "pattern"]
  inlined := ["_callSignature", "_formalParameter", "_expressions", "_semicolon", "_identifier",
    "_reservedIdentifier", "_markupAttribute", "_markupElementName", "_markupChild",
    "_markupElement", "_markupAttributeName", "_markupAttributeValue", "_markupIdentifier",
    "_lhsExpression"]
  orders := orders
  outside := [.name "_automaticSemicolon", .name "_templateText", .name "_questionMark",
    .name "markupComment", .token (.literal "||"), .name "escapeSequence", .name "regexPattern",
    .name "markupText"]
  extras := ["comment", "markupComment"]
  blanks := Rules.blanks
  word := "identifier"
  reserved := ["break", "case", "catch", "class", "const", "continue", "debugger", "default",
    "delete", "do", "else", "export", "extends", "false", "finally", "for", "function", "if",
    "import", "in", "instanceof", "new", "null", "return", "super", "switch", "this", "throw",
    "true", "try", "typeof", "var", "void", "while", "with"]

/-- The grammar of typed scripts. -/
def typedGrammar (markup : Bool) : Grammar :=
  let plain := { plainGrammar with
    rules := plainGrammar.rules.filter fun r => r.1 != "usingDeclaration" }
  let rules := Rules.retyped ++ Rules.typedExpression markup ++ Rules.typedDeclarations ++
    Rules.annotations ++ Rules.typeForms ++ Rules.typeMembers
  { plain.withRules rules with
    categories := plain.categories ++ ["type", "primaryType"]
    inlined := plain.inlined.filter
        (fun s => s ≠ "_callSignature" && s ≠ "_formalParameter") ++
      ["_typeIdentifier", "_markupStartOpeningElement"]
    orders := plain.orders ++ typedOrders
    outside := plain.outside ++ [.name "_functionSignatureAutomaticSemicolon"]
    reserved := [] }

/-- The tables of a language. -/
def Dialect.table (d : Dialect) : Grammar.Table :=
  match d.typed, d.markup with
  | true, true => .ofGrammar (typedGrammar true)
  | true, false => .ofGrammar (typedGrammar false)
  | false, _ => .ofGrammar plainGrammar

end CodeAtlas.Script
