import CodeAtlas.Script.Rules.Token

/-!
# Types in scripts

The rules of type annotations and types.
-/

namespace CodeAtlas.Script.Rules

open Grammar Grammar.Expr

/-- Annotations, and what types are made of. -/
def annotations : List (String × Grammar.Expr) :=
  [("omittingTypeAnnotation", sequence ["-?:", the "type"]),
   ("addingTypeAnnotation", sequence ["+?:", the "type"]),
   ("optingTypeAnnotation", sequence ["?:", the "type"]),
   ("typeAnnotation", sequence [":", the "type"]),
   ("_typeQueryMemberExpressionInTypeAnnotation", sequence [
     role "object" (choice [
       the "import", shown "memberExpression" (the "_typeQueryMemberExpressionInTypeAnnotation"),
       shown "callExpression" (the "_typeQueryCallExpressionInTypeAnnotation")]),
     ".",
     role "property" (choice [
       the "privatePropertyIdentifier", shown "propertyIdentifier" (the "identifier")])]),
   ("_typeQueryCallExpressionInTypeAnnotation", sequence [
     role "function" (choice [
       the "import", shown "memberExpression" (the "_typeQueryMemberExpressionInTypeAnnotation")]),
     the "arguments"]),
   ("asserts", sequence ["asserts", choice [the "typePredicate", the "identifier", the "this"]]),
   ("assertsAnnotation", sequence [":", the "asserts"]),
   ("type", choice [
     the "primaryType", the "functionType", the "readonlyType", the "constructorType",
     the "inferType",
     strength (-1) (shown "memberExpression" (the "_typeQueryMemberExpressionInTypeAnnotation")),
     strength (-1) (shown "callExpression" (the "_typeQueryCallExpressionInTypeAnnotation"))]),
   ("tupleParameter", sequence [
     role "name" (choice [the "identifier", the "restPattern"]), the "typeAnnotation"]),
   ("optionalTupleParameter", sequence [role "name" (the "identifier"), "?", the "typeAnnotation"]),
   ("optionalType", sequence [the "type", "?"]),
   ("restType", sequence ["...", the "type"]),
   ("_tupleTypeMember", choice [
     the "tupleParameter", the "optionalTupleParameter", the "optionalType", the "restType",
     the "type"])]

/-- Types. -/
def typeForms : List (String × Grammar.Expr) :=
  [("constructorType", left (sequence [
     optional "abstract", "new", optional (the "typeParameters"), the "formalParameters", "=>",
     the "type"])),
   ("primaryType", choice [
     the "parenthesizedType", the "predefinedType", the "_typeIdentifier",
     the "nestedTypeIdentifier", the "genericType", the "objectType", the "arrayType",
     the "tupleType", the "maybeType", the "typeQuery", the "indexTypeQuery", the "this",
     the "existentialType", the "literalType", the "lookupType", the "conditionalType",
     the "templateLiteralType", the "intersectionType", the "unionType", "const"]),
   ("templateType", sequence ["$\x7b", choice [the "primaryType", the "inferType"], "\x7d"]),
   ("templateLiteralType", sequence [
     "\x60", any (choice [the "_templateText", the "templateType"]), "\x60"]),
   ("inferType", right (sequence [
     "infer", the "_typeIdentifier", optional (sequence ["extends", the "type"])])),
   ("conditionalType", right (sequence [
     the "type", "extends", the "type", "?", the "type", ":", the "type"])),
   ("genericType", level "call" (sequence [
     role "name" (choice [the "_typeIdentifier", the "nestedTypeIdentifier"]), the "typeArguments"])),
   ("typePredicate", sequence [
     role "name" (choice [the "identifier", the "this", shown "identifier" (the "predefinedType")]),
     "is", the "type"]),
   ("typePredicateAnnotation", sequence [":", the "typePredicate"]),
   ("_typeQueryMemberExpression", sequence [
     role "object" (choice [
       the "identifier", the "this", the "_typeQuerySubscriptExpression",
       shown "memberExpression" (the "_typeQueryMemberExpression"),
       shown "callExpression" (the "_typeQueryCallExpression")]),
     choice [".", "?."],
     role "property" (choice [
       the "privatePropertyIdentifier", shown "propertyIdentifier" (the "identifier")])]),
   ("_typeQuerySubscriptExpression", sequence [
     role "object" (choice [
       the "identifier", the "this", the "_typeQuerySubscriptExpression",
       shown "memberExpression" (the "_typeQueryMemberExpression"),
       shown "callExpression" (the "_typeQueryCallExpression")]),
     optional "?.", "[", choice [the "predefinedType", the "string", the "number"], "]"]),
   ("_typeQueryCallExpression", sequence [
     role "function" (choice [
       the "import", the "identifier", shown "memberExpression" (the "_typeQueryMemberExpression"),
       the "_typeQuerySubscriptExpression"]),
     the "arguments"]),
   ("_typeQueryInstantiationExpression", sequence [
     role "function" (choice [
       the "import", the "identifier", shown "memberExpression" (the "_typeQueryMemberExpression"),
       the "_typeQuerySubscriptExpression"]),
     the "typeArguments"]),
   ("typeQuery", right (sequence [
     "typeof",
     choice [
       the "_typeQuerySubscriptExpression",
       shown "memberExpression" (the "_typeQueryMemberExpression"),
       shown "callExpression" (the "_typeQueryCallExpression"),
       the "_typeQueryInstantiationExpression", the "identifier", the "this"]])),
   ("indexTypeQuery", sequence ["keyof", the "primaryType"]),
   ("lookupType", sequence [the "primaryType", "[", the "type", "]"]),
   ("mappedTypeClause", sequence [
     role "name" (the "_typeIdentifier"), "in", the "type",
     optional (sequence ["as", role "alias" (the "type")])]),
   ("literalType", choice [
     the "_number", the "number", the "string", the "true", the "false", the "null", the "undefined"]),
   ("_number", strength 1 (left (sequence [choice ["-", "+"], the "number"]))),
   ("existentialType", "*"),
   ("maybeType", right (sequence ["?", the "primaryType"])),
   ("parenthesizedType", sequence ["(", the "type", ")"]),
   ("predefinedType", choice [
     "any", "number", "boolean", "string", "symbol", sequence ["unique", "symbol"], "void",
     "unknown", "string", "never", "object"])]

/-- Types of objects, parameters of types, and operators on types. -/
def typeMembers : List (String × Grammar.Expr) :=
  [("typeArguments", sequence ["<", commas (the "type"), optional ",", ">"]),
   ("objectType", sequence [
     choice ["\x7b", "\x7b|"],
     optional (sequence [
       optional (choice [",", ";"]),
       separated (choice [",", the "_semicolon"]) (choice [
         the "exportStatement", the "propertySignature", the "callSignature",
         the "constructSignature", the "indexSignature", the "methodSignature"]),
       optional (choice [",", the "_semicolon"])]),
     choice ["\x7d", "|\x7d"]]),
   ("callSignature", the "_callSignature"),
   ("propertySignature", sequence [
     optional (the "accessibilityModifier"), optional "static", optional (the "overrideModifier"),
     optional "readonly", role "name" (the "_propertyName"), optional "?",
     optional (the "typeAnnotation")]),
   ("typeParameters", sequence ["<", commas (the "typeParameter"), optional ",", ">"]),
   ("typeParameter", sequence [
     optional "const", role "name" (the "_typeIdentifier"), optional (the "constraint"),
     optional (the "defaultType")]),
   ("defaultType", sequence ["=", the "type"]),
   ("constraint", sequence [choice ["extends", ":"], the "type"]),
   ("constructSignature", sequence [
     optional "abstract", "new", optional (the "typeParameters"), the "formalParameters",
     optional (the "typeAnnotation")]),
   ("indexSignature", sequence [
     optional (sequence [optional (choice ["-", "+"]), "readonly"]), "[",
     choice [
       sequence [
         role "name" (choice [the "identifier", shown "identifier" (the "_reservedIdentifier")]),
         ":", the "type"],
       the "mappedTypeClause"],
     "]",
     choice [
       the "typeAnnotation", the "omittingTypeAnnotation", the "addingTypeAnnotation",
       the "optingTypeAnnotation"]]),
   ("arrayType", sequence [the "primaryType", "[", "]"]),
   ("tupleType", sequence ["[", optional (commas (the "_tupleTypeMember")), optional ",", "]"]),
   ("readonlyType", sequence ["readonly", the "type"]),
   ("unionType", left (sequence [optional (the "type"), "|", the "type"])),
   ("intersectionType", left (sequence [optional (the "type"), "&", the "type"])),
   ("functionType", left (sequence [
     optional (the "typeParameters"), the "formalParameters", "=>",
     choice [the "type", the "asserts", the "typePredicate"]])),
   ("_typeIdentifier", shown "typeIdentifier" (the "identifier"))]

end CodeAtlas.Script.Rules
