import CodeAtlas.Script.Rules.Token

/-!
# Functions and classes of scripts

The rules of functions, classes and their members.
-/

namespace CodeAtlas.Script.Rules

open Grammar Grammar.Expr

/-- Functions and classes. -/
def functions : List (String × Grammar.Expr) :=
  [("class", level "literal" (sequence [
     any (the "decorator"), "class", role "name" (optional (the "identifier")),
     optional (the "classHeritage"), the "classBody"])),
   ("classDeclaration", level "declare" (sequence [
     any (the "decorator"), "class", role "name" (the "identifier"), optional (the "classHeritage"),
     the "classBody", optional (the "_automaticSemicolon")])),
   ("classHeritage", sequence ["extends", the "expression"]),
   ("functionExpression", level "literal" (sequence [
     optional "async", "function", role "name" (optional (the "identifier")), the "_callSignature",
     the "statementBlock"])),
   ("functionDeclaration", level "declare" (right (sequence [
     optional "async", "function", role "name" (the "identifier"), the "_callSignature",
     the "statementBlock", optional (the "_automaticSemicolon")]))),
   ("generatorFunction", level "literal" (sequence [
     optional "async", "function", "*", role "name" (optional (the "identifier")),
     the "_callSignature", the "statementBlock"])),
   ("generatorFunctionDeclaration", level "declare" (right (sequence [
     optional "async", "function", "*", role "name" (the "identifier"), the "_callSignature",
     the "statementBlock", optional (the "_automaticSemicolon")]))),
   ("arrowFunction", sequence [
     optional "async",
     choice [
       shown "identifier" (the "_reservedIdentifier"), the "identifier", the "_callSignature"],
     "=>", choice [the "expression", the "statementBlock"]]),
   ("_callSignature", the "formalParameters"),
   ("_formalParameter", choice [the "pattern", the "assignmentPattern"])]

/-- Decorators, members of classes and of objects, and parameters. -/
def members : List (String × Grammar.Expr) :=
  [("decorator", sequence [
     "@",
     choice [
       the "identifier", shown "memberExpression" (the "decoratorMemberExpression"),
       shown "callExpression" (the "decoratorCallExpression")]]),
   ("decoratorMemberExpression", level "member" (sequence [
     role "object" (choice [
       the "identifier", shown "memberExpression" (the "decoratorMemberExpression")]),
     ".", role "property" (shown "propertyIdentifier" (the "identifier"))])),
   ("decoratorCallExpression", level "call" (sequence [
     role "function" (choice [
       the "identifier", shown "memberExpression" (the "decoratorMemberExpression")]),
     the "arguments"])),
   ("classBody", sequence [
     "\x7b",
     any (choice [
       sequence [the "methodDefinition", optional ";"],
       sequence [the "fieldDefinition", the "_semicolon"], the "classStaticBlock", ";"]),
     "\x7d"]),
   ("fieldDefinition", sequence [
     any (the "decorator"), optional "static", role "property" (the "_propertyName"),
     optional (the "_initializer")]),
   ("formalParameters", sequence [
     "(", optional (sequence [commas (the "_formalParameter"), optional ","]), ")"]),
   ("classStaticBlock", sequence [
     "static", optional (the "_automaticSemicolon"), the "statementBlock"]),
   ("pattern", weight (-1) (choice [the "_lhsExpression", the "restPattern"])),
   ("restPattern", right (sequence ["...", the "_lhsExpression"])),
   ("methodDefinition", sequence [
     any (the "decorator"), optional (choice ["static", staticGet]), optional "async",
     optional (choice ["get", "set", "*"]), role "name" (the "_propertyName"),
     the "formalParameters", the "statementBlock"]),
   ("pair", sequence [the "_propertyName", ":", the "expression"]),
   ("pairPattern", sequence [
     the "_propertyName", ":", choice [the "pattern", the "assignmentPattern"]]),
   ("_propertyName", anyWord (choice [
     shown "propertyIdentifier" (choice [the "identifier", the "_reservedIdentifier"]),
     the "privatePropertyIdentifier", the "string", the "number", the "computedPropertyName"])),
   ("computedPropertyName", sequence ["[", the "expression", "]"]),
   ("_reservedIdentifier", choice ["get", "set", "async", "await", "static", "export", "let"]),
   ("_semicolon", choice [the "_automaticSemicolon", ";"])]

end CodeAtlas.Script.Rules
