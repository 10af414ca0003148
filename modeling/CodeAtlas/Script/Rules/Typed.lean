import CodeAtlas.Script.Rules.Token

/-!
# Declarations of typed scripts

How the rules of typed scripts differ from those of plain ones, and the rules of the declarations
that only typed scripts have.
-/

namespace CodeAtlas.Script.Rules

open Grammar Grammar.Expr

/-- The rules that are different with types. -/
def retyped : List (String × Grammar.Expr) :=
  [("exportStatement", choice [
     sequence [
       "export",
       choice [
         sequence ["*", the "_fromClause"], sequence [the "namespaceExport", the "_fromClause"],
         sequence [the "exportClause", the "_fromClause"], the "exportClause"],
       the "_semicolon"],
     sequence [
       any (the "decorator"), "export",
       choice [
         the "declaration",
         sequence [
           "default", choice [the "declaration", sequence [the "expression", the "_semicolon"]]]]],
     sequence [
       "export", "type", the "exportClause", optional (the "_fromClause"), the "_semicolon"],
     sequence ["export", "import", the "importAlias"],
     sequence ["export", "=", the "expression", the "_semicolon"],
     sequence ["export", "as", "namespace", the "identifier", the "_semicolon"]]),
   ("exportSpecifier", sequence [
     optional (choice ["type", "typeof"]),
     sequence [
       role "name" (the "_moduleExportName"),
       optional (sequence ["as", role "alias" (the "_moduleExportName")])]]),
   ("_moduleExportName", choice [the "identifier", the "string"]),
   ("declaration", choice [
     the "functionDeclaration", the "generatorFunctionDeclaration", the "classDeclaration",
     the "lexicalDeclaration", the "variableDeclaration", the "functionSignature",
     the "abstractClassDeclaration", the "module", level "declare" (the "internalModule"),
     the "typeAliasDeclaration", the "enumDeclaration", the "interfaceDeclaration",
     the "importAlias", the "ambientDeclaration"]),
   ("importStatement", sequence [
     "import", optional (choice ["type", "typeof"]),
     choice [
       sequence [the "importClause", the "_fromClause"], the "importRequireClause",
       role "source" (the "string")],
     optional (the "importAttribute"), the "_semicolon"]),
   ("importClause", choice [
     the "namespaceImport", the "namedImports",
     sequence [
       the "_importIdentifier",
       optional (sequence [",", choice [the "namespaceImport", the "namedImports"]])]]),
   ("importSpecifier", sequence [
     optional (choice ["type", "typeof"]),
     choice [
       role "name" (the "_importIdentifier"),
       sequence [
         role "name" (choice [the "_moduleExportName", shown "identifier" "type"]), "as",
         role "alias" (the "_importIdentifier")]]]),
   ("variableDeclarator", choice [
     sequence [
       role "name" (choice [the "identifier", the "_destructuringPattern"]),
       optional (the "typeAnnotation"), optional (the "_initializer")],
     level "declare" (sequence [role "name" (the "identifier"), "!", the "typeAnnotation"])]),
   ("_forHeader", sequence [
     "(",
     choice [
       the "_lhsExpression", the "parenthesizedExpression",
       sequence [
         "var", choice [the "identifier", the "_destructuringPattern"],
         optional (the "_initializer")],
       sequence [
         choice ["let", "const"], choice [the "identifier", the "_destructuringPattern"],
         optional (the "_automaticSemicolon")]],
     choice ["in", "of"], the "_expressions", ")"]),
   ("catchClause", sequence [
     "catch",
     optional (sequence [
       "(", choice [the "identifier", the "_destructuringPattern"], optional (the "typeAnnotation"),
       ")"]),
     the "statementBlock"]),
   ("parenthesizedExpression", sequence [
     "(",
     choice [
       sequence [the "expression", optional (the "typeAnnotation")], the "sequenceExpression"],
     ")"]),
   ("primaryExpression", choice [
     the "subscriptExpression", the "memberExpression", the "parenthesizedExpression",
     the "_identifier", shown "identifier" (the "_reservedIdentifier"), the "this", the "super",
     the "number", the "string", the "templateString", the "regex", the "true", the "false",
     the "null", the "object", the "array", the "functionExpression", the "arrowFunction",
     the "generatorFunction", the "class", the "metaProperty", the "callExpression",
     the "nonNullExpression"]),
   ("markupOpeningElement", weight (-1) (sequence [the "_markupStartOpeningElement", ">"])),
   ("markupSelfClosingElement", weight (-1) (sequence [the "_markupStartOpeningElement", "/>"])),
   ("class", level "literal" (sequence [
     any (the "decorator"), "class", role "name" (optional (the "_typeIdentifier")),
     optional (the "typeParameters"), optional (the "classHeritage"), the "classBody"])),
   ("classDeclaration", level "declare" (left (sequence [
     any (the "decorator"), "class", role "name" (the "_typeIdentifier"),
     optional (the "typeParameters"), optional (the "classHeritage"), the "classBody",
     optional (the "_automaticSemicolon")]))),
   ("classHeritage", choice [
     sequence [the "extendsClause", optional (the "implementsClause")], the "implementsClause"]),
   ("_callSignature", sequence [
     optional (the "typeParameters"), the "formalParameters",
     optional (choice [
       the "typeAnnotation", the "assertsAnnotation", the "typePredicateAnnotation"])]),
   ("_formalParameter", choice [the "requiredParameter", the "optionalParameter"]),
   ("callExpression", choice [
     level "call" (sequence [
       role "function" (choice [the "expression", the "import"]), optional (the "typeArguments"),
       the "arguments"]),
     level "templateCall" (sequence [
       role "function" (choice [the "primaryExpression", the "newExpression"]), the "templateString"]),
     level "member" (sequence [
       role "function" (the "primaryExpression"), "?.", optional (the "typeArguments"),
       the "arguments"])]),
   ("newExpression", level "new" (right (sequence [
     "new", role "constructor" (the "primaryExpression"), optional (the "typeArguments"),
     optional (the "arguments")]))),
   ("memberExpression", level "member" (sequence [
     role "object" (choice [the "expression", the "primaryExpression", the "import"]),
     choice [".", the "optionalChain"],
     role "property" (choice [
       the "privatePropertyIdentifier", shown "propertyIdentifier" (the "identifier")])])),
   ("_lhsExpression", choice [
     the "memberExpression", the "subscriptExpression", the "_identifier",
     shown "identifier" (the "_reservedIdentifier"), the "_destructuringPattern",
     the "nonNullExpression"]),
   ("assignmentExpression", level "assign" (right (sequence [
     optional "using", choice [the "parenthesizedExpression", the "_lhsExpression"], "=",
     the "expression"]))),
   ("_augmentedAssignmentLhs", choice [
     the "memberExpression", the "subscriptExpression",
     shown "identifier" (the "_reservedIdentifier"), the "identifier",
     the "parenthesizedExpression", the "nonNullExpression"]),
   ("decorator", sequence [
     "@",
     choice [
       the "identifier", shown "memberExpression" (the "decoratorMemberExpression"),
       shown "callExpression" (the "decoratorCallExpression"),
       the "decoratorParenthesizedExpression"]]),
   ("decoratorCallExpression", level "call" (sequence [
     role "function" (choice [
       the "identifier", shown "memberExpression" (the "decoratorMemberExpression")]),
     optional (the "typeArguments"), the "arguments"])),
   ("classBody", sequence [
     "\x7b",
     any (choice [
       sequence [any (the "decorator"), the "methodDefinition", optional (the "_semicolon")],
       sequence [the "methodSignature", choice [the "_functionSignatureAutomaticSemicolon", ","]],
       the "classStaticBlock",
       sequence [
         choice [
           the "abstractMethodSignature", the "indexSignature", the "methodSignature",
           the "publicFieldDefinition"],
         choice [the "_semicolon", ","]],
       ";"]),
     "\x7d"]),
   ("methodDefinition", left (sequence [
     optional (the "accessibilityModifier"), optional "static", optional (the "overrideModifier"),
     optional "readonly", optional "async", optional (choice ["get", "set", "*"]),
     role "name" (the "_propertyName"), optional "?", the "_callSignature", the "statementBlock"])),
   ("_propertyName", choice [
     shown "propertyIdentifier" (choice [the "identifier", the "_reservedIdentifier"]),
     the "privatePropertyIdentifier", the "string", the "number", the "computedPropertyName"]),
   ("_reservedIdentifier", choice [
     "declare", "namespace", "type", "public", "private", "protected", "override", "readonly",
     "module", "any", "number", "boolean", "string", "symbol", "export", "object", "new",
     "readonly", "get", "set", "async", "static", "export", "let"])]

/-- Expressions with types; a type in angle brackets before one is there only without markup. -/
def typedExpression (markup : Bool) : List (String × Grammar.Expr) :=
  [("expression", choice (
     [the "asExpression", the "satisfiesExpression", the "instantiationExpression",
      the "internalModule"] ++
     (if markup then [the "primaryExpression", the "_markupElement"]
      else [the "typeAssertion", the "primaryExpression"]) ++
     [the "assignmentExpression", the "augmentedAssignmentExpression", the "awaitExpression",
      the "unaryExpression", the "binaryExpression", the "ternaryExpression",
      the "updateExpression", the "newExpression", the "yieldExpression"]))]

/-- Members, modules and declarations with types. -/
def typedDeclarations : List (String × Grammar.Expr) :=
  [("publicFieldDefinition", sequence [
     any (the "decorator"),
     optional (choice [
       sequence ["declare", optional (the "accessibilityModifier")],
       sequence [the "accessibilityModifier", optional "declare"]]),
     choice [
       sequence [optional "static", optional (the "overrideModifier"), optional "readonly"],
       sequence [optional "abstract", optional "readonly"],
       sequence [optional "readonly", optional "abstract"], optional "accessor"],
     role "name" (the "_propertyName"), optional (choice ["?", "!"]),
     optional (the "typeAnnotation"), optional (the "_initializer")]),
   ("_markupStartOpeningElement", sequence [
     "<",
     optional (sequence [
       choice [
         role "name" (choice [the "_markupIdentifier", the "markupNamespaceName"]),
         sequence [
           role "name" (choice [
             the "identifier", shown "memberExpression" (the "nestedIdentifier")]),
           optional (the "typeArguments")]],
       any (the "_markupAttribute")])]),
   ("_importIdentifier", choice [the "identifier", shown "identifier" "type"]),
   ("nonNullExpression", level "unary" (left (sequence [the "expression", "!"]))),
   ("methodSignature", sequence [
     optional (the "accessibilityModifier"), optional "static", optional (the "overrideModifier"),
     optional "readonly", optional "async", optional (choice ["get", "set", "*"]),
     role "name" (the "_propertyName"), optional "?", the "_callSignature"]),
   ("abstractMethodSignature", sequence [
     optional (the "accessibilityModifier"), "abstract", optional (the "overrideModifier"),
     optional (choice ["get", "set", "*"]), role "name" (the "_propertyName"), optional "?",
     the "_callSignature"]),
   ("functionSignature", sequence [
     optional "async", "function", role "name" (the "identifier"), the "_callSignature",
     choice [the "_semicolon", the "_functionSignatureAutomaticSemicolon"]]),
   ("decoratorParenthesizedExpression", sequence [
     "(",
     choice [
       the "identifier", shown "memberExpression" (the "decoratorMemberExpression"),
       shown "callExpression" (the "decoratorCallExpression")],
     ")"]),
   ("typeAssertion", level "unary" (left (sequence [the "typeArguments", the "expression"]))),
   ("asExpression", level "binary" (left (sequence [
     the "expression", "as", choice ["const", the "type"]]))),
   ("satisfiesExpression", level "binary" (left (sequence [
     the "expression", "satisfies", the "type"]))),
   ("instantiationExpression", level "instantiation" (sequence [
     the "expression", the "typeArguments"])),
   ("importRequireClause", sequence [
     the "identifier", "=", "require", "(", role "source" (the "string"), ")"]),
   ("extendsClause", sequence ["extends", commas (the "_extendsClauseSingle")]),
   ("_extendsClauseSingle", level "extends" (sequence [
     the "expression", optional (the "typeArguments")])),
   ("implementsClause", sequence ["implements", commas (the "type")]),
   ("ambientDeclaration", sequence [
     "declare",
     choice [
       the "declaration", sequence ["global", the "statementBlock"],
       sequence [
         "module", ".", shown "propertyIdentifier" (the "identifier"), ":", the "type",
         the "_semicolon"]]]),
   ("abstractClassDeclaration", level "declare" (sequence [
     any (the "decorator"), "abstract", "class", role "name" (the "_typeIdentifier"),
     optional (the "typeParameters"), optional (the "classHeritage"), the "classBody"])),
   ("module", sequence ["module", the "_module"]),
   ("internalModule", sequence ["namespace", the "_module"]),
   ("_module", right (sequence [
     role "name" (choice [the "string", the "identifier", the "nestedIdentifier"]),
     optional (the "statementBlock")])),
   ("importAlias", sequence [
     "import", the "identifier", "=", choice [the "identifier", the "nestedIdentifier"],
     the "_semicolon"]),
   ("nestedTypeIdentifier", level "member" (sequence [
     choice [the "identifier", the "nestedIdentifier"], ".", role "name" (the "_typeIdentifier")])),
   ("interfaceDeclaration", level "declare" (sequence [
     "interface", role "name" (the "_typeIdentifier"), optional (the "typeParameters"),
     optional (the "extendsTypeClause"), the "objectType"])),
   ("extendsTypeClause", sequence [
     "extends",
     commas (choice [the "_typeIdentifier", the "nestedTypeIdentifier", the "genericType"])]),
   ("enumDeclaration", sequence [
     optional "const", "enum", role "name" (the "identifier"), the "enumBody"]),
   ("enumBody", sequence [
     "\x7b",
     optional (sequence [
       commas (choice [role "name" (the "_propertyName"), the "enumAssignment"]), optional ","]),
     "\x7d"]),
   ("enumAssignment", sequence [role "name" (the "_propertyName"), the "_initializer"]),
   ("typeAliasDeclaration", sequence [
     "type", role "name" (the "_typeIdentifier"), optional (the "typeParameters"), "=", the "type",
     the "_semicolon"]),
   ("accessibilityModifier", choice ["public", "private", "protected"]),
   ("overrideModifier", "override"),
   ("requiredParameter", sequence [
     the "_parameterName", optional (the "typeAnnotation"), optional (the "_initializer")]),
   ("optionalParameter", sequence [
     the "_parameterName", "?", optional (the "typeAnnotation"), optional (the "_initializer")]),
   ("_parameterName", sequence [
     any (the "decorator"), optional (the "accessibilityModifier"),
     optional (the "overrideModifier"), optional "readonly", choice [the "pattern", the "this"]])]

end CodeAtlas.Script.Rules
