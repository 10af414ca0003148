import CodeAtlas.Script.Rules.Token

/-!
# Statements of scripts

The rules of whole scripts, of imports and exports, and of statements.
-/

namespace CodeAtlas.Script.Rules

open Grammar Grammar.Expr

/-- Whole scripts, imports and exports. -/
def modules : List (String × Grammar.Expr) :=
  [("program", sequence [optional (the "firstLine"), any (the "statement")]),
   ("firstLine", .leaf (.token firstLine)),
   ("exportStatement", choice [
     sequence [
       "export",
       choice [
         sequence ["*", the "_fromClause"], sequence [the "namespaceExport", the "_fromClause"],
         sequence [the "exportClause", the "_fromClause"], the "exportClause"],
       the "_semicolon"],
     sequence [
       any (the "decorator"), "export",
       choice [
         the "declaration",
         sequence [
           "default", choice [the "declaration", sequence [the "expression", the "_semicolon"]]]]]]),
   ("namespaceExport", sequence ["*", "as", the "_moduleExportName"]),
   ("exportClause", sequence [
     "\x7b", optional (commas (the "exportSpecifier")), optional ",", "\x7d"]),
   ("exportSpecifier", sequence [
     role "name" (the "_moduleExportName"),
     optional (sequence ["as", role "alias" (the "_moduleExportName")])]),
   ("_moduleExportName", choice [the "identifier", the "string", "default"]),
   ("declaration", choice [
     the "functionDeclaration", the "generatorFunctionDeclaration", the "classDeclaration",
     the "lexicalDeclaration", the "variableDeclaration", the "usingDeclaration"]),
   ("import", "import"),
   ("importStatement", sequence [
     "import",
     choice [sequence [the "importClause", the "_fromClause"], role "source" (the "string")],
     optional (the "importAttribute"), the "_semicolon"]),
   ("importClause", choice [
     the "namespaceImport", the "namedImports",
     sequence [
       the "identifier",
       optional (sequence [",", choice [the "namespaceImport", the "namedImports"]])]]),
   ("_fromClause", sequence ["from", role "source" (the "string")]),
   ("namespaceImport", sequence ["*", "as", the "identifier"]),
   ("namedImports", sequence [
     "\x7b", optional (commas (the "importSpecifier")), optional ",", "\x7d"]),
   ("importSpecifier", choice [
     role "name" (the "identifier"),
     sequence [role "name" (the "_moduleExportName"), "as", role "alias" (the "identifier")]]),
   ("importAttribute", sequence ["with", the "object"])]

/-- Statements. -/
def statements : List (String × Grammar.Expr) :=
  [("statement", choice [
     the "exportStatement", the "importStatement", the "debuggerStatement",
     the "expressionStatement", the "declaration", the "statementBlock", the "ifStatement",
     the "switchStatement", the "forStatement", the "forInStatement", the "whileStatement",
     the "doStatement", the "tryStatement", the "withStatement", the "breakStatement",
     the "continueStatement", the "returnStatement", the "throwStatement", the "emptyStatement",
     the "labeledStatement"]),
   ("expressionStatement", sequence [the "_expressions", the "_semicolon"]),
   ("variableDeclaration", sequence ["var", commas (the "variableDeclarator"), the "_semicolon"]),
   ("lexicalDeclaration", sequence [
     choice ["let", "const"], commas (the "variableDeclarator"), the "_semicolon"]),
   ("usingDeclaration", sequence [
     choice ["using", sequence ["await", "using"]], commas (the "variableDeclarator"),
     the "_semicolon"]),
   ("variableDeclarator", sequence [
     role "name" (choice [the "identifier", the "_destructuringPattern"]),
     optional (the "_initializer")]),
   ("statementBlock", right (sequence [
     "\x7b", any (the "statement"), "\x7d", optional (the "_automaticSemicolon")])),
   ("elseClause", sequence ["else", the "statement"]),
   ("ifStatement", right (sequence [
     "if", the "parenthesizedExpression", the "statement", optional (the "elseClause")])),
   ("switchStatement", sequence ["switch", the "parenthesizedExpression", the "switchBody"]),
   ("forStatement", sequence [
     "for", "(",
     choice [
       the "lexicalDeclaration", the "variableDeclaration", sequence [the "_expressions", ";"],
       the "emptyStatement"],
     choice [sequence [the "_expressions", ";"], the "emptyStatement"],
     optional (the "_expressions"), ")", the "statement"]),
   ("forInStatement", sequence ["for", optional "await", the "_forHeader", the "statement"]),
   ("_forHeader", sequence [
     "(",
     choice [
       the "_lhsExpression", the "parenthesizedExpression",
       sequence [
         "var", choice [the "identifier", the "_destructuringPattern"],
         optional (the "_initializer")],
       sequence [
         choice ["let", "const", "using", sequence ["await", "using"]],
         choice [the "identifier", the "_destructuringPattern"],
         optional (the "_automaticSemicolon")]],
     choice ["in", "of"], the "_expressions", ")"]),
   ("whileStatement", sequence ["while", the "parenthesizedExpression", the "statement"]),
   ("doStatement", right (sequence [
     "do", the "statement", "while", the "parenthesizedExpression", optional (the "_semicolon")])),
   ("tryStatement", sequence [
     "try", the "statementBlock", optional (the "catchClause"), optional (the "finallyClause")]),
   ("withStatement", sequence [
     "with", role "object" (the "parenthesizedExpression"), the "statement"]),
   ("breakStatement", sequence ["break", optional (the "identifier"), the "_semicolon"]),
   ("continueStatement", sequence ["continue", optional (the "identifier"), the "_semicolon"]),
   ("debuggerStatement", sequence ["debugger", the "_semicolon"]),
   ("returnStatement", sequence ["return", optional (the "_expressions"), the "_semicolon"]),
   ("throwStatement", sequence ["throw", the "_expressions", the "_semicolon"]),
   ("emptyStatement", ";"),
   ("labeledStatement", weight (-1) (sequence [
     choice [the "identifier", the "_reservedIdentifier"], ":", the "statement"])),
   ("switchBody", sequence ["\x7b", any (choice [the "switchCase", the "switchDefault"]), "\x7d"]),
   ("switchCase", sequence ["case", the "_expressions", ":", any (the "statement")]),
   ("switchDefault", sequence ["default", ":", any (the "statement")]),
   ("catchClause", sequence [
     "catch",
     optional (sequence ["(", choice [the "identifier", the "_destructuringPattern"], ")"]),
     the "statementBlock"]),
   ("finallyClause", sequence ["finally", the "statementBlock"])]

end CodeAtlas.Script.Rules
