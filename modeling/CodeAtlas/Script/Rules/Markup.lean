import CodeAtlas.Script.Rules.Token

/-!
# Markup in scripts

The rules of elements with tags, attributes and text in expressions.
-/

namespace CodeAtlas.Script.Rules

open Grammar Grammar.Expr

/-- Elements. -/
def markup : List (String × Grammar.Expr) :=
  [("_markupElement", choice [the "markupElement", the "markupSelfClosingElement"]),
   ("markupElement", sequence [
     the "markupOpeningElement", any (the "_markupChild"), the "markupClosingElement"]),
   ("characterReference", .leaf (.token characterReference)),
   ("markupExpression", sequence [
     "\x7b", optional (choice [the "expression", the "sequenceExpression", the "spreadElement"]),
     "\x7d"]),
   ("_markupChild", choice [
     the "markupText", the "characterReference", the "_markupElement", the "markupExpression"]),
   ("markupOpeningElement", weight (-1) (sequence [
     "<",
     optional (sequence [role "name" (the "_markupElementName"), any (the "_markupAttribute")]), ">"])),
   ("markupIdentifier", .leaf (.token dashed)),
   ("_markupIdentifier", choice [shown "identifier" (the "markupIdentifier"), the "identifier"]),
   ("nestedIdentifier", level "member" (sequence [
     role "object" (choice [the "identifier", shown "memberExpression" (the "nestedIdentifier")]),
     ".", role "property" (shown "propertyIdentifier" (the "identifier"))])),
   ("markupNamespaceName", sequence [the "_markupIdentifier", ":", the "_markupIdentifier"]),
   ("_markupElementName", choice [
     the "_markupIdentifier", shown "memberExpression" (the "nestedIdentifier"),
     the "markupNamespaceName"]),
   ("markupClosingElement", sequence ["</", optional (role "name" (the "_markupElementName")), ">"]),
   ("markupSelfClosingElement", sequence [
     "<", role "name" (the "_markupElementName"), any (the "_markupAttribute"), "/>"]),
   ("_markupAttribute", choice [the "markupAttribute", the "markupExpression"]),
   ("_markupAttributeName", choice [
     shown "propertyIdentifier" (the "_markupIdentifier"), the "markupNamespaceName"]),
   ("markupAttribute", sequence [
     the "_markupAttributeName", optional (sequence ["=", the "_markupAttributeValue"])]),
   ("_markupString", choice [
     sequence [
       "\"", any (choice [the "unescapedDoubleMarkupStringFragment", the "characterReference"]),
       "\""],
     sequence [
       "'", any (choice [the "unescapedSingleMarkupStringFragment", the "characterReference"]), "'"]]),
   ("unescapedDoubleMarkupStringFragment", .leaf (.token doubleMarkupText)),
   ("unescapedSingleMarkupStringFragment", .leaf (.token singleMarkupText)),
   ("_markupAttributeValue", choice [
     the "_markupString", the "markupExpression", the "_markupElement"])]

end CodeAtlas.Script.Rules
