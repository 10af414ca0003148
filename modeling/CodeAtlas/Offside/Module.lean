import CodeAtlas.Offside.Parse
import CodeAtlas.Offside.Syntax
import CodeAtlas.Text.Normal

/-!
# The syntax tree of an indented source

`Tree.toExpr` and `Tree.toStmt` turn parse trees into the expressions and statements that they stand
for; `Module.parse` does so for a whole source. The operands of an expression are put into the order
in which they are visited: the condition of a conditional comes first, and the keys of a dictionary
come before its values. Names that differ only in compatibility variants of their characters are one
name.
-/

namespace CodeAtlas.Offside

namespace Token

/-- The name that a word stands for. -/
def name (t : Token) : String := Text.normalForm t.text

/-- The stretch of the source that the token covers. -/
def span (t : Token) : Span := ⟨t.start, t.stop⟩

end Token

namespace Tree

/-- The token of a leaf. -/
def token? : Tree → Option Token
  | leaf t => some t
  | branch .. => none

mutual

/-- The expression that a tree stands for. -/
def toExpr : Tree → Expr
  | leaf t => if t.kind == .word then .name t.name t.span else .compound []
  | branch .member span [owner, leaf t] => .member (toExpr owner) t.name span
  | branch .subscript _ [owner, index] => .subscript (toExpr owner) (toExpr index)
  | branch .call _ [callee] => .call (toExpr callee) [] []
  | branch .call _ [callee, branch .arguments _ args] =>
    .call (toExpr callee) (positionals args) (keywords args)
  | branch .call _ [callee, generator] => .call (toExpr callee) [toExpr generator] []
  | branch .sequence _ parts => .sequence (toExprs parts)
  | branch .starred _ [value] => .starred (toExpr value)
  | branch .conditional _ [value, condition, alternative] =>
    .compound [toExpr condition, toExpr value, toExpr alternative]
  | branch .dictionary _ items => .compound (keys items ++ values items)
  | branch .lambda _ [branch .parameters _ ps, result] =>
    .compound (keywordDefaults ps ++ defaults ps ++ [toExpr result])
  | branch _ _ parts => .compound (toExprs parts)

/-- The expressions that trees stand for. -/
def toExprs : List Tree → List Expr
  | [] => []
  | t :: ts => toExpr t :: toExprs ts

/-- The arguments that are given by their position. -/
def positionals : List Tree → List Expr
  | [] => []
  | t :: ts => if t.is .keyword then positionals ts else toExpr t :: positionals ts

/-- The arguments that are given by a name or a mapping. -/
def keywords : List Tree → List Expr
  | [] => []
  | t :: ts => if t.is .keyword then toExpr t :: keywords ts else keywords ts

/-- The keys of a dictionary. -/
def keys : List Tree → List Expr
  | [] => []
  | branch .pair _ [key, _] :: ts => toExpr key :: keys ts
  | _ :: ts => keys ts

/-- The values of a dictionary, and what is unpacked into it. -/
def values : List Tree → List Expr
  | [] => []
  | branch .pair _ [_, value] :: ts => toExpr value :: values ts
  | t :: ts => toExpr t :: values ts

/-- The defaults of the parameters before the star. -/
def defaults : List Tree → List Expr
  | [] => []
  | t :: ts => if t.is .default then toExpr t :: defaults ts else defaults ts

/-- The defaults of the parameters behind the star. -/
def keywordDefaults : List Tree → List Expr
  | [] => []
  | branch .keywordOnly _ ps :: _ => defaults ps
  | _ :: ts => keywordDefaults ts

/-- The annotations of parameters. -/
def notes : List Tree → List Expr
  | [] => []
  | branch .keywordOnly _ ps :: ts => notes ps ++ notes ts
  | branch .note _ parts :: ts => .compound (toExprs parts) :: notes ts
  | _ :: ts => notes ts

end

/-- The names that the leaves among the trees stand for. -/
def names (ts : List Tree) : List String := ts.filterMap fun t => t.token?.map Token.name

/-- The name of a module or of something imported. -/
def importedName : Tree → String
  | leaf t => t.name
  | branch _ _ parts => ".".intercalate (names parts)

/-- An imported name with its alias. -/
def toAlias? : Tree → Option Alias
  | branch .alias _ (imported :: own) => some ⟨imported.importedName, (names own).head?⟩
  | _ => none

/-- The module of an import: its dots and its name. -/
def importedModule (parts : List Tree) : String :=
  let dots := parts.filterMap fun t => t.token?.map Token.text
  let named := parts.filter (is .dotted)
  String.join (dots ++ named.map importedName)

/-- What parameters and a result declare. -/
def toSignature : List Tree → Signature
  | branch .parameters _ ps :: result => ⟨defaults ps, keywordDefaults ps, notes ps ++ notes result⟩
  | result => ⟨[], [], notes result⟩

/-- The parts that are no block. -/
def unblocked (parts : List Tree) : List Tree := parts.filter fun t => !t.is .block

/-- The arguments among the parts of a class. -/
def baseParts : List Tree → List Tree
  | [] => []
  | branch .arguments _ args :: _ => args
  | _ :: ts => baseParts ts

mutual

/-- The statement that a tree stands for, below the given decorators. -/
def toStmt (decorators : List Expr) : Tree → Stmt
  | branch .decorated _ [branch .decorators _ above, definition] =>
    toStmt (toExprs above) definition
  | branch .function span (leaf t :: parts) =>
    .function t.name span decorators (toSignature (unblocked parts)) (bodyOf parts)
  | branch .classDefinition span (leaf t :: parts) =>
    let args := baseParts parts
    .class_ t.name span decorators (positionals args) (keywords args) (bodyOf parts)
  | branch .assign span parts =>
    .assign (toExprs parts.dropLast) ((toExprs parts).getLastD default) span
  | branch .annotated span (target :: note :: value) =>
    .annotated target.toExpr note.toExpr (toExprs value).head? span
  | branch .importModules _ modules => .importModules (modules.filterMap toAlias?)
  | branch .importNames _ parts =>
    .importNames (importedModule parts) (parts.filterMap toAlias?)
  | branch .clause _ parts => .clause (toExprs (unblocked parts)) (bodyOf parts)
  | t => .simple [t.toExpr]

/-- The statements of the block among the parts. -/
def bodyOf : List Tree → List Stmt
  | [] => []
  | branch .block _ statements :: _ => toStmts statements
  | _ :: ts => bodyOf ts

/-- The statements that trees stand for. -/
def toStmts : List Tree → List Stmt
  | [] => []
  | t :: ts => toStmt [] t :: toStmts ts

end
end Tree

/-- A source that has been parsed. -/
structure Module where
  body : List Stmt

/-- Why a source cannot be parsed. -/
inductive ParseFailure
  /-- The source holds a null character. -/
  | nullCharacter
  /-- The grammar is violated at a line. -/
  | malformed (line : Nat)
deriving DecidableEq, Repr

/-- Parses a source. -/
def Module.parse (content : String) : Except ParseFailure Module :=
  if content.toList.contains '\x00' then .error .nullCharacter
  else
    match parseTrees content with
    | .ok trees => .ok ⟨Tree.toStmts trees⟩
    | .error line => .error (.malformed line)

end CodeAtlas.Offside
