import CodeAtlas.Offside.Token

/-!
# Syntax trees of an indented source

Trees keep what declarations, imports and call sites are made of: names, attribute chains,
subscripts, calls, displays that can be assigned to, and the statements that declare. Every other
expression is a `compound` of its operands in the order in which they are visited, and every other
statement is `simple` or, if it has a body, a run of `clause`s.
-/

namespace CodeAtlas.Offside

/-- An expression. -/
inductive Expr
  | name (id : String) (span : Span)
  /-- A member of an object: `owner.field`. -/
  | member (owner : Expr) (field : String) (span : Span)
  | subscript (owner index : Expr)
  | call (callee : Expr) (args keywords : List Expr)
  /-- A tuple or a list. -/
  | sequence (elements : List Expr)
  | starred (value : Expr)
  /-- Any other expression, by its operands. -/
  | compound (parts : List Expr)
deriving Repr, Inhabited

/-- An imported name, and the name it is bound to if that is another one. -/
structure Alias where
  name : String
  asName : Option String
deriving DecidableEq, Repr, Inhabited

/-- What a function declares beside its name and body. -/
structure Signature where
  /-- The defaults of the positional parameters. -/
  defaults : List Expr
  /-- The defaults of the keyword-only parameters. -/
  keywordDefaults : List Expr
  /-- The annotations of the parameters and of the result. -/
  annotations : List Expr
deriving Repr, Inhabited

/-- A statement. -/
inductive Stmt
  | function (name : String) (span : Span) (decorators : List Expr) (signature : Signature)
      (body : List Stmt)
  | class_ (name : String) (span : Span) (decorators bases keywords : List Expr)
      (body : List Stmt)
  | assign (targets : List Expr) (value : Expr) (span : Span)
  | annotated (target note : Expr) (value : Option Expr) (span : Span)
  /-- Binds modules, each under its alias or under the first component of its dotted name. -/
  | importModules (modules : List Alias)
  /-- Binds names of a module; leading dots make the module relative. -/
  | importNames (module : String) (names : List Alias)
  | simple (parts : List Expr)
  /-- A part of a statement with bodies: what is evaluated, then the body. -/
  | clause (parts : List Expr) (body : List Stmt)
deriving Repr, Inhabited

end CodeAtlas.Offside
