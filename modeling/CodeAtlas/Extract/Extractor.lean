import CodeAtlas.Data.Table
import CodeAtlas.Offside.Collect
import CodeAtlas.Script.Collect
import CodeAtlas.Text.Quoted

/-!
# Extractors

An extractor finds the declarations and uses of files in certain languages. One reads indented
sources, whatever language they are said to be in; the other reads scripts, for those of its
languages that a grammar is installed for.
-/

namespace CodeAtlas

/-- The languages of scripts, each with the package and the function that provide its grammar. -/
def scriptGrammars : List (String × String × String) :=
  [("javascript", "tree_sitter_javascript", "language"),
   ("typescript", "tree_sitter_typescript", "language_typescript"),
   ("tsx", "tree_sitter_typescript", "language_tsx")]

/-- The languages of scripts. -/
def scriptLanguages : List String := scriptGrammars.map Prod.fst

/-- The dialect of a language of scripts. -/
def scriptDialect? (language : String) : Option Script.Dialect :=
  match language with
  | "javascript" => some ⟨false, true⟩
  | "typescript" => some ⟨true, false⟩
  | "tsx" => some ⟨true, true⟩
  | _ => none

/-- What can be wrong with extractors and grammars. -/
inductive ExtractorError
  /-- Something was registered that is no extractor. -/
  | notAnExtractor
  /-- Languages are no languages of scripts. -/
  | unknownLanguages (languages : List String)
  /-- An extractor was asked for another language than its own. -/
  | cannotExtract (extractor language : String)
  | unsupportedLanguage (language : String)
  | packageMissing (package : String)
  | functionMissing (package function : String)
deriving DecidableEq, Repr

/-- The wording of an error. -/
def ExtractorError.message : ExtractorError → String
  | notAnExtractor => "must inherit from SymbolExtractor"
  | unknownLanguages ls => "No tree-sitter queries defined for: " ++ ", ".intercalate ls
  | cannotExtract e l => e ++ " cannot extract language '" ++ l ++ "'"
  | unsupportedLanguage l => "Unsupported language for tree-sitter: " ++ l
  | packageMissing p =>
    "Language package '" ++ p ++ "' not installed. Install it with: pip install " ++
      String.ofList (p.toList.map fun c => if c = '_' then '-' else c)
  | functionMissing p f => "Language module '" ++ p ++ "' does not have function '" ++ f ++ "'"

/-- An extractor. -/
inductive Extractor
  | offside
  | script (languages : List String)
deriving DecidableEq, Repr

namespace Extractor

/-- The languages that the extractor is for. -/
def languages : Extractor → List String
  | offside => ["python"]
  | script ls => ls

/-- Whether the extractor is for a language. -/
def supports (e : Extractor) (language : String) : Bool := e.languages.contains language

/-- How the extractor is shown. -/
def describe (e : Extractor) : String :=
  let name := match e with
    | offside => "PythonAstExtractor"
    | script _ => "TreeSitterExtractor"
  name ++ "(languages=" ++ Text.quotedList e.languages ++ ")"

/-- The extractor for scripts in given languages. -/
def ofScripts (languages : List String) : Except ExtractorError Extractor :=
  match languages.filter fun l => !scriptLanguages.contains l with
  | [] => .ok (script languages)
  | unknown => .error (.unknownLanguages unknown)

/-- What a file declares and uses. A file that cannot be parsed is no failure of the extractor. -/
def extract (e : Extractor) (language file content : String) :
    Except ExtractorError (Except ParseError Extraction) :=
  match e with
  | offside => .ok (Offside.extract file content)
  | script ls =>
    match scriptDialect? language with
    | some d =>
      if ls.contains language then .ok (Script.extract d file content)
      else .error (.cannotExtract e.describe language)
    | none => .error (.cannotExtract e.describe language)

end Extractor

/-- The grammar packages that are absent, and those that lack their functions. -/
structure Installation where
  missing : List String
  hollow : List String
deriving DecidableEq, Repr, Inhabited

/-- Whether there is a grammar for a language. -/
def Installation.grammar (i : Installation) (language : String) : Except ExtractorError Unit :=
  match scriptGrammars.lookup language with
  | none => .error (.unsupportedLanguage language)
  | some (package, function) =>
    if i.missing.contains package then .error (.packageMissing package)
    else if i.hollow.contains package then .error (.functionMissing package function)
    else .ok ()

/-- The extractors by language. -/
abbrev Registry := Table String Extractor

namespace Registry

/-- Registers an extractor for the given languages, or for its own if none are given. -/
def register (r : Registry) (e : Extractor) (languages : List String) : Registry :=
  (if languages.isEmpty then e.languages else languages).foldl (fun r l => r.insert l e) r

/-- The languages that have an extractor, in alphabetical order. -/
def languages (r : Registry) : List String := r.keys.mergeSort fun a b => decide (a ≤ b)

/-- The extractors that come with the library. Scripts are left out where no grammar is installed. -/
def standard (i : Installation) : Registry :=
  let r := register .empty .offside []
  let available := scriptLanguages.filter fun l => (i.grammar l).isOk
  if available.isEmpty then r else r.register (.script scriptLanguages) available

end Registry
end CodeAtlas
