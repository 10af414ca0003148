import CodeAtlas.Files.Path

/-!
# Languages of files

A file's language is told by its suffix, without regard to case.
-/

namespace CodeAtlas

/-- The languages of suffixes, which start with a dot. -/
def suffixLanguages : List (String × String) :=
  [(".py", "python"), (".pyw", "python"), (".js", "javascript"), (".jsx", "javascript"),
   (".mjs", "javascript"), (".cjs", "javascript"), (".ts", "typescript"), (".mts", "typescript"),
   (".cts", "typescript"), (".tsx", "tsx"), (".go", "go"), (".rs", "rust"), (".java", "java"),
   (".kt", "kotlin"), (".scala", "scala"), (".rb", "ruby"), (".php", "php"), (".cs", "csharp"),
   (".vb", "vb"), (".c", "c"), (".h", "c"), (".cpp", "cpp"), (".cc", "cpp"), (".hpp", "cpp"),
   (".swift", "swift"), (".dart", "dart"), (".sh", "bash"), (".sql", "sql"), (".json", "json"),
   (".yaml", "yaml"), (".yml", "yaml"), (".toml", "toml"), (".md", "markdown"), (".html", "html"),
   (".css", "css")]

/-- The language of a suffix in lower case. -/
def languageOfSuffix? (suffix : String) : Option String := suffixLanguages.lookup suffix

/-- The language of files that are not known to be in any other. -/
def plainText : String := "plaintext"

/-- The language of a file, by its suffix. -/
def Path.language (p : Path) (fallback : String := plainText) : String :=
  (languageOfSuffix? p.lowerSuffix).getD fallback

end CodeAtlas
