import CodeAtlas.Text.Hexadecimal

/-!
# Percent encoding

Characters that may not stand in a part of a web address are written by their bytes, each as a
percent sign with two hexadecimal digits. The percent sign itself stays.
-/

namespace CodeAtlas.Web

/-- The bytes of a character, written in hexadecimal. -/
def percent (c : Char) : List Char :=
  (String.singleton c).toUTF8.toList.flatMap fun b =>
    '%' :: (Text.hexDigits 2 b.toNat).map Char.toUpper

/-- Writes the characters that are not safe by their bytes. -/
def encode (safe : Char → Bool) (s : String) : String :=
  String.ofList (s.toList.flatMap fun c => if safe c then [c] else percent c)

/-- Whether a character is printable ASCII other than some. -/
def isPlainExcept (others : String) (c : Char) : Bool :=
  0x20 < c.toNat && c.toNat < 0x7f && !others.toList.contains c

/-- The characters that may stand in a path. -/
def isPathChar : Char → Bool := isPlainExcept "\"#<>?\x60\x7b\x7d"

/-- The characters that may stand in a query. -/
def isQueryChar : Char → Bool := isPlainExcept "\"#<>"

/-- The characters that may stand in a fragment. -/
def isFragmentChar : Char → Bool := isPlainExcept "\"<>\x60"

/-- The characters that may stand in the name and password of a user. -/
def isUserChar : Char → Bool := isPlainExcept "\"#<>?\x60\x7b\x7d/;=@[\\]^|"

/-- The characters that may stand in the name of a host. -/
def isHostChar (c : Char) : Bool :=
  c.isAlphanum || "-._~!$&'()*+,;=\"\x60\x7b\x7d%|\\".toList.contains c

end CodeAtlas.Web
