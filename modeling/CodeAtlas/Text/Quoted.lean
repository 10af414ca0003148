import CodeAtlas.Text.Hexadecimal
import CodeAtlas.Text.Printable

/-!
# Quoted texts

A text is quoted with apostrophes, or with quotation marks if it holds an apostrophe and no quotation
mark. The quote in use and the backslash are escaped by a backslash, line feed, carriage return and
tab have escapes of their own, and characters that are not printable are written by their number in
hexadecimal, with two, four or eight digits.
-/

namespace CodeAtlas.Text

/-- The form of a character between quotes. -/
def quotedChar (quote c : Char) : List Char :=
  if c = quote || c = '\\' then ['\\', c]
  else if c = '\n' then ['\\', 'n']
  else if c = '\r' then ['\\', 'r']
  else if c = '\t' then ['\\', 't']
  else if isPrintable c then [c]
  else if c.toNat < 0x100 then '\\' :: 'x' :: hexDigits 2 c.toNat
  else if c.toNat < 0x10000 then '\\' :: 'u' :: hexDigits 4 c.toNat
  else '\\' :: 'U' :: hexDigits 8 c.toNat

/-- The quote that a text is put into. -/
def quoteFor (cs : List Char) : Char :=
  if cs.contains '\x27' && !cs.contains '"' then '"' else '\x27'

/-- The text in quotes. -/
def quoted (s : String) : String :=
  let cs := s.toList
  let q := quoteFor cs
  String.ofList (q :: cs.flatMap (quotedChar q) ++ [q])

/-- Quoted texts in brackets. -/
def quotedList (ss : List String) : String := "[" ++ ", ".intercalate (ss.map quoted) ++ "]"

end CodeAtlas.Text
