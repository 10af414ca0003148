/-!
# Lines of a text

A text breaks at line feeds, carriage returns (a carriage return and the line feed after it are
one break), vertical tabs, form feeds, the separators U+001C to U+001E, the next-line character
and the Unicode line and paragraph separators.

`lines` keeps each terminator with its line, so that nothing is lost (`flatten_lines`).
-/

namespace CodeAtlas.Text

/-- The characters that end a line. -/
def isLineBreak (c : Char) : Bool :=
  c = '\n' || c = '\r' || c = '\x0b' || c = '\x0c' || c = '\x1c' || c = '\x1d' || c = '\x1e' ||
    c = '\u0085' || c = '\u2028' || c = '\u2029'

/-- Puts a character in front of a text that is broken into lines already. -/
def consChar (c : Char) : List (List Char) → List (List Char)
  | [] => [[c]]
  | l :: ls =>
    if isLineBreak c && !(c = '\r' && l.head? = some '\n') then [c] :: l :: ls else (c :: l) :: ls

/-- The lines of a text, each with its terminator. -/
def lines (cs : List Char) : List (List Char) := cs.foldr consChar []

/-- A line without its terminator. -/
def lineText (line : List Char) : List Char := line.takeWhile fun c => !isLineBreak c

theorem flatten_consChar (c : Char) (ls : List (List Char)) :
    (consChar c ls).flatten = c :: ls.flatten := by
  cases ls with
  | nil => simp [consChar]
  | cons l ls => simp only [consChar]; split <;> simp

/-- The lines of a text, one after the other, are the text. -/
theorem flatten_lines (cs : List Char) : (lines cs).flatten = cs := by
  induction cs with
  | nil => rfl
  | cons c cs ih =>
    rw [show lines (c :: cs) = consChar c (lines cs) from rfl, flatten_consChar, ih]

theorem ne_nil_of_mem_consChar {c : Char} {ls : List (List Char)} (h : ∀ l ∈ ls, l ≠ []) :
    ∀ l ∈ consChar c ls, l ≠ [] := by
  cases ls with
  | nil => simp [consChar]
  | cons m ms =>
    simp only [consChar]
    split <;> simp_all

/-- No line is empty: each holds at least its terminator. -/
theorem ne_nil_of_mem_lines {cs : List Char} : ∀ l ∈ lines cs, l ≠ [] := by
  induction cs with
  | nil => simp [lines]
  | cons c cs ih => exact ne_nil_of_mem_consChar ih

end CodeAtlas.Text
