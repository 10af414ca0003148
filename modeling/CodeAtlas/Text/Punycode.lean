/-!
# Punycode

A text is written in ASCII letters and digits: its ASCII characters come first, and behind a hyphen
the others in the order of their code points, each by how many places it comes after the one before,
counted through all places of the text so far for every code point. These distances are written in
base thirty-six with the lowest place first; from a threshold on, which adapts itself to the
distances, a digit says that another one follows.
-/

namespace CodeAtlas.Text.Punycode

/-- The character for a digit in base thirty-six. -/
def digitChar (d : Nat) : Char :=
  Char.ofNat (if d < 26 then 'a'.toNat + d else '0'.toNat + (d - 26))

/-- The least digit behind which another one follows, at a place. -/
def threshold (place bias : Nat) : Nat := max 1 (min 26 (place - bias))

/-- Writes a distance, from a place on. -/
def digits (bias place n : Nat) : List Char :=
  let t := threshold place bias
  if n < t then [digitChar n]
  else digitChar (t + (n - t) % (36 - t)) :: digits bias (place + 36) ((n - t) / (36 - t))
termination_by n
decreasing_by
  have h : 1 ≤ threshold place bias := Nat.le_max_left ..
  exact Nat.lt_of_le_of_lt (Nat.div_le_self ..) (by omega)

/-- Scales a distance down, counting the places for that. -/
def scaleDown (n places : Nat) : Nat × Nat :=
  if 455 < n then scaleDown (n / 35) (places + 36) else (n, places)
termination_by n
decreasing_by exact Nat.div_lt_self (by omega) (by omega)

/-- The bias behind a distance, in a text of so many characters. -/
def adapt (n count : Nat) (isFirst : Bool) : Nat :=
  let n := if isFirst then n / 700 else n / 2
  let (n, places) := scaleDown (n + n / count) 0
  places + 36 * n / (n + 38)

/-- A text that is being written. -/
structure Writer where
  /-- The code point from which on characters are to be written. -/
  next : Nat := 128
  distance : Nat := 0
  bias : Nat := 72
  /-- How many characters are written. -/
  count : Nat
  /-- What is written, from the last character on. -/
  written : List Char := []

/-- Passes a character of the text, on the way to those with a code point; `ascii` characters were
written before. -/
def Writer.pass (codePoint ascii : Nat) (w : Writer) (c : Char) : Writer :=
  if c.toNat < codePoint then { w with distance := w.distance + 1 }
  else if c.toNat = codePoint then
    { w with
      written := (digits w.bias 36 w.distance).reverse ++ w.written
      bias := adapt w.distance (w.count + 1) (w.count = ascii)
      distance := 0
      count := w.count + 1 }
  else w

/-- Writes the characters with a code point. -/
def Writer.write (cs : List Char) (ascii : Nat) (w : Writer) (codePoint : Nat) : Writer :=
  let distance := w.distance + (codePoint - w.next) * (w.count + 1)
  let w := cs.foldl (pass codePoint ascii) { w with distance }
  { w with next := codePoint + 1, distance := w.distance + 1 }

/-- Writes a text. -/
def encode (cs : List Char) : List Char :=
  let ascii := cs.filter fun c => c.toNat < 128
  let others := ((cs.map Char.toNat).filter (128 ≤ ·)).mergeSort.eraseDups
  let w := others.foldl (Writer.write cs ascii.length) { count := ascii.length }
  ascii ++ (if ascii = [] then [] else ['-']) ++ w.written.reverse

end CodeAtlas.Text.Punycode
