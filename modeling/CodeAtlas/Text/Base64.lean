/-!
# Base 64

Bytes are written in groups of four characters for three bytes, the last group filled up with equals
signs. Characters that mean nothing are passed over.
-/

namespace CodeAtlas.Text.Base64

/-- The value of a character. -/
def digit? (c : Char) : Option Nat :=
  if 'A' ≤ c ∧ c ≤ 'Z' then some (c.toNat - 'A'.toNat)
  else if 'a' ≤ c ∧ c ≤ 'z' then some (c.toNat - 'a'.toNat + 26)
  else if '0' ≤ c ∧ c ≤ '9' then some (c.toNat - '0'.toNat + 52)
  else if c = '+' then some 62
  else if c = '/' then some 63
  else none

/-- The bytes of a group of characters, which may be cut short. -/
def bytes : List Nat → List UInt8
  | a :: b :: c :: [d] =>
    [(4 * a + b / 16).toUInt8, (b % 16 * 16 + c / 4).toUInt8, (c % 4 * 64 + d).toUInt8]
  | a :: b :: [c] => [(4 * a + b / 16).toUInt8, (b % 16 * 16 + c / 4).toUInt8]
  | [a, b] => [(4 * a + b / 16).toUInt8]
  | _ => []

/-- Reads bytes; `group` are the values of the present group, and `pads` the number of equals signs
behind them. The text ends where a group is full, be it by equals signs. -/
def decodeFrom (group : List Nat) (pads : Nat) : List Char → Option (List UInt8)
  | [] => if group = [] then some [] else none
  | c :: cs =>
    if c = '=' then
      if 2 ≤ group.length then
        if 4 ≤ group.length + (pads + 1) then some (bytes group)
        else decodeFrom group (pads + 1) cs
      else decodeFrom group pads cs
    else match digit? c with
      | none => decodeFrom group pads cs
      | some d =>
        let group := group ++ [d]
        if group.length = 4 then (decodeFrom [] 0 cs).map (bytes group ++ ·)
        else decodeFrom group 0 cs

/-- The bytes that a text stands for. -/
def decode? (cs : List Char) : Option (List UInt8) := decodeFrom [] 0 cs

end CodeAtlas.Text.Base64
