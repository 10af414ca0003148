import CodeAtlas.Text.Quoted

/-!
# Digests of contents

The digest of a text is the 256-bit secure hash of its UTF-8 bytes, written in hexadecimal. The bytes
are followed by a single bit, zeros, and the length in bits, so that they fill blocks of sixteen
32-bit words; each block is mixed into a state of eight words in 64 rounds.
-/

namespace CodeAtlas.Digest

/-- The state of eight words. -/
structure State where
  a : UInt32
  b : UInt32
  c : UInt32
  d : UInt32
  e : UInt32
  f : UInt32
  g : UInt32
  h : UInt32
deriving DecidableEq, Repr

/-- The state before the first block. -/
def start : State :=
  ⟨0x6a09e667, 0xbb67ae85, 0x3c6ef372, 0xa54ff53a, 0x510e527f, 0x9b05688c, 0x1f83d9ab, 0x5be0cd19⟩

/-- One constant for each round. -/
def roundConstants : List UInt32 :=
  [0x428a2f98, 0x71374491, 0xb5c0fbcf, 0xe9b5dba5, 0x3956c25b, 0x59f111f1, 0x923f82a4, 0xab1c5ed5,
   0xd807aa98, 0x12835b01, 0x243185be, 0x550c7dc3, 0x72be5d74, 0x80deb1fe, 0x9bdc06a7, 0xc19bf174,
   0xe49b69c1, 0xefbe4786, 0x0fc19dc6, 0x240ca1cc, 0x2de92c6f, 0x4a7484aa, 0x5cb0a9dc, 0x76f988da,
   0x983e5152, 0xa831c66d, 0xb00327c8, 0xbf597fc7, 0xc6e00bf3, 0xd5a79147, 0x06ca6351, 0x14292967,
   0x27b70a85, 0x2e1b2138, 0x4d2c6dfc, 0x53380d13, 0x650a7354, 0x766a0abb, 0x81c2c92e, 0x92722c85,
   0xa2bfe8a1, 0xa81a664b, 0xc24b8b70, 0xc76c51a3, 0xd192e819, 0xd6990624, 0xf40e3585, 0x106aa070,
   0x19a4c116, 0x1e376c08, 0x2748774c, 0x34b0bcb5, 0x391c0cb3, 0x4ed8aa4a, 0x5b9cca4f, 0x682e6ff3,
   0x748f82ee, 0x78a5636f, 0x84c87814, 0x8cc70208, 0x90befffa, 0xa4506ceb, 0xbef9a3f7, 0xc67178f2]

/-- Moves bits to the right, those that fall out come in on the left. -/
def rotate (x n : UInt32) : UInt32 := (x >>> n) ||| (x <<< (32 - n))

/-- One round, with the constant and the word of the round added up. -/
def State.mix (s : State) (kw : UInt32) : State :=
  let big := rotate s.e 6 ^^^ rotate s.e 11 ^^^ rotate s.e 25
  let choice := (s.e &&& s.f) ^^^ ((~~~ s.e) &&& s.g)
  let t := s.h + big + choice + kw
  let small := rotate s.a 2 ^^^ rotate s.a 13 ^^^ rotate s.a 22
  let majority := (s.a &&& s.b) ^^^ (s.a &&& s.c) ^^^ (s.b &&& s.c)
  ⟨t + (small + majority), s.a, s.b, s.c, s.d + t, s.e, s.f, s.g⟩

/-- Adds two states word by word. -/
def State.add (s t : State) : State :=
  ⟨s.a + t.a, s.b + t.b, s.c + t.c, s.d + t.d, s.e + t.e, s.f + t.f, s.g + t.g, s.h + t.h⟩

/-- The next word of the schedule, from the words so far, the latest first. -/
def nextWord (latestFirst : List UInt32) : UInt32 :=
  let at' (i : Nat) := (latestFirst[i]?).getD 0
  let x := at' 14
  let y := at' 1
  at' 15 + (rotate x 7 ^^^ rotate x 18 ^^^ (x >>> 3)) + at' 6 +
    (rotate y 17 ^^^ rotate y 19 ^^^ (y >>> 10))

/-- Appends `n` words to a schedule, the latest first. -/
def extendSchedule (latestFirst : List UInt32) : Nat → List UInt32
  | 0 => latestFirst
  | n + 1 => extendSchedule (nextWord latestFirst :: latestFirst) n

/-- Mixes a block of sixteen words into the state. -/
def State.absorb (s : State) (block : List UInt32) : State :=
  let words := (extendSchedule block.reverse 48).reverse
  s.add ((List.zipWith (· + ·) roundConstants words).foldl State.mix s)

/-- Groups of four bytes as words, the highest byte first. -/
def wordsOf : List UInt8 → List UInt32
  | a :: b :: c :: d :: rest =>
    ((a.toUInt32 <<< 24) ||| (b.toUInt32 <<< 16) ||| (c.toUInt32 <<< 8) ||| d.toUInt32) ::
      wordsOf rest
  | _ => []

/-- The bytes of a number in base 256, `n` of them. -/
def bytesOf (x : Nat) : Nat → List UInt8
  | 0 => []
  | n + 1 => bytesOf (x / 256) n ++ [(x % 256).toUInt8]

/-- The bytes filled up to whole blocks. -/
def padded (bytes : List UInt8) : List UInt8 :=
  let n := bytes.length
  bytes ++ 0x80 :: List.replicate ((55 + 64 * 64 - n % 64) % 64) 0 ++ bytesOf (8 * n) 8

/-- Absorbs the blocks of a list of words. -/
def absorbAll (s : State) (words : List UInt32) : State :=
  match words with
  | [] => s
  | w :: ws => absorbAll (s.absorb ((w :: ws).take 16)) ((w :: ws).drop 16)
termination_by words.length
decreasing_by simp only [List.drop_succ_cons, List.length_drop, List.length_cons]; omega

/-- The state after all bytes. -/
def ofBytes (bytes : List UInt8) : State := absorbAll start (wordsOf (padded bytes))

/-- The state in hexadecimal. -/
def State.text (s : State) : String :=
  String.ofList ([s.a, s.b, s.c, s.d, s.e, s.f, s.g, s.h].flatMap fun w =>
    Text.hexDigits 8 w.toNat)

/-- The digest of a text. -/
def ofText (s : String) : String := (ofBytes s.toUTF8.toList).text

end CodeAtlas.Digest
