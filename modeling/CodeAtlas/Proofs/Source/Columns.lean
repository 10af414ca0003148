import Mathlib.Order.Bounds.Defs
import CodeAtlas.Proofs.Source.Excerpts

/-!
# Character columns

`Text.encode` gives the bytes of a text in UTF-8, and `Text.decodeLossy` reads bytes and leaves out
those that belong to no character. A cut inside of a character leaves bytes of which none starts one
(`Text.decodeLossy_part`), so what is read of the first bytes of a text are the characters that fit
into them (`Text.decodeLossy_take`).

Hence a byte column of a line becomes the greatest number of characters that take at most so many bytes
(`ColumnMap.column_isGreatest`). That is the number of characters that are read of so many bytes of the
line (`ColumnMap.column_eq_decodeLossy`), also on a line of ASCII characters, where nothing is read.
-/

namespace CodeAtlas

namespace Text

/-! ## Bytes -/

/-- The bytes of a text in UTF-8. -/
def encode (cs : List Char) : List UInt8 := cs.flatMap String.utf8EncodeChar

/-- The character that bytes begin with. -/
def firstChar? (bs : List UInt8) : Option Char := bs.toByteArray.utf8DecodeChar? 0

/-- The text that bytes stand for. A byte at which no character begins is left out. -/
def decodeLossy : List UInt8 → List Char
  | [] => []
  | b :: bs =>
    match firstChar? (b :: bs) with
    | some c => c :: decodeLossy ((b :: bs).drop c.utf8Size)
    | none => decodeLossy bs
termination_by bs => bs.length
decreasing_by
  · have := c.utf8Size_pos
    simp only [List.length_drop, List.length_cons]
    omega
  · simp

theorem encode_cons (c : Char) (cs : List Char) :
    encode (c :: cs) = String.utf8EncodeChar c ++ encode cs := List.flatMap_cons

theorem length_encode (cs : List Char) : (encode cs).length = byteLength cs := by
  induction cs with
  | nil => rfl
  | cons c cs ih =>
    rw [encode_cons, List.length_append, String.length_utf8EncodeChar, ih]
    rfl

/-! ## The first character -/

theorem firstChar?_encode (c : Char) (bs : List UInt8) :
    firstChar? (String.utf8EncodeChar c ++ bs) = some c := by
  rw [firstChar?, List.toByteArray_append, ByteArray.utf8DecodeChar?_utf8EncodeChar_append]

theorem encode_prefix_of_firstChar? {bs : List UInt8} {c : Char} (h : firstChar? bs = some c) :
    String.utf8EncodeChar c <+: bs := by
  obtain ⟨l, hl⟩ := ByteArray.exists_of_utf8DecodeChar?_eq_some h
  refine ⟨l.data.toList, ?_⟩
  have hdata := congrArg (fun b => b.data.toList) hl
  simpa using hdata.symm

/-- A character does not begin with a part of another one. -/
theorem firstChar?_part {c : Char} {n : Nat} (hn : n < c.utf8Size) :
    firstChar? ((String.utf8EncodeChar c).take n) = none := by
  refine Option.eq_none_iff_forall_ne_some.2 fun d hd => ?_
  have hpart : String.utf8EncodeChar d <+: (String.utf8EncodeChar c).take n :=
    encode_prefix_of_firstChar? hd
  obtain ⟨rest, hrest⟩ := hpart.trans (List.take_prefix _ _)
  have hcd : c = d := by
    have hc := firstChar?_encode c []
    rw [List.append_nil, ← hrest, firstChar?_encode] at hc
    exact (Option.some.inj hc).symm
  have hle := hpart.length_le
  rw [String.length_utf8EncodeChar, List.length_take, String.length_utf8EncodeChar, ← hcd] at hle
  omega

/-- No character begins with a byte that continues one. -/
theorem firstChar?_continuation {b : UInt8} {bs : List UInt8} (hb : ¬ b.IsUTF8FirstByte) :
    firstChar? (b :: bs) = none := by
  refine Option.eq_none_iff_forall_ne_some.2 fun c hc => hb ?_
  obtain ⟨rest, hrest⟩ := encode_prefix_of_firstChar? hc
  have hlen : 0 < (String.utf8EncodeChar c).length := by simp [c.utf8Size_pos]
  have hhead : b = (String.utf8EncodeChar c)[0] := by
    have h0 := congrArg (·[0]?) hrest
    rw [List.getElem?_append_left hlen, List.getElem?_eq_getElem hlen] at h0
    exact (Option.some.inj h0).symm
  rw [hhead]
  exact UInt8.isUTF8FirstByte_getElem_zero_utf8EncodeChar

/-! ## Reading -/

theorem decodeLossy_encode_append (c : Char) (bs : List UInt8) :
    decodeLossy (String.utf8EncodeChar c ++ bs) = c :: decodeLossy bs := by
  have hfirst := firstChar?_encode c bs
  have hdrop : (String.utf8EncodeChar c ++ bs).drop c.utf8Size = bs := by
    rw [← String.length_utf8EncodeChar c, List.drop_left]
  cases hbytes : String.utf8EncodeChar c ++ bs with
  | nil =>
    have hlen := congrArg List.length hbytes
    have := c.utf8Size_pos
    simp at hlen
    omega
  | cons b rest =>
    rw [hbytes] at hfirst hdrop
    rw [decodeLossy, hfirst]
    dsimp only
    rw [hdrop]

/-- Nothing is read of bytes that only continue characters. -/
theorem decodeLossy_continuation {bs : List UInt8} (h : ∀ b ∈ bs, ¬ b.IsUTF8FirstByte) :
    decodeLossy bs = [] := by
  induction bs with
  | nil => rw [decodeLossy]
  | cons b bs ih =>
    rw [decodeLossy, firstChar?_continuation (h b List.mem_cons_self)]
    exact ih fun b' hb' => h b' (List.mem_cons_of_mem b hb')

/-- Nothing is read of a character that is cut off. -/
theorem decodeLossy_part {c : Char} {n : Nat} (hn : n < c.utf8Size) :
    decodeLossy ((String.utf8EncodeChar c).take n) = [] := by
  have hfirst := firstChar?_part hn
  -- All bytes but the first of a character continue it.
  have hrest : ∀ b ∈ ((String.utf8EncodeChar c).take n).tail, ¬ b.IsUTF8FirstByte := by
    intro b hb
    rw [← List.drop_one, List.mem_iff_getElem] at hb
    obtain ⟨i, hi, rfl⟩ := hb
    rw [List.getElem_drop, List.getElem_take, UInt8.isUTF8FirstByte_getElem_utf8EncodeChar]
    omega
  cases hbytes : (String.utf8EncodeChar c).take n with
  | nil => rw [decodeLossy]
  | cons b bs =>
    rw [hbytes] at hfirst hrest
    rw [decodeLossy, hfirst]
    exact decodeLossy_continuation hrest

/-- Of the first bytes of a text the characters are read that fit into them. -/
theorem decodeLossy_take (cs : List Char) (n : Nat) :
    decodeLossy ((encode cs).take n) = cs.take (charsWithin cs n) := by
  induction cs generalizing n with
  | nil =>
    rw [show encode [] = [] from rfl, List.take_nil, List.take_nil, decodeLossy]
  | cons c cs ih =>
    rw [encode_cons, List.take_append, String.length_utf8EncodeChar, charsWithin]
    split
    · next hfits =>
      rw [List.take_of_length_le (by rw [String.length_utf8EncodeChar]; exact hfits),
        decodeLossy_encode_append, ih, List.take_succ_cons]
    · next hcut =>
      have hn : n < c.utf8Size := Nat.lt_of_not_le hcut
      rw [Nat.sub_eq_zero_of_le hn.le, List.take_zero, List.append_nil, decodeLossy_part hn,
        List.take_zero]

/-! ## Characters that fit -/

theorem byteLength_cons (c : Char) (cs : List Char) :
    byteLength (c :: cs) = c.utf8Size + byteLength cs := rfl

theorem charsWithin_le_length (cs : List Char) (b : Nat) : charsWithin cs b ≤ cs.length := by
  induction cs generalizing b with
  | nil => exact Nat.le_refl 0
  | cons c cs ih =>
    rw [charsWithin]
    split
    · exact Nat.succ_le_succ (ih _)
    · exact Nat.zero_le _

/-- Characters fit if the bytes that they take are not too many. -/
theorem le_charsWithin_iff {cs : List Char} {k b : Nat} (hk : k ≤ cs.length) :
    k ≤ charsWithin cs b ↔ byteLength (cs.take k) ≤ b := by
  induction cs generalizing k b with
  | nil =>
    obtain rfl : k = 0 := Nat.le_zero.1 hk
    simp [byteLength]
  | cons c cs ih =>
    cases k with
    | zero => simp [byteLength]
    | succ k =>
      rw [List.take_succ_cons, byteLength_cons, charsWithin]
      split
      · next hfits =>
        rw [Nat.add_le_add_iff_right, ih (Nat.le_of_succ_le_succ hk)]
        omega
      · next hcut => omega

theorem charsWithin_isGreatest (cs : List Char) (b : Nat) :
    IsGreatest {k | k ≤ cs.length ∧ (encode (cs.take k)).length ≤ b} (charsWithin cs b) := by
  have hle := charsWithin_le_length cs b
  simp only [length_encode]
  refine ⟨⟨hle, (le_charsWithin_iff hle).1 (Nat.le_refl _)⟩, ?_⟩
  rintro k ⟨hk, hbytes⟩
  exact (le_charsWithin_iff hk).2 hbytes

theorem charsWithin_mono (cs : List Char) {b b' : Nat} (h : b ≤ b') :
    charsWithin cs b ≤ charsWithin cs b' := by
  have hle := charsWithin_le_length cs b
  exact (le_charsWithin_iff hle).2 (((le_charsWithin_iff hle).1 (Nat.le_refl _)).trans h)

theorem charsWithin_encode_take {cs : List Char} {k : Nat} (hk : k ≤ cs.length) :
    charsWithin cs (encode (cs.take k)).length = k := by
  have hfit := charsWithin_byteLength (cs.take k) (cs.drop k)
  rwa [List.take_append_drop, List.length_take_of_le hk, ← length_encode] at hfit

theorem charsWithin_of_isAscii {cs : List Char} (h : isAscii cs = true) {b : Nat}
    (hb : b ≤ cs.length) : charsWithin cs b = b := by
  have hsplit : isAscii (cs.take b ++ cs.drop b) = true := by rwa [List.take_append_drop]
  have hfit := charsWithin_encode_take hb
  rwa [length_encode, byteLength_of_isAscii hsplit, List.length_take_of_le hb] at hfit

/-- More bytes than a text has are as good as all of its bytes. -/
theorem charsWithin_min (cs : List Char) (b : Nat) :
    charsWithin cs (min b (byteLength cs)) = charsWithin cs b := by
  rcases Nat.le_total b (byteLength cs) with h | h
  · rw [Nat.min_eq_left h]
  · have hall : byteLength (cs.take cs.length) ≤ byteLength cs := by rw [List.take_length]
    have hle := Nat.le_refl cs.length
    rw [Nat.min_eq_right h]
    refine Nat.le_antisymm (charsWithin_mono cs h) ?_
    exact (charsWithin_le_length cs b).trans ((le_charsWithin_iff hle).2 hall)

/-- What is read of bytes up to a signed index, which counts from the end if it is negative. -/
theorem length_decodeLossy_cutTo (cs : List Char) (b : Int) :
    (decodeLossy (cutTo (encode cs) b)).length =
      charsWithin cs (if b < 0 then b + byteLength cs else b).toNat := by
  rw [cutTo, decodeLossy_take, List.length_take_of_le (charsWithin_le_length _ _), length_encode,
    placeOf]
  split
  · rfl
  · exact charsWithin_min cs b.toNat

end Text

namespace ColumnMap

open Text

variable {content t : List Char} {line : Nat}

theorem lines_ofText (content : List Char) (line : Nat) :
    (ofText content).lines[line]? = ((Text.lines content).map lineText)[line]? :=
  List.getElem?_toArray

theorem column_ascii (ht : ((Text.lines content).map lineText)[line]? = some t) (h : isAscii t = true)
    (b : Int) : (ofText content).column line b = b := by
  rw [column, if_neg (by omega), Int.toNat_natCast, lines_ofText, ht]
  exact if_pos h

/-- On a line with other than ASCII characters a byte column becomes the number of characters that are
read of the bytes up to it. -/
theorem column_decoded (ht : ((Text.lines content).map lineText)[line]? = some t)
    (h : isAscii t = false) (b : Int) :
    (ofText content).column line b = (decodeLossy (cutTo (encode t) b)).length := by
  rw [column, if_neg (by omega), Int.toNat_natCast, lines_ofText, ht, length_decodeLossy_cutTo]
  dsimp only
  rw [h, if_neg (by simp)]
  split <;> rfl

theorem column_eq_charsWithin (ht : ((Text.lines content).map lineText)[line]? = some t) {b : Nat}
    (hb : b ≤ (encode t).length) : (ofText content).column line b = charsWithin t b := by
  cases h : isAscii t with
  | false => rw [column_decoded ht h, length_decodeLossy_cutTo, if_neg (by omega), Int.toNat_natCast]
  | true =>
    have hascii : isAscii (t ++ []) = true := by rwa [List.append_nil]
    have hlen : (encode t).length = t.length := by
      rw [length_encode, byteLength_of_isAscii hascii]
    rw [column_ascii ht h, charsWithin_of_isAscii h (hlen ▸ hb)]

/-- The character column of a byte column within a line is the number of characters that are read of
the bytes up to it, whether or not the line is made of ASCII characters only. -/
theorem column_eq_decodeLossy (ht : ((Text.lines content).map lineText)[line]? = some t) {b : Nat}
    (hb : b ≤ (encode t).length) :
    (ofText content).column line b = (decodeLossy (cutTo (encode t) b)).length := by
  rw [column_eq_charsWithin ht hb, length_decodeLossy_cutTo, if_neg (by omega), Int.toNat_natCast]

/-- A byte column within a line becomes the greatest number of characters of the line that take at most
so many bytes. So it becomes the exact column where a character ends, a later one becomes no earlier
one, and none lies beyond the end of the line. It is found by reading the bytes up to it; on a line of
ASCII characters it stays as it is, which is what reading would give. -/
theorem column_isGreatest (content : List Char) (line : Nat) (t : List Char)
    (ht : ((Text.lines content).map lineText)[line]? = some t) :
    let column (b : Nat) : Int := (ofText content).column line b
    let decoded (b : Nat) : Nat := (decodeLossy (cutTo (encode t) b)).length
    (∀ b ≤ (encode t).length, ∃ k : Nat, column b = k ∧
        IsGreatest {k | k ≤ t.length ∧ (encode (t.take k)).length ≤ b} k) ∧
      (∀ k ≤ t.length, column (encode (t.take k)).length = k) ∧
      (∀ b b', b ≤ b' → b' ≤ (encode t).length → column b ≤ column b') ∧
      (∀ b ≤ (encode t).length, column b ≤ t.length) ∧
      (∀ b ≤ (encode t).length, column b = decoded b ∧ (isAscii t = true → decoded b = b)) := by
  intro column decoded
  have hcolumn : ∀ b ≤ (encode t).length, column b = charsWithin t b :=
    fun b hb => column_eq_charsWithin ht hb
  have hdecoded : ∀ b ≤ (encode t).length, column b = decoded b :=
    fun b hb => column_eq_decodeLossy ht hb
  refine ⟨fun b hb => ?_, fun k hk => ?_, fun b b' hle hb' => ?_, fun b hb => ?_, fun b hb => ?_⟩
  · exact ⟨charsWithin t b, hcolumn b hb, charsWithin_isGreatest t b⟩
  · have hb : (encode (t.take k)).length ≤ (encode t).length := by
      rw [← List.take_append_drop k t, length_encode, length_encode, byteLength_append]
      simp
    rw [hcolumn _ hb, charsWithin_encode_take hk]
  · rw [hcolumn b (hle.trans hb'), hcolumn b' hb']
    exact Int.ofNat_le.2 (charsWithin_mono t hle)
  · rw [hcolumn b hb]
    exact Int.ofNat_le.2 (charsWithin_le_length t b)
  · refine ⟨hdecoded b hb, fun hascii => ?_⟩
    have hsame : column b = b := column_ascii ht hascii b
    exact Int.ofNat_inj.1 ((hdecoded b hb).symm.trans hsame)

/-- A cut in the last character of a line, which takes four bytes. -/
theorem column_within_character :
    let content := ['a', 'é', '😀', '\r', '\n', 'b']
    let t := ['a', 'é', '😀']
    ((Text.lines content).map lineText)[0]? = some t ∧ 5 ≤ (encode t).length ∧
      ∃ k : Nat, (ofText content).column 0 5 = k ∧
        IsGreatest {k | k ≤ t.length ∧ (encode (t.take k)).length ≤ 5} k := by
  intro content t
  have ht : ((Text.lines content).map lineText)[0]? = some t := by decide
  have hb : 5 ≤ (encode t).length := by decide
  exact ⟨ht, hb, (column_isGreatest content 0 t ht).1 5 hb⟩

end ColumnMap
end CodeAtlas
