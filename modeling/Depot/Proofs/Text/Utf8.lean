import Depot.Text.Utf8

/-!
# Text and its bytes

Reading the bytes of a text gives the text back (`decode_encode`), character by character: the bytes of a
character in front of anything are read as that character (`decode_encodeChar_append`).  There are four
cases, one for each number of bytes; in each of them the payload bits are put together again.
-/

namespace Depot.Utf8

theorem toNat_byte {n : Nat} (h : n < 256) : (byte n).toNat = n := by
  simp only [byte, UInt8.toNat_ofNat']
  omega

theorem scalar_toNat {least : Nat} {c : Char} (h : least ≤ c.toNat) :
    scalar least c.toNat = some c := by
  have valid : c.toNat.isValidChar := c.valid
  rw [scalar, dif_pos valid, if_pos h]
  congr 1

theorem tail_byte {n : Nat} (h : n < 64) : tail (byte (0x80 + n)) = some n := by
  have value : (byte (0x80 + n)).toNat = 0x80 + n := toNat_byte (by omega)
  rw [tail, value, if_pos (by omega), Nat.add_sub_cancel_left]

theorem toNat_lt (c : Char) : c.toNat < 0x110000 := by
  have := c.valid
  simp only [UInt32.isValidChar, Nat.isValidChar] at this
  show c.val.toNat < 0x110000
  omega

/-! ### The payload of several bytes -/

section Payload

variable {a b c d : UInt8} {i j k l : Nat}

theorem pair_eq (ha : a.toNat = 0xC0 + i) (hb : tail b = some j) :
    pair a b = scalar 0x80 (i * 64 + j) := by
  show (tail b).bind (fun b => scalar 0x80 ((a.toNat - 0xC0) * 64 + b)) = _
  rw [hb, Option.bind_some, ha, Nat.add_sub_cancel_left]

theorem triple_eq (ha : a.toNat = 0xE0 + i) (hb : tail b = some j) (hc : tail c = some k) :
    triple a b c = scalar 0x800 (i * 4096 + j * 64 + k) := by
  show (tail b).bind (fun b => (tail c).bind fun c =>
    scalar 0x800 ((a.toNat - 0xE0) * 4096 + b * 64 + c)) = _
  rw [hb, Option.bind_some, hc, Option.bind_some, ha, Nat.add_sub_cancel_left]

theorem quadruple_eq (ha : a.toNat = 0xF0 + i) (hb : tail b = some j) (hc : tail c = some k)
    (hd : tail d = some l) :
    quadruple a b c d = scalar 0x10000 (i * 262144 + j * 4096 + k * 64 + l) := by
  show (tail b).bind (fun b => (tail c).bind fun c => (tail d).bind fun d =>
    scalar 0x10000 ((a.toNat - 0xF0) * 262144 + b * 4096 + c * 64 + d)) = _
  rw [hb, Option.bind_some, hc, Option.bind_some, hd, Option.bind_some, ha, Nat.add_sub_cancel_left]

end Payload

/-! ### Reading what was written -/

/-- The bytes of a character are read as that character, whatever follows. -/
theorem decode_encodeChar_append (c : Char) (rest : Bytes) :
    decode (encodeChar c ++ rest) = (decode rest).map (c :: ·) := by
  have bound : c.toNat < 0x110000 := toNat_lt c
  have low : tail (byte (0x80 + c.toNat % 64)) = some (c.toNat % 64) := tail_byte (by omega)
  have middle : tail (byte (0x80 + c.toNat / 64 % 64)) = some (c.toNat / 64 % 64) :=
    tail_byte (by omega)
  have high : tail (byte (0x80 + c.toNat / 4096 % 64)) = some (c.toNat / 4096 % 64) :=
    tail_byte (by omega)
  rw [encodeChar]
  split
  · -- one byte
    have lead : (byte c.toNat).toNat = c.toNat := toNat_byte (by omega)
    show decode (byte c.toNat :: rest) = _
    rw [decode.eq_def]
    simp only [lead, Char.ofNat_toNat]
    rw [if_pos (by omega)]
  split
  · -- two bytes
    have lead : (byte (0xC0 + c.toNat / 64)).toNat = 0xC0 + c.toNat / 64 := toNat_byte (by omega)
    have made : pair (byte (0xC0 + c.toNat / 64)) (byte (0x80 + c.toNat % 64)) = some c := by
      rw [pair_eq lead low, show c.toNat / 64 * 64 + c.toNat % 64 = c.toNat by omega]
      exact scalar_toNat (by omega)
    simp only [List.cons_append, List.nil_append]
    rw [decode.eq_def]
    simp only [lead]
    rw [if_neg (by omega), if_neg (by omega), if_pos (by omega), made, Option.bind_some]
  split
  · -- three bytes
    have lead : (byte (0xE0 + c.toNat / 4096)).toNat = 0xE0 + c.toNat / 4096 :=
      toNat_byte (by omega)
    have made : triple (byte (0xE0 + c.toNat / 4096)) (byte (0x80 + c.toNat / 64 % 64))
        (byte (0x80 + c.toNat % 64)) = some c := by
      rw [triple_eq lead middle low, show c.toNat / 4096 * 4096 + c.toNat / 64 % 64 * 64
        + c.toNat % 64 = c.toNat by omega]
      exact scalar_toNat (by omega)
    simp only [List.cons_append, List.nil_append]
    rw [decode.eq_def]
    simp only [lead]
    rw [if_neg (by omega), if_neg (by omega), if_neg (by omega), if_pos (by omega), made,
      Option.bind_some]
  · -- four bytes
    have lead : (byte (0xF0 + c.toNat / 262144)).toNat = 0xF0 + c.toNat / 262144 :=
      toNat_byte (by omega)
    have made : quadruple (byte (0xF0 + c.toNat / 262144)) (byte (0x80 + c.toNat / 4096 % 64))
        (byte (0x80 + c.toNat / 64 % 64)) (byte (0x80 + c.toNat % 64)) = some c := by
      rw [quadruple_eq lead high middle low, show c.toNat / 262144 * 262144
        + c.toNat / 4096 % 64 * 4096 + c.toNat / 64 % 64 * 64 + c.toNat % 64 = c.toNat by omega]
      exact scalar_toNat (by omega)
    simp only [List.cons_append, List.nil_append]
    rw [decode.eq_def]
    simp only [lead]
    rw [if_neg (by omega), if_neg (by omega), if_neg (by omega), if_neg (by omega),
      if_pos (by omega), made, Option.bind_some]

@[simp] theorem encode_nil : encode [] = [] := rfl

@[simp] theorem encode_cons (c : Char) (text : List Char) :
    encode (c :: text) = encodeChar c ++ encode text := rfl

@[simp] theorem encode_append (front back : List Char) :
    encode (front ++ back) = encode front ++ encode back := by
  simp [encode]

/-- **The bytes of a text are read as that text.** -/
theorem decode_encode (text : List Char) : decode (encode text) = some text := by
  induction text with
  | nil => rfl
  | cons c rest ih => rw [encode_cons, decode_encodeChar_append, ih, Option.map_some]

@[simp] theorem toString?_ofString (s : String) : toString? (ofString s) = some s := by
  rw [toString?, ofString, decode_encode, Option.map_some, String.ofList_toList]

/-- A character of the first half of the bytes is written as itself. -/
theorem encodeChar_ascii {c : Char} (h : c.toNat < 0x80) : encodeChar c = [byte c.toNat] := by
  rw [encodeChar, if_pos h]

/-- All other characters are written in bytes of the second half. -/
theorem le_toNat_of_mem_encodeChar {c : Char} (h : ¬ c.toNat < 0x80) {b : UInt8}
    (hb : b ∈ encodeChar c) : 0x80 ≤ b.toNat := by
  have bound : c.toNat < 0x110000 := toNat_lt c
  rw [encodeChar, if_neg h] at hb
  split at hb
  · simp only [List.mem_cons, List.not_mem_nil, or_false] at hb
    rcases hb with rfl | rfl <;> rw [toNat_byte (by omega)] <;> omega
  split at hb
  · simp only [List.mem_cons, List.not_mem_nil, or_false] at hb
    rcases hb with rfl | rfl | rfl <;> rw [toNat_byte (by omega)] <;> omega
  · simp only [List.mem_cons, List.not_mem_nil, or_false] at hb
    rcases hb with rfl | rfl | rfl | rfl <;> rw [toNat_byte (by omega)] <;> omega

end Depot.Utf8
