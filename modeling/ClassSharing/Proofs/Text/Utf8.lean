import ClassSharing.Text.Utf8
import Mathlib

/-!
# Decoding undoes encoding

Every text is encoded as bytes that are decoded as this text (`decode_encode`). The bytes of one
character are read in one step (`decodeFrom_encodeChar_append`), by the number of bytes that the
character has.
-/

namespace ClassSharing.Text.Utf8

/-! ### Bytes -/

/-- A number below 256 is kept by its byte. -/
lemma toNat_toUInt8 {k : Nat} (h : k < 256) : k.toUInt8.toNat = k := by
  simp [Nat.toUInt8, Nat.mod_eq_of_lt h]

/-- A byte of the form `10xxxxxx`, by its number. -/
lemma isTail_iff {b : UInt8} : isTail b = true ↔ 0x80 ≤ b.toNat ∧ b.toNat ≤ 0xbf := by
  simp [isTail, UInt8.le_iff_toNat_le]

/-- The byte of the last six bits of a number, in front of which stands `10`. -/
lemma toNat_tailByte (k : Nat) : (0x80 + k % 64).toUInt8.toNat = 0x80 + k % 64 :=
  toNat_toUInt8 (by omega)

/-- That byte continues a character. -/
lemma isTail_tailByte (k : Nat) : isTail (0x80 + k % 64).toUInt8 = true := by
  rw [isTail_iff, toNat_tailByte]
  omega

/-- That byte has the six bits. -/
lemma low_tailByte (k : Nat) : low (0x80 + k % 64).toUInt8 = k % 64 := by
  rw [low, toNat_tailByte]
  omega

/-- A second byte continues its first one unless the two begin an overlong form, a surrogate or a
value above U+10FFFF. -/
lemma isSecond_of_isTail {a b : UInt8} (hb : isTail b = true)
    (hshort : a.toNat = 0xe0 → 0xa0 ≤ b.toNat) (hsurrogate : a.toNat = 0xed → b.toNat ≤ 0x9f)
    (hlong : a.toNat = 0xf0 → 0x90 ≤ b.toNat) (hlast : a.toNat = 0xf4 → b.toNat ≤ 0x8f) :
    isSecond a b = true := by
  rw [isTail_iff] at hb
  unfold isSecond
  simp only [beq_iff_eq, ← UInt8.toNat_inj, UInt8.reduceToNat]
  split_ifs <;> simp [UInt8.le_iff_toNat_le, isTail] <;> omega

/-! ### One character -/

section Decode

variable {rest : List UInt8} {text : List Char} {n : Nat} {a b c d : UInt8}

/-- A single byte stands for the character of its number. -/
lemma decodeFrom_one (h : decodeFrom (n + 1) rest = .ok text) (ha : a.toNat < 0x80) :
    decodeFrom n (a :: rest) = .ok (Char.ofNat a.toNat :: text) := by
  have h1 : a < 0x80 := UInt8.lt_iff_toNat_lt.mpr ha
  rw [decodeFrom.eq_def]
  simp only [h1, if_true, h]
  rfl

/-- The character of two bytes. -/
lemma decodeFrom_two (h : decodeFrom (n + 2) rest = .ok text) (ha : 0xc2 ≤ a.toNat)
    (ha' : a.toNat < 0xe0) (hb : isSecond a b = true) :
    decodeFrom n (a :: b :: rest) = .ok (Char.ofNat (a.toNat % 32 * 64 + low b) :: text) := by
  have h1 : ¬ a < 0x80 := by rw [UInt8.lt_iff_toNat_lt]; simp; omega
  have h2 : ¬ a < 0xc2 := by rw [UInt8.lt_iff_toNat_lt]; simp; omega
  have h3 : a < 0xe0 := by rw [UInt8.lt_iff_toNat_lt]; simpa using ha'
  rw [decodeFrom.eq_def]
  simp only [h1, h2, h3, if_true, if_false, hb, h]
  rfl

/-- The character of three bytes. -/
lemma decodeFrom_three (h : decodeFrom (n + 3) rest = .ok text) (ha : 0xe0 ≤ a.toNat)
    (ha' : a.toNat < 0xf0) (hb : isSecond a b = true) (hc : isTail c = true) :
    decodeFrom n (a :: b :: c :: rest) =
      .ok (Char.ofNat ((a.toNat % 16 * 64 + low b) * 64 + low c) :: text) := by
  have h1 : ¬ a < 0x80 := by rw [UInt8.lt_iff_toNat_lt]; simp; omega
  have h2 : ¬ a < 0xc2 := by rw [UInt8.lt_iff_toNat_lt]; simp; omega
  have h3 : ¬ a < 0xe0 := by rw [UInt8.lt_iff_toNat_lt]; simp; omega
  have h4 : a < 0xf0 := by rw [UInt8.lt_iff_toNat_lt]; simpa using ha'
  rw [decodeFrom.eq_def]
  simp only [h1, h2, h3, h4, if_true, if_false, hb, hc, h]
  rfl

/-- The character of four bytes. -/
lemma decodeFrom_four (h : decodeFrom (n + 4) rest = .ok text) (ha : 0xf0 ≤ a.toNat)
    (ha' : a.toNat < 0xf5) (hb : isSecond a b = true) (hc : isTail c = true)
    (hd : isTail d = true) :
    decodeFrom n (a :: b :: c :: d :: rest) =
      .ok (Char.ofNat (((a.toNat % 8 * 64 + low b) * 64 + low c) * 64 + low d) :: text) := by
  have h1 : ¬ a < 0x80 := by rw [UInt8.lt_iff_toNat_lt]; simp; omega
  have h2 : ¬ a < 0xc2 := by rw [UInt8.lt_iff_toNat_lt]; simp; omega
  have h3 : ¬ a < 0xe0 := by rw [UInt8.lt_iff_toNat_lt]; simp; omega
  have h4 : ¬ a < 0xf0 := by rw [UInt8.lt_iff_toNat_lt]; simp; omega
  have h5 : a < 0xf5 := by rw [UInt8.lt_iff_toNat_lt]; simpa using ha'
  rw [decodeFrom.eq_def]
  simp only [h1, h2, h3, h4, h5, if_true, if_false, hb, hc, hd, h]
  rfl

end Decode

/-- The bytes of a character, in front of bytes that are decoded, are decoded to the character. -/
lemma decodeFrom_encodeChar_append {c : Char} {rest : List UInt8} {text : List Char}
    (h : ∀ n, decodeFrom n rest = .ok text) (n : Nat) :
    decodeFrom n (encodeChar c ++ rest) = .ok (c :: text) := by
  have hvalid : c.toNat < 0xd800 ∨ 0xdfff < c.toNat ∧ c.toNat < 0x110000 := c.valid
  have hc : Char.ofNat c.toNat = c := Char.ofNat_toNat c
  unfold encodeChar
  generalize c.toNat = k at hvalid hc
  subst hc
  dsimp only
  split_ifs with h1 h2 h3
  · have ha : k.toUInt8.toNat = k := toNat_toUInt8 (by omega)
    rw [List.cons_append, List.nil_append, decodeFrom_one (h _) (by omega), ha]
  · have ha : (0xc0 + k / 64).toUInt8.toNat = 0xc0 + k / 64 := toNat_toUInt8 (by omega)
    have hsecond : isSecond (0xc0 + k / 64).toUInt8 (0x80 + k % 64).toUInt8 = true :=
      isSecond_of_isTail (isTail_tailByte k) (by omega) (by omega) (by omega) (by omega)
    have hvalue : (0xc0 + k / 64) % 32 * 64 + k % 64 = k := by omega
    rw [List.cons_append, List.cons_append, List.nil_append,
      decodeFrom_two (h _) (by omega) (by omega) hsecond, ha, low_tailByte, hvalue]
  · have ha : (0xe0 + k / 4096).toUInt8.toNat = 0xe0 + k / 4096 := toNat_toUInt8 (by omega)
    have hb := toNat_tailByte (k / 64)
    have hsecond : isSecond (0xe0 + k / 4096).toUInt8 (0x80 + k / 64 % 64).toUInt8 = true :=
      isSecond_of_isTail (isTail_tailByte _) (by omega) (by omega) (by omega) (by omega)
    have hvalue : ((0xe0 + k / 4096) % 16 * 64 + k / 64 % 64) * 64 + k % 64 = k := by omega
    rw [List.cons_append, List.cons_append, List.cons_append, List.nil_append,
      decodeFrom_three (h _) (by omega) (by omega) hsecond (isTail_tailByte k), ha, low_tailByte,
      low_tailByte, hvalue]
  · have ha : (0xf0 + k / 262144).toUInt8.toNat = 0xf0 + k / 262144 := toNat_toUInt8 (by omega)
    have hb := toNat_tailByte (k / 4096)
    have hsecond : isSecond (0xf0 + k / 262144).toUInt8 (0x80 + k / 4096 % 64).toUInt8 = true :=
      isSecond_of_isTail (isTail_tailByte _) (by omega) (by omega) (by omega) (by omega)
    have hvalue : (((0xf0 + k / 262144) % 8 * 64 + k / 4096 % 64) * 64 + k / 64 % 64) * 64 +
        k % 64 = k := by omega
    rw [List.cons_append, List.cons_append, List.cons_append, List.cons_append, List.nil_append,
      decodeFrom_four (h _) (by omega) (by omega) hsecond (isTail_tailByte _) (isTail_tailByte k),
      ha, low_tailByte, low_tailByte, low_tailByte, hvalue]

/-! ### Texts -/

/-- Encoded texts are decoded from any position. -/
lemma decodeFrom_encode (text : List Char) (n : Nat) : decodeFrom n (encode text) = .ok text := by
  induction text generalizing n with
  | nil => rfl
  | cons c rest ih =>
    rw [encode, List.flatMap_cons]
    exact decodeFrom_encodeChar_append ih n

/-- Decoding undoes encoding. -/
theorem decode_encode (text : List Char) : decode (encode text) = .ok text :=
  decodeFrom_encode text 0

end ClassSharing.Text.Utf8
