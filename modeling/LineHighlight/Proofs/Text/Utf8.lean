import LineHighlight.Text.Utf8
import Mathlib.Tactic.IntervalCases
import Mathlib.Tactic.Lemma
import Mathlib.Tactic.SplitIfs

/-!
# Decoding what was encoded

The bytes of a text decode to that text, whatever characters it has (`decode_encode`). A first byte
tells how many bytes follow and how the first of these is bounded (`lead?_two`, `lead?_three`,
`lead?_four`); the bounds leave out surrogates and longer forms, and no character needs these.
-/

namespace LineHighlight.Text.Utf8

/-! ## First bytes -/

lemma lead?_one {n : Nat} (h : n < 0x80) : lead? n = some ⟨0, 0x80, 0xBF, n⟩ := if_pos h

lemma lead?_two {n : Nat} (hlow : 2 ≤ n) (hhigh : n < 0x20) :
    lead? (0xC0 + n) = some ⟨1, 0x80, 0xBF, n⟩ := by
  rw [lead?, if_neg (by omega), if_neg (by omega), if_pos (by omega), Nat.add_sub_cancel_left]

lemma lead?_three {n : Nat} (h : n < 0x10) :
    lead? (0xE0 + n) =
      some ⟨2, if n = 0 then 0xA0 else 0x80, if n = 0xD then 0x9F else 0xBF, n⟩ := by
  interval_cases n <;> rfl

lemma lead?_four {n : Nat} (h : n ≤ 4) :
    lead? (0xF0 + n) =
      some ⟨3, if n = 0 then 0x90 else 0x80, if n = 4 then 0x8F else 0xBF, n⟩ := by
  interval_cases n <;> rfl

/-! ## The bytes behind them -/

/-- No more bytes are needed. -/
lemma continued_zero (low high bits : Nat) (rest : List UInt8) :
    continued 0 low high bits rest = (some bits, rest) := by
  cases rest <;> rfl

/-- A byte within the bounds adds six bits, and the bytes behind it have the usual bounds. -/
lemma continued_succ (following bits : Nat) {low high n : Nat} (hn : n < 0x40)
    (hlow : low ≤ 0x80 + n) (hhigh : 0x80 + n ≤ high) (rest : List UInt8) :
    continued (following + 1) low high bits (UInt8.ofNat (0x80 + n) :: rest) =
      continued following 0x80 0xBF (bits * 0x40 + n) rest := by
  have hbyte : (UInt8.ofNat (0x80 + n)).toNat = 0x80 + n :=
    UInt8.toNat_ofNat_of_lt' (Nat.lt_trans (Nat.add_lt_add_left hn 0x80) (by decide))
  rw [continued, hbyte, if_pos ⟨hlow, hhigh⟩, Nat.add_sub_cancel_left]

/-- A byte that is not the first one of a character, as long as nothing else is asked of it. -/
lemma continued_succ_of_lt (following bits : Nat) {n : Nat} (hn : n < 0x40) (rest : List UInt8) :
    continued (following + 1) 0x80 0xBF bits (UInt8.ofNat (0x80 + n) :: rest) =
      continued following 0x80 0xBF (bits * 0x40 + n) rest :=
  continued_succ following bits hn (Nat.le_add_right 0x80 n) (by omega) rest

/-- A first byte and enough bytes behind it make a character. -/
lemma decode_cons {first n : Nat} {lead : Lead} {bytes rest : List UInt8} (hfirst : first < 0x100)
    (hlead : lead? first = some lead)
    (hmore : continued lead.following lead.low lead.high lead.bits bytes = (some n, rest)) :
    decode (UInt8.ofNat first :: bytes) = Char.ofNat n :: decode rest := by
  rw [decode, UInt8.toNat_ofNat_of_lt' hfirst, hlead]
  dsimp only
  rw [hmore]
  rfl

/-! ## Whole characters -/

/-- The code point of a character is no surrogate and at most U+10FFFF. -/
lemma toNat_range (c : Char) : c.toNat < 0xD800 ∨ 0xDFFF < c.toNat ∧ c.toNat < 0x110000 := c.valid

/-- The bytes of a character decode to it, whatever bytes are behind them. -/
theorem decode_encodeChar_append (c : Char) (rest : List UInt8) :
    decode (encodeChar c ++ rest) = c :: decode rest := by
  have hrange := toNat_range c
  have hback : Char.ofNat c.toNat = c := Char.ofNat_toNat c
  -- Six bits in each byte but the first one.
  have hsix : ∀ shift, c.toNat / shift % 0x40 < 0x40 := fun shift => Nat.mod_lt _ (by decide)
  unfold encodeChar
  dsimp only
  split_ifs with hone htwo hthree
  · have hfound := decode_cons (by omega) (lead?_one hone) (continued_zero _ _ c.toNat rest)
    rw [hback] at hfound
    exact hfound
  · have hlead := lead?_two (n := c.toNat / 0x40) (by omega) (by omega)
    have hbits : c.toNat / 0x40 * 0x40 + c.toNat / 1 % 0x40 = c.toNat := by omega
    rw [List.cons_append, List.cons_append, List.nil_append, decode_cons (by omega) hlead, hback]
    rw [continued_succ_of_lt _ _ (hsix 1), continued_zero, hbits]
  · have hlead := lead?_three (n := c.toNat / 0x1000) (by omega)
    have hbits : (c.toNat / 0x1000 * 0x40 + c.toNat / 0x40 % 0x40) * 0x40 + c.toNat / 1 % 0x40 =
        c.toNat := by omega
    -- The second byte is bounded below for short code points and above for surrogates.
    have hlow : (if c.toNat / 0x1000 = 0 then 0xA0 else 0x80) ≤ 0x80 + c.toNat / 0x40 % 0x40 := by
      split_ifs <;> omega
    have hhigh : 0x80 + c.toNat / 0x40 % 0x40 ≤ if c.toNat / 0x1000 = 0xD then 0x9F else 0xBF := by
      split_ifs <;> omega
    rw [List.cons_append, List.cons_append, List.cons_append, List.nil_append,
      decode_cons (by omega) hlead, hback]
    rw [continued_succ _ _ (hsix 0x40) hlow hhigh, continued_succ_of_lt _ _ (hsix 1),
      continued_zero, hbits]
  · have hlead := lead?_four (n := c.toNat / 0x40000) (by omega)
    have hbits : ((c.toNat / 0x40000 * 0x40 + c.toNat / 0x1000 % 0x40) * 0x40 +
        c.toNat / 0x40 % 0x40) * 0x40 + c.toNat / 1 % 0x40 = c.toNat := by omega
    -- The second byte is bounded below for short code points and above for those out of range.
    have hlow : (if c.toNat / 0x40000 = 0 then 0x90 else 0x80) ≤
        0x80 + c.toNat / 0x1000 % 0x40 := by split_ifs <;> omega
    have hhigh : 0x80 + c.toNat / 0x1000 % 0x40 ≤
        if c.toNat / 0x40000 = 4 then 0x8F else 0xBF := by split_ifs <;> omega
    rw [List.cons_append, List.cons_append, List.cons_append, List.cons_append, List.nil_append,
      decode_cons (by omega) hlead, hback]
    rw [continued_succ _ _ (hsix 0x1000) hlow hhigh, continued_succ_of_lt _ _ (hsix 0x40),
      continued_succ_of_lt _ _ (hsix 1), continued_zero, hbits]

/-- The bytes of a text decode to that text. -/
theorem decode_encode (t : Text) : decode (encode t) = t := by
  induction t with
  | nil => rw [encode, List.flatMap_nil, decode]
  | cons c t ih =>
    have hcut : encode (c :: t) = encodeChar c ++ encode t := List.flatMap_cons
    rw [hcut, decode_encodeChar_append, ih]

end LineHighlight.Text.Utf8
