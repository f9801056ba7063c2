import LineHighlight.Text.Basic

/-!
# UTF-8

Encoding, and a decoder that never fails: each longest run of bytes that begins a character but does
not complete it, and each byte that begins none, is read as U+FFFD.
-/

namespace LineHighlight.Text.Utf8

/-- The bytes of a character. -/
def encodeChar (c : Char) : List UInt8 :=
  let n := c.toNat
  let tail (shift : Nat) : UInt8 := UInt8.ofNat (0x80 + n / shift % 0x40)
  if n < 0x80 then [UInt8.ofNat n]
  else if n < 0x800 then [UInt8.ofNat (0xC0 + n / 0x40), tail 1]
  else if n < 0x10000 then [UInt8.ofNat (0xE0 + n / 0x1000), tail 0x40, tail 1]
  else [UInt8.ofNat (0xF0 + n / 0x40000), tail 0x1000, tail 0x40, tail 1]

/-- The bytes of a text. -/
def encode (t : Text) : List UInt8 := t.flatMap encodeChar

/-- What a first byte promises: how many bytes follow it, the bounds of the first of these, and the
bits of the character it carries itself. -/
structure Lead where
  following : Nat
  low : Nat
  high : Nat
  bits : Nat
  deriving DecidableEq, Repr

/-- The reading of `n` as a first byte. The bounds exclude longer forms than needed, surrogates and
code points above U+10FFFF. -/
def lead? (n : Nat) : Option Lead :=
  if n < 0x80 then some ⟨0, 0x80, 0xBF, n⟩
  else if n < 0xC2 then none
  else if n < 0xE0 then some ⟨1, 0x80, 0xBF, n - 0xC0⟩
  else if n = 0xE0 then some ⟨2, 0xA0, 0xBF, 0⟩
  else if n = 0xED then some ⟨2, 0x80, 0x9F, 0xD⟩
  else if n < 0xF0 then some ⟨2, 0x80, 0xBF, n - 0xE0⟩
  else if n = 0xF0 then some ⟨3, 0x90, 0xBF, 0⟩
  else if n < 0xF4 then some ⟨3, 0x80, 0xBF, n - 0xF0⟩
  else if n = 0xF4 then some ⟨3, 0x80, 0x8F, 4⟩
  else none

/-- Reads `following` more bytes, the first of them between `low` and `high`; gives the code point if
all are there, and the bytes left over. -/
def continued (following low high bits : Nat) : List UInt8 → Option Nat × List UInt8
  | [] => (if following = 0 then some bits else none, [])
  | b :: rest =>
    match following with
    | 0 => (some bits, b :: rest)
    | more + 1 =>
      if low ≤ b.toNat ∧ b.toNat ≤ high then
        continued more 0x80 0xBF (bits * 0x40 + (b.toNat - 0x80)) rest
      else (none, b :: rest)

theorem length_continued_le (following low high bits : Nat) (bytes : List UInt8) :
    (continued following low high bits bytes).2.length ≤ bytes.length := by
  induction bytes generalizing following low high bits with
  | nil => simp [continued]
  | cons b rest ih =>
    cases following with
    | zero => simp [continued]
    | succ more =>
      simp only [continued]
      split
      · exact Nat.le_succ_of_le (ih ..)
      · simp

/-- The text of some bytes, with U+FFFD for what is not UTF-8. -/
def decode : List UInt8 → Text
  | [] => []
  | b :: rest =>
    match lead? b.toNat with
    | none => '\uFFFD' :: decode rest
    | some lead =>
      let found := continued lead.following lead.low lead.high lead.bits rest
      (found.1.elim '\uFFFD' Char.ofNat) :: decode found.2
termination_by bytes => bytes.length
decreasing_by
  · simp
  · exact Nat.lt_succ_of_le (length_continued_le ..)

end LineHighlight.Text.Utf8
