/-!
# Numbers of 53 binary digits

Rounding a fraction to the nearest number that 53 binary digits can hold, of which none stands
beyond the 1074th place after the point. Of two numbers that are equally near, the one with an even
last digit is taken. Numbers from `limit` on, of either sign, are too large to be held.

Main statements: a quotient is rounded by at most half a unit (`two_mul_roundDiv_le` and
`le_two_mul_roundDiv`).
-/

namespace LineHighlight.Binary64

/-! ## Whole numbers -/

/-- `n / d` rounded to the nearest whole number, a half to the even neighbour. -/
def roundDiv (n d : Nat) : Nat :=
  let q := n / d
  let r := n % d
  if 2 * r < d ∨ (2 * r = d ∧ q % 2 = 0) then q else q + 1

/-- A quotient is rounded up by at most half a unit. -/
theorem two_mul_roundDiv_le (n d : Nat) : 2 * (d * roundDiv n d) ≤ 2 * n + d := by
  have hn := Nat.div_add_mod n d
  simp only [roundDiv]
  split
  · omega
  · rw [Nat.mul_add, Nat.mul_one]
    omega

/-- A quotient is rounded down by at most half a unit. -/
theorem le_two_mul_roundDiv (n : Nat) {d : Nat} (hd : 0 < d) :
    2 * n ≤ 2 * (d * roundDiv n d) + d := by
  have hn := Nat.div_add_mod n d
  have hr := Nat.mod_lt n hd
  simp only [roundDiv]
  split
  · omega
  · rw [Nat.mul_add, Nat.mul_one]
    omega

/-! ## Fractions -/

/-- The power of two with an exponent of either sign. -/
def twoPow : Int → Rat
  | .ofNat n => Nat.pow 2 n
  | .negSucc n => mkRat 1 (Nat.pow 2 (n + 1))

/-- The exponent of the last of 53 binary digits of a positive fraction. -/
def lastPlace (x : Rat) : Int :=
  let guess : Int := x.num.natAbs.log2 - x.den.log2
  let first := if twoPow guess ≤ x then guess else guess - 1
  max (first - 52) (-1074)

/-- The nearest number of 53 binary digits to a positive fraction. -/
def nearestPositive (x : Rat) : Rat :=
  let place := twoPow (lastPlace x)
  let scaled := x / place
  roundDiv scaled.num.natAbs scaled.den * place

/-- The nearest number of 53 binary digits. -/
def nearest (x : Rat) : Rat :=
  if x = 0 then 0 else if x < 0 then -nearestPositive (-x) else nearestPositive x

/-- The least number that is too large. -/
def limit : Rat := twoPow 1024

/-- The nearest number of 53 binary digits, unless it is too large. -/
def nearest? (x : Rat) : Option Rat :=
  let y := nearest x
  if -limit < y ∧ y < limit then some y else none

end LineHighlight.Binary64
