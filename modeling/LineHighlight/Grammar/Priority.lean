import LineHighlight.Number.Binary64

/-!
# Priorities

A priority tells how much a catalogue entry is preferred to others. Whole numbers count as they are,
all other numbers to 53 binary digits, and of one that is too large for these only the sign counts.
-/

namespace LineHighlight

/-- How much an entry is preferred. -/
inductive Priority where
  /-- Less than every number. -/
  | lowest
  | number (x : Rat)
  /-- More than every number. -/
  | highest
  deriving DecidableEq, Repr

namespace Priority

/-- The priority of a number that is not given as a whole one. -/
def ofFraction (x : Rat) : Priority :=
  match Binary64.nearest? x with
  | some y => number y
  | none => if x < 0 then lowest else highest

/-- `a` is the lower one of two different priorities. -/
def below : Priority → Priority → Bool
  | lowest, lowest => false
  | lowest, _ => true
  | number x, number y => x < y
  | number _, highest => true
  | _, _ => false

/-- Of two different numbers, one is below the other. -/
theorem number_below_or_below {x y : Rat} (h : x ≠ y) :
    (number x).below (number y) ∨ (number y).below (number x) := by
  by_cases hxy : x < y
  · exact .inl (decide_eq_true hxy)
  · have hyx : y ≤ x := Rat.not_lt.mp hxy
    exact .inr (decide_eq_true (Rat.lt_of_le_of_ne hyx (Ne.symm h)))

/-- Of two different priorities, one is below the other. -/
theorem below_or_below {a b : Priority} (h : a ≠ b) : a.below b ∨ b.below a := by
  match a, b with
  | number x, number y => exact number_below_or_below fun e => h (congrArg number e)
  | lowest, lowest => exact absurd rfl h
  | highest, highest => exact absurd rfl h
  | lowest, number _ => exact .inl rfl
  | lowest, highest => exact .inl rfl
  | number _, highest => exact .inl rfl
  | number _, lowest => exact .inr rfl
  | highest, number _ => exact .inr rfl
  | highest, lowest => exact .inr rfl

/-- Half a point more. It is added in numbers of 53 binary digits, so that it may get lost, and
cannot be added to a number that is too large for these. -/
def addHalf? : Priority → Option Priority
  | number x => (Binary64.nearest? x).map fun y => number (Binary64.nearest (y + 1 / 2))
  | extreme => some extreme

end Priority
end LineHighlight
