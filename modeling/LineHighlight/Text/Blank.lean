import LineHighlight.Text.Basic

/-!
# Blank characters

The white space that is removed around flags and alias entries: every character of bidirectional
class `B`, `S` or `WS` and every space separator.
-/

namespace LineHighlight.Text

/-- The code points of white space. -/
def blankRanges : List (Nat × Nat) :=
  [(0x0009, 0x000D), (0x001C, 0x0020), (0x0085, 0x0085), (0x00A0, 0x00A0), (0x1680, 0x1680),
   (0x2000, 0x200A), (0x2028, 0x2029), (0x202F, 0x202F), (0x205F, 0x205F), (0x3000, 0x3000)]

/-- White space in the sense of Unicode, and the four separators U+001C to U+001F. -/
def isBlank (c : Char) : Bool := inRanges blankRanges c

/-- `t` without white space at its two ends. -/
def strip (t : Text) : Text := dropEndWhile isBlank (t.dropWhile isBlank)

/-- The white space of the standard library is white space here. -/
theorem isBlank_of_isWhitespace {c : Char} (h : c.isWhitespace = true) : isBlank c = true := by
  have hc : c = ' ' ∨ c = '\t' ∨ c = '\r' ∨ c = '\n' := by
    simpa [Char.isWhitespace, or_assoc] using h
  rcases hc with rfl | rfl | rfl | rfl <;> decide

end LineHighlight.Text
