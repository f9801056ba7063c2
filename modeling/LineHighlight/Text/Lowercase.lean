import LineHighlight.Text.Unicode.Cased
import LineHighlight.Text.Unicode.Shifts

/-!
# Lower case

The full lower-case mapping of Unicode: one character may become two, and a capital sigma takes its
final form at the end of a word.
-/

namespace LineHighlight.Text

/-- The lower-case form of a code point by the simple mapping. -/
def lowerCode (n : Nat) : Nat :=
  match caseShifts.find? (·.covers n) with
  | some s => s.shift n
  | none => n

/-- The lower-case form of a character that does not depend on its neighbours. -/
def lowerChar (c : Char) : Text :=
  if c = '\u0130' then ['i', '\u0307'] else [Char.ofNat (lowerCode c.toNat)]

/-- The first character of `t` that is not case-ignorable is a cased letter. -/
def startsCased (t : Text) : Bool :=
  match t.dropWhile isCaseIgnorable with
  | [] => false
  | c :: _ => isCased c

/-- The lower-case form of a text, of which `inWord` says whether a cased letter stands before it,
case-ignorable characters skipped. A capital sigma ends a word if it is preceded by a cased letter
and not followed by one. -/
def lowerAfter (inWord : Bool) : Text → Text
  | [] => []
  | c :: rest =>
    let lowered :=
      if c = '\u03A3' then
        if inWord && !startsCased rest then ['\u03C2'] else ['\u03C3']
      else lowerChar c
    lowered ++ lowerAfter (if isCaseIgnorable c then inWord else isCased c) rest

/-- The lower-case form of a text. -/
def lower (t : Text) : Text := lowerAfter false t

/-- Two texts in alphabetical order, letter case aside. -/
def precedesFolded (s t : Text) : Bool := precedes (lower s) (lower t)

end LineHighlight.Text
