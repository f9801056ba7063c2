import LineHighlight.Config.Alias
import Mathlib.Tactic.Lemma
import Mathlib.Data.List.DropRight

/-!
# The normal form of flags

`normalizeFlag` gives a normal form: it changes nothing that it made (`normalizeFlag_normalizeFlag`),
and what it made has no white space at its ends (`strip_normalizeFlag`). Both rest on two facts about
lower case: the lower-case form of a character is its own lower-case form, and is white space only if
the character is.
-/

namespace LineHighlight

namespace Text

/-! ## Code points -/

namespace CaseShift

/-- No code point that `s` moves to is between `first` and `last`. -/
def MissesRange (s : CaseShift) (first last : Nat) : Bool :=
  Nat.blt (s.lowered + (s.last - s.first)) first || Nat.blt last s.lowered

/-- No code point that `s` moves to is held by `t`: the ranges are apart, or every second code point
is meant and the other ones are hit. -/
def Avoids (s t : CaseShift) : Bool :=
  s.MissesRange t.first t.last ||
    (t.step == 2 && (s.step == 2 || s.first == s.last) && (s.lowered + t.first) % 2 == 1)

/-- Where a run moves its code points, they are characters, none of them is white space, and none
of them is the capital letter that no run moves. -/
def MovesToLetters (s : CaseShift) : Bool :=
  s.MissesRange 0xD800 0xDFFF && Nat.blt (s.lowered + (s.last - s.first)) 0x110000 &&
    s.MissesRange 0x0130 0x0130 && blankRanges.all fun r => s.MissesRange r.1 r.2

lemma le_shift {s : CaseShift} {n : Nat} (h : s.covers n) :
    s.lowered ≤ s.shift n ∧ s.shift n ≤ s.lowered + (s.last - s.first) := by
  unfold covers at h
  unfold shift
  simp only [Bool.and_eq_true, decide_eq_true_eq] at h
  omega

lemma not_covers_shift {s t : CaseShift} {n : Nat} (hs : s.covers n) (h : s.Avoids t) :
    t.covers (s.shift n) = false := by
  obtain ⟨hlow, hhigh⟩ := le_shift hs
  unfold Avoids MissesRange at h
  unfold covers at hs ⊢
  unfold shift at hlow hhigh ⊢
  simp only [Bool.or_eq_true, Bool.and_eq_true, Nat.blt_eq, decide_eq_true_eq, beq_iff_eq] at h hs
  simp only [Bool.and_eq_false_iff, decide_eq_false_iff_not, beq_eq_false_iff_ne, ne_eq]
  rcases h with (h | h) | ⟨⟨ht, h | h⟩, hodd⟩
  · omega
  · omega
  -- Among every second code point of `t`, those with the other parity are not held.
  · rw [ht]
    rw [h] at hs
    omega
  · rw [ht]
    omega

end CaseShift

/-- No run moves a code point to one that some run moves. -/
lemma all_caseShifts_avoid :
    (caseShifts.all fun s => caseShifts.all s.Avoids) = true := by
  decide +kernel

lemma all_caseShifts_movesToLetters : caseShifts.all CaseShift.MovesToLetters = true := by
  decide +kernel

/-- A code point is left alone, or a run moves it. -/
lemma lowerCode_eq (n : Nat) :
    lowerCode n = n ∨ ∃ s ∈ caseShifts, s.covers n ∧ lowerCode n = s.shift n := by
  unfold lowerCode
  cases h : caseShifts.find? (·.covers n) with
  | none => exact .inl rfl
  | some s =>
    have hcovers := List.find?_some h
    exact .inr ⟨s, List.mem_of_find?_eq_some h, hcovers, rfl⟩

/-- The lower-case form of a code point is its own lower-case form. -/
lemma lowerCode_lowerCode (n : Nat) : lowerCode (lowerCode n) = lowerCode n := by
  rcases lowerCode_eq n with h | ⟨s, hs, hcovers, h⟩
  · rw [h, h]
  · have havoids := List.all_eq_true.1 (List.all_eq_true.1 all_caseShifts_avoid s hs)
    have hnone : caseShifts.find? (·.covers (s.shift n)) = none := by
      rw [List.find?_eq_none]
      intro t ht
      rw [CaseShift.not_covers_shift hcovers (havoids t ht)]
      exact Bool.false_ne_true
    rw [h, lowerCode, hnone]

/-! ## Characters -/

/-- The character is its own lower-case form. -/
def IsLower (c : Char) : Prop := lowerChar c = [c]

/-- The code point of a character is moved to that of a character, which is white space only if the
first one is, and the capital letter that no run moves only if the first one is. -/
lemma ofNat_lowerCode (c : Char) :
    (Char.ofNat (lowerCode c.toNat)).toNat = lowerCode c.toNat ∧
      (isBlank (Char.ofNat (lowerCode c.toNat)) → isBlank c) ∧
      (Char.ofNat (lowerCode c.toNat) = '\u0130' → c = '\u0130') := by
  rcases lowerCode_eq c.toNat with h | ⟨s, hs, hcovers, h⟩
  · rw [h, Char.ofNat_toNat]
    exact ⟨rfl, id, id⟩
  · rw [h]
    obtain ⟨hlow, hhigh⟩ := CaseShift.le_shift hcovers
    have hletters := List.all_eq_true.1 all_caseShifts_movesToLetters s hs
    unfold CaseShift.MovesToLetters CaseShift.MissesRange at hletters
    simp only [Bool.and_eq_true, Bool.or_eq_true, Nat.blt_eq, List.all_eq_true] at hletters
    obtain ⟨⟨⟨hsurrogate, hmax⟩, hcapital⟩, hblank⟩ := hletters
    have hchar : (s.shift c.toNat).isValidChar := by
      unfold Nat.isValidChar
      omega
    have hnat : (Char.ofNat (s.shift c.toNat)).toNat = s.shift c.toNat := by
      unfold Char.ofNat
      rw [dif_pos hchar]
      rfl
    refine ⟨hnat, fun hb => ?_, fun hc => ?_⟩
    · unfold isBlank inRanges at hb
      rw [hnat, List.any_eq_true] at hb
      obtain ⟨r, hr, hin⟩ := hb
      rw [Bool.and_eq_true, decide_eq_true_eq, decide_eq_true_eq] at hin
      have hout := hblank r hr
      omega
    · rw [hc] at hnat
      have hcode : ('\u0130' : Char).toNat = 0x0130 := rfl
      omega

/-- Each character of a lower-case form is its own lower-case form. -/
lemma isLower_of_mem_lowerChar {c d : Char} (h : d ∈ lowerChar c) : IsLower d := by
  unfold lowerChar at h
  by_cases hc : c = '\u0130'
  · rw [if_pos hc] at h
    have hd : d = 'i' ∨ d = '\u0307' := by simpa using h
    rcases hd with rfl | rfl <;> (unfold IsLower; decide +kernel)
  · rw [if_neg hc, List.mem_singleton] at h
    obtain ⟨hnat, -, hcapital⟩ := ofNat_lowerCode c
    rw [← h] at hnat hcapital
    unfold IsLower lowerChar
    rw [if_neg fun hd => hc (hcapital hd), hnat, lowerCode_lowerCode, ← hnat, Char.ofNat_toNat]

/-- The lower-case form of a character that is not white space holds no white space. -/
lemma not_isBlank_of_mem_lowerChar {c d : Char} (hc : isBlank c = false) (h : d ∈ lowerChar c) :
    isBlank d = false := by
  unfold lowerChar at h
  split at h
  · have hd : d = 'i' ∨ d = '\u0307' := by simpa using h
    rcases hd with rfl | rfl <;> decide
  · rw [List.mem_singleton] at h
    rw [h, ← Bool.not_eq_true]
    intro hb
    rw [(ofNat_lowerCode c).2.1 hb] at hc
    exact Bool.noConfusion hc

/-- What stands for a character in a text in lower case, given how the character is to be taken if
it is a capital sigma. -/
def lowered (final : Bool) (c : Char) : Text :=
  if c = '\u03A3' then if final then ['\u03C2'] else ['\u03C3'] else lowerChar c

/-- A text is put in lower case character by character. -/
lemma lowerAfter_cons (inWord : Bool) (c : Char) (rest : Text) :
    lowerAfter inWord (c :: rest) =
      lowered (inWord && !startsCased rest) c ++
        lowerAfter (if isCaseIgnorable c then inWord else isCased c) rest := rfl

/-- A character of what stands for a character is a small sigma or of its lower-case form. -/
lemma mem_lowered {final : Bool} {c d : Char} (h : d ∈ lowered final c) :
    d = '\u03C2' ∨ d = '\u03C3' ∨ d ∈ lowerChar c := by
  unfold lowered at h
  split at h
  · split at h
    · exact .inl (List.mem_singleton.1 h)
    · exact .inr (.inl (List.mem_singleton.1 h))
  · exact .inr (.inr h)

lemma isLower_of_mem_lowered {final : Bool} {c d : Char} (h : d ∈ lowered final c) :
    IsLower d := by
  rcases mem_lowered h with rfl | rfl | h
  · unfold IsLower
    decide +kernel
  · unfold IsLower
    decide +kernel
  · exact isLower_of_mem_lowerChar h

lemma not_isBlank_of_mem_lowered {final : Bool} {c d : Char} (hc : isBlank c = false)
    (h : d ∈ lowered final c) : isBlank d = false := by
  rcases mem_lowered h with rfl | rfl | h
  · decide
  · decide
  · exact not_isBlank_of_mem_lowerChar hc h

lemma lowered_ne_nil (final : Bool) (c : Char) : lowered final c ≠ [] := by
  unfold lowered lowerChar
  split
  · split <;> exact List.cons_ne_nil _ _
  · split <;> exact List.cons_ne_nil _ _

/-! ## Texts -/

/-- A text in lower case holds only characters that are their own lower-case forms. -/
lemma isLower_of_mem_lowerAfter {inWord : Bool} {t : Text} {d : Char}
    (h : d ∈ lowerAfter inWord t) : IsLower d := by
  induction t generalizing inWord with
  | nil => exact absurd h List.not_mem_nil
  | cons c rest ih =>
    rw [lowerAfter_cons, List.mem_append] at h
    rcases h with h | h
    · exact isLower_of_mem_lowered h
    · exact ih h

/-- A text of such characters is left alone. -/
lemma lowerAfter_of_isLower {inWord : Bool} {t : Text} (h : ∀ d ∈ t, IsLower d) :
    lowerAfter inWord t = t := by
  induction t generalizing inWord with
  | nil => rfl
  | cons c rest ih =>
    have hc : IsLower c := h c List.mem_cons_self
    have hsigma : c ≠ '\u03A3' := by
      rintro rfl
      exact absurd hc (by unfold IsLower; decide +kernel)
    have hrest : ∀ d ∈ rest, IsLower d := fun d hd => h d (List.mem_cons_of_mem c hd)
    rw [lowerAfter_cons, lowered, if_neg hsigma, hc, ih hrest]
    rfl

/-- Lower case is a normal form. -/
theorem lower_lower (t : Text) : lower (lower t) = lower t :=
  lowerAfter_of_isLower fun _ hd => isLower_of_mem_lowerAfter hd

/-! ## White space at the ends -/

/-- The text neither begins nor ends with white space. -/
def IsTrimmed (t : Text) : Prop :=
  (∀ c ∈ t.head?, isBlank c = false) ∧ ∀ c ∈ t.getLast?, isBlank c = false

/-- What is left after dropping begins with a character that is not to be dropped. -/
lemma of_mem_head?_dropWhile {p : Char → Bool} {t : Text} {c : Char}
    (h : c ∈ (t.dropWhile p).head?) : p c = false := by
  have hnot := List.head?_dropWhile_not p t
  rw [Option.mem_def.1 h] at hnot
  exact hnot

/-- Nothing is dropped from a text that begins with a character that is not to be dropped. -/
lemma dropWhile_eq_self {p : Char → Bool} {t : Text} (h : ∀ c ∈ t.head?, p c = false) :
    t.dropWhile p = t := by
  cases t with
  | nil => rfl
  | cons c rest =>
    have hc : p c = false := h c rfl
    rw [List.dropWhile_cons_of_neg (Bool.eq_false_iff.1 hc)]

/-- Stripping removes all white space at the ends. -/
lemma isTrimmed_strip (t : Text) : IsTrimmed (strip t) := by
  constructor
  · intro c hc
    obtain ⟨dropped, hdropped⟩ : strip t <+: t.dropWhile isBlank := List.rdropWhile_prefix _ _
    have hhead : c ∈ (t.dropWhile isBlank).head? := by
      rw [← hdropped, List.head?_append, Option.mem_def.1 hc]
      rfl
    exact of_mem_head?_dropWhile hhead
  · intro c hc
    unfold strip dropEndWhile at hc
    rw [List.getLast?_reverse] at hc
    exact of_mem_head?_dropWhile hc

/-- Stripping changes nothing if there is no white space at the ends. -/
lemma strip_of_isTrimmed {t : Text} (h : IsTrimmed t) : strip t = t := by
  have hend : ∀ c ∈ t.reverse.head?, isBlank c = false := by
    rw [List.head?_reverse]
    exact h.2
  unfold strip dropEndWhile
  rw [dropWhile_eq_self h.1, dropWhile_eq_self hend, List.reverse_reverse]

/-- Lower case keeps the end of a text free of white space. -/
lemma not_isBlank_getLast?_lowerAfter {inWord : Bool} {t : Text}
    (h : ∀ c ∈ t.getLast?, isBlank c = false) :
    ∀ d ∈ (lowerAfter inWord t).getLast?, isBlank d = false := by
  induction t generalizing inWord with
  | nil => exact fun d hd => absurd hd (Option.not_mem_none d)
  | cons c rest ih =>
    intro d hd
    rw [lowerAfter_cons, List.getLast?_append] at hd
    rcases Option.or_eq_some_iff.1 hd with hd | ⟨hnone, hd⟩
    · cases rest with
      | nil => exact absurd hd (Option.some_ne_none d).symm
      | cons c' rest =>
        rw [List.getLast?_cons_cons] at h
        exact ih h d hd
    · -- Nothing comes after the character, so that it is the last one.
      have hrest : rest = [] := by
        cases rest with
        | nil => rfl
        | cons c' rest =>
          rw [List.getLast?_eq_none_iff, lowerAfter_cons] at hnone
          exact absurd (List.append_eq_nil_iff.1 hnone).1 (lowered_ne_nil _ _)
      have hc : isBlank c = false := h c (by rw [hrest]; rfl)
      exact not_isBlank_of_mem_lowered hc (List.mem_of_getLast? hd)

/-- Lower case keeps the ends of a text free of white space. -/
lemma isTrimmed_lower {t : Text} (h : IsTrimmed t) : IsTrimmed (lower t) := by
  refine ⟨fun d hd => ?_, not_isBlank_getLast?_lowerAfter h.2⟩
  cases t with
  | nil => exact absurd hd (Option.not_mem_none d)
  | cons c rest =>
    have hc : isBlank c = false := h.1 c rfl
    unfold lower at hd
    rw [lowerAfter_cons, List.head?_append_of_ne_nil _ (lowered_ne_nil _ _)] at hd
    exact not_isBlank_of_mem_lowered hc (List.mem_of_mem_head? hd)

end Text

/-! ## Flags -/

/-- The normal form of a flag has no white space at its ends. -/
theorem strip_normalizeFlag (flag : Text) : Text.strip (normalizeFlag flag) = normalizeFlag flag :=
  Text.strip_of_isTrimmed (Text.isTrimmed_lower (Text.isTrimmed_strip flag))

/-- The normal form of a flag is its own normal form. -/
theorem normalizeFlag_normalizeFlag (flag : Text) :
    normalizeFlag (normalizeFlag flag) = normalizeFlag flag := by
  rw [normalizeFlag, strip_normalizeFlag, normalizeFlag, Text.lower_lower]

/-! ## Tables by flag -/

namespace Table

/-- The keys of a table in which entries were stored were there before or are keys of the entries. -/
lemma mem_keys_putAll {t : Table} {es : List (Text × Text)} {key : Text}
    (h : key ∈ (t.putAll es).keys) : key ∈ t.keys ∨ key ∈ es.map Prod.fst := by
  induction es generalizing t with
  | nil => exact .inl h
  | cons e rest ih =>
    rcases ih h with h | h
    · rw [keys_put] at h
      split at h
      · exact .inl h
      · rcases List.mem_append.1 h with h | h
        · exact .inl h
        · rw [List.mem_singleton.1 h]
          exact .inr List.mem_cons_self
    · exact .inr (List.mem_cons_of_mem _ h)

/-- The keys of a normalized table are normal forms. -/
theorem exists_of_mem_keys_normalized {t : Table} {key : Text} (h : key ∈ t.normalized.keys) :
    ∃ flag, key = normalizeFlag flag := by
  unfold normalized mapKeys ofList at h
  rcases mem_keys_putAll h with h | h
  · exact absurd h List.not_mem_nil
  · obtain ⟨e, he, rfl⟩ := List.mem_map.1 h
    obtain ⟨e', -, rfl⟩ := List.mem_map.1 he
    exact ⟨e'.1, rfl⟩

end Table
end LineHighlight
