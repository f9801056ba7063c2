/-!
# Texts

A text is a list of characters, so that every function on texts is a recursion a proof can follow.
Here live the few operations on texts that are about no particular format: their order, cutting at
a character, splitting into pieces and joining them again, and writing numbers.
-/

namespace LineHighlight

/-- A text is a sequence of Unicode scalar values, so that UTF-8 has bytes for it. -/
abbrev Text := List Char

namespace Text

/-! ## Order -/

/-- `s` comes no later than `t`, by the first character that differs; a text comes after its own
beginnings. -/
def precedes : Text → Text → Bool
  | [], _ => true
  | _ :: _, [] => false
  | a :: s, b :: t => a.toNat < b.toNat || (a = b && precedes s t)

/-- Any two texts are in order one way or the other. -/
theorem precedes_total (s t : Text) : precedes s t ∨ precedes t s := by
  induction s generalizing t with
  | nil => exact .inl rfl
  | cons a s ih =>
    cases t with
    | nil => exact .inr rfl
    | cons b t =>
      rcases Nat.lt_trichotomy a.toNat b.toNat with h | h | h
      · exact .inl (by simp [precedes, h])
      · have hab : a = b := Char.toNat_inj.mp h
        rcases ih t with hst | hts
        · exact .inl (by simp [precedes, hab, hst])
        · exact .inr (by simp [precedes, hab, hts])
      · exact .inr (by simp [precedes, h])

/-! ## Numbers -/

/-- The decimal digits of a natural number. -/
def ofNat (n : Nat) : Text := Nat.toDigits 10 n

/-- The decimal digits of an integer, after a minus sign if it is negative. -/
def ofInt : Int → Text
  | .ofNat n => ofNat n
  | .negSucc n => '-' :: ofNat (n + 1)

/-! ## Cutting and joining -/

/-- The text before the first `c` and, if there is a `c`, the text after it. -/
def cut (c : Char) : Text → Text × Option Text
  | [] => ([], none)
  | d :: rest =>
    if d = c then ([], some rest)
    else
      let (front, back) := cut c rest
      (d :: front, back)

/-- What is after the first `c` is shorter than the text. -/
theorem length_of_cut {c : Char} {t front back : Text} (h : cut c t = (front, some back)) :
    back.length < t.length := by
  induction t generalizing front with
  | nil => simp [cut] at h
  | cons d rest ih =>
    by_cases hd : d = c
    · simp only [cut, hd, if_true, Prod.mk.injEq, Option.some.injEq] at h
      simp [h.2]
    · simp only [cut, hd, if_false, Prod.mk.injEq] at h
      have := ih (Prod.ext rfl h.2)
      simp only [List.length_cons]
      omega

/-- The pieces between the occurrences of `c`, one more than there are occurrences. -/
def pieces (c : Char) : Text → List Text
  | [] => [[]]
  | d :: rest =>
    if d = c then [] :: pieces c rest
    else
      match pieces c rest with
      | [] => [[d]]
      | piece :: more => (d :: piece) :: more

/-- The texts one after another with `separator` between each two. -/
def join (separator : Text) : List Text → Text
  | [] => []
  | [t] => t
  | t :: more => t ++ separator ++ join separator more

theorem pieces_ne_nil (c : Char) (t : Text) : pieces c t ≠ [] := by
  cases t with
  | nil => simp [pieces]
  | cons d rest =>
    by_cases h : d = c
    · simp [pieces, h]
    · simp only [pieces, h, if_false]
      split <;> simp

/-- Joining the pieces with the character they were split at gives the text back. -/
theorem join_pieces (c : Char) (t : Text) : join [c] (pieces c t) = t := by
  induction t with
  | nil => rfl
  | cons d rest ih =>
    obtain ⟨piece, more, hp⟩ := List.exists_cons_of_ne_nil (pieces_ne_nil c rest)
    rw [hp] at ih
    by_cases h : d = c
    · subst h
      rw [pieces, if_pos rfl, hp, join, ih]
      · rfl
      · simp
    · rw [pieces, if_neg h, hp]
      cases more with
      | nil => simpa [join] using ih
      | cons next more => simpa [join] using ih

/-! ## Ends -/

/-- `t` without the longest run of characters in `p` at its end. -/
def dropEndWhile (p : Char → Bool) (t : Text) : Text := (t.reverse.dropWhile p).reverse

/-- `t` without one `c` at its end, if it ends in `c`. -/
def dropLastIf (c : Char) (t : Text) : Text := if t.getLast? = some c then t.dropLast else t

/-- Ranges of code points, first and last included, hold `c`. -/
def inRanges (ranges : List (Nat × Nat)) (c : Char) : Bool :=
  ranges.any fun r => r.1 ≤ c.toNat && c.toNat ≤ r.2

end Text
end LineHighlight
