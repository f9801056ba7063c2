import LineHighlight.Request.Assembler
import Mathlib.Tactic.Lemma

/-!
# Outcomes of lines

Lines can be fed to an assembler one by one, whatever comes of them, or be read lazily, up to so many
outcomes and not beyond the end of the session. `Assembler.outcomes` is what the first way leads to.
The second way leads to the same outcomes, cut off (`outcomes_take`), and it comes to feeding the lines
that were read (`exists_fed_of_take`). What one line does to a reading is said once, by `take_cons` and
`take_cons_end`.
-/

namespace LineHighlight

/-- Some outcomes up to and including the first end of a session. -/
def Outcome.uptoEnd : List Outcome → List Outcome
  | [] => []
  | .request r :: rest => .request r :: uptoEnd rest
  | .sessionEnd :: _ => [.sessionEnd]

/-- Outcomes without an end of a session are kept. -/
lemma Outcome.uptoEnd_append_of_not_mem {front : List Outcome} (h : .sessionEnd ∉ front)
    (rest : List Outcome) : uptoEnd (front ++ rest) = front ++ uptoEnd rest := by
  induction front with
  | nil => rfl
  | cons outcome front ih =>
    rw [List.mem_cons, not_or] at h
    cases outcome with
    | request r => rw [List.cons_append, uptoEnd, ih h.2, List.cons_append]
    | sessionEnd => exact absurd rfl h.1

/-- Cutting outcomes off makes them no more. -/
lemma Outcome.length_uptoEnd_le (outcomes : List Outcome) :
    (uptoEnd outcomes).length ≤ outcomes.length := by
  fun_induction uptoEnd outcomes with
  | case1 => exact Nat.le_refl 0
  | case2 r rest ih => exact Nat.succ_le_succ ih
  | case3 rest =>
    rw [List.length_singleton, List.length_cons]
    omega

namespace Assembler

/-! ## Feeding line by line -/

/-- The outcomes of some lines that are fed one by one, also past the end of a session. -/
def outcomes (a : Assembler) : List Text → List Outcome
  | [] => []
  | line :: rest => (a.feed line).2.toList ++ (a.feed line).1.outcomes rest

/-- Feeding lines in two portions is feeding them all. -/
lemma feedAll_append (a : Assembler) (ls more : List Text) :
    a.feedAll (ls ++ more) = (a.feedAll ls).feedAll more := by
  induction ls generalizing a with
  | nil => rfl
  | cons l ls ih => exact ih (a.feed l).1

/-- The second portion is fed to the assembler that the first one left. -/
lemma outcomes_append (a : Assembler) (ls more : List Text) :
    a.outcomes (ls ++ more) = a.outcomes ls ++ (a.feedAll ls).outcomes more := by
  induction ls generalizing a with
  | nil => rfl
  | cons l ls ih =>
    have hmore := ih (a.feed l).1
    rw [List.cons_append, outcomes, hmore, outcomes, List.append_assoc]
    rfl

/-- A line leads to one outcome at most. -/
lemma length_toList_le_one (outcome : Option Outcome) : outcome.toList.length ≤ 1 := by
  cases outcome <;> simp

/-- Each outcome takes a line. -/
lemma length_outcomes_le (a : Assembler) (ls : List Text) :
    (a.outcomes ls).length ≤ ls.length := by
  induction ls generalizing a with
  | nil => exact Nat.le_refl 0
  | cons l ls ih =>
    have hmore := ih (a.feed l).1
    have hone := length_toList_le_one (a.feed l).2
    rw [outcomes, List.length_append, List.length_cons]
    omega

/-! ## Readings one after another -/

/-- What feeding the lines of `front` one by one comes to if the lines of `unread` are behind them. -/
def fed (a : Assembler) (front unread : List Text) : Reading :=
  ⟨a.outcomes front, a.feedAll front, a.notesOfAll front, unread⟩

/-- A reading and another one behind it, taken together. -/
def Reading.followedBy (r more : Reading) : Reading :=
  ⟨r.outcomes ++ more.outcomes, more.assembler, r.notes ++ more.notes, more.unread⟩

lemma Reading.followedBy_assoc (r more last : Reading) :
    (r.followedBy more).followedBy last = r.followedBy (more.followedBy last) := by
  unfold followedBy
  rw [List.append_assoc, List.append_assoc]

lemma fed_singleton (a : Assembler) (line : Text) (unread : List Text) :
    a.fed [line] unread = ⟨(a.feed line).2.toList, (a.feed line).1, a.notes line, unread⟩ := by
  rw [fed, outcomes, outcomes, notesOfAll, notesOfAll, List.append_nil, List.append_nil]
  rfl

/-- Feeding a line and then others is feeding them all. -/
lemma fed_singleton_followedBy (a : Assembler) (line : Text) (front unread : List Text) :
    (a.fed [line] (front ++ unread)).followedBy ((a.feed line).1.fed front unread) =
      a.fed (line :: front) unread := by
  rw [fed_singleton]
  rfl

/-! ## Reading line by line -/

/-- A line that ends the session is the last one to be read. -/
lemma take_cons_end {a : Assembler} {line : Text} (count : Nat) (rest : List Text)
    (h : (a.feed line).2 = some .sessionEnd) :
    a.take (count + 1) (line :: rest) = a.fed [line] rest := by
  rw [fed_singleton]
  rcases hfeed : a.feed line with ⟨after, outcome⟩
  rw [hfeed] at h
  subst h
  rw [take, next, hfeed]
  rfl

/-- After any other line the reading goes on, for one outcome less if the line led to one. -/
lemma take_cons {a : Assembler} {line : Text} (count : Nat) (rest : List Text)
    (h : (a.feed line).2 ≠ some .sessionEnd) :
    a.take (count + 1) (line :: rest) =
      (a.fed [line] rest).followedBy
        ((a.feed line).1.take (count + 1 - (a.feed line).2.toList.length) rest) := by
  rw [fed_singleton]
  rcases hfeed : a.feed line with ⟨after, _ | r | _⟩
  · -- What is found behind the line is found from it on.
    have hnext : a.next (line :: rest) = ((after.next rest).1, (after.next rest).2.1,
        a.notes line ++ (after.next rest).2.2.1, (after.next rest).2.2.2) := by rw [next, hfeed]
    show _ = Reading.followedBy ⟨[], after, a.notes line, rest⟩ (after.take (count + 1) rest)
    rw [take, take, hnext]
    rcases after.next rest with ⟨_ | r | _, last, notes, unread⟩
    · rfl
    · dsimp only [Reading.followedBy]
      rw [List.append_assoc]
      rfl
    · rfl
  · rw [take, next, hfeed]
    rfl
  · rw [hfeed] at h
    exact absurd rfl h

/-- The outcomes that are read are those of feeding line by line, up to the end of the session and
up to so many. -/
theorem outcomes_take (a : Assembler) (count : Nat) (ls : List Text) :
    (a.take count ls).outcomes = (Outcome.uptoEnd (a.outcomes ls)).take count := by
  induction ls generalizing a count with
  | nil => cases count <;> rfl
  | cons line rest ih =>
    cases count with
    | zero => rw [List.take_zero, take]
    | succ count =>
      by_cases hend : (a.feed line).2 = some .sessionEnd
      · -- The outcomes behind the end of the session are cut off.
        rw [take_cons_end _ _ hend, fed_singleton, outcomes, hend, Option.toList_some,
          List.singleton_append, Outcome.uptoEnd, List.take_succ_cons, List.take_nil]
      · have hnot : .sessionEnd ∉ (a.feed line).2.toList := fun hmem => hend (Option.mem_toList.1 hmem)
        have hroom : (a.feed line).2.toList.length ≤ count + 1 :=
          Nat.le_trans (length_toList_le_one _) (Nat.le_add_left 1 count)
        rw [take_cons _ _ hend, fed_singleton, outcomes, Outcome.uptoEnd_append_of_not_mem hnot,
          List.take_append, List.take_of_length_le hroom, ← ih]
        rfl

/-! ## What is read -/

/-- The search for outcomes is over: as many were found as were asked for, or the session has ended. -/
def Settled (count : Nat) (found : List Outcome) : Prop :=
  found.length = count ∨ .sessionEnd ∈ found

/-- Behind a line that does not end the session there is still to be found what the line did not lead
to. -/
lemma settled_append_iff {count : Nat} {first : Option Outcome} (h : first ≠ some .sessionEnd)
    (more : List Outcome) :
    Settled (count + 1) (first.toList ++ more) ↔
      Settled (count + 1 - first.toList.length) more := by
  have hone := length_toList_le_one first
  have hnot : .sessionEnd ∉ first.toList := fun hmem => h (Option.mem_toList.1 hmem)
  have hcount : first.toList.length + more.length = count + 1 ↔
      more.length = count + 1 - first.toList.length := by omega
  rw [Settled, Settled, List.length_append, hcount, List.mem_append, or_iff_right hnot]

/-- A reading feeds the first lines one by one. It feeds all lines if it does not find what it was asked
for. -/
theorem exists_fed_of_take (a : Assembler) (count : Nat) (ls : List Text) :
    ∃ front unread, ls = front ++ unread ∧ a.take count ls = a.fed front unread ∧
      (¬ Settled count (a.outcomes front) → unread = []) := by
  induction ls generalizing a count with
  | nil =>
    refine ⟨[], [], rfl, ?_, fun _ => rfl⟩
    cases count <;> rfl
  | cons line rest ih =>
    cases count with
    | zero => exact ⟨[], line :: rest, rfl, rfl, fun hnot => absurd (.inl rfl) hnot⟩
    | succ count =>
      have hcons : ∀ front, a.outcomes (line :: front) =
          (a.feed line).2.toList ++ (a.feed line).1.outcomes front := fun _ => rfl
      by_cases hend : (a.feed line).2 = some .sessionEnd
      · have hmem : .sessionEnd ∈ a.outcomes [line] := by
          rw [hcons, hend]
          exact List.mem_cons_self
        exact ⟨[line], rest, rfl, take_cons_end count rest hend, fun hnot => absurd (.inr hmem) hnot⟩
      · obtain ⟨front, unread, rfl, htake, hall⟩ :=
          ih (a.feed line).1 (count + 1 - (a.feed line).2.toList.length)
        refine ⟨line :: front, unread, rfl, ?_, fun hnot => ?_⟩
        · rw [take_cons count _ hend, htake, fed_singleton_followedBy]
        · rw [hcons] at hnot
          exact hall fun hsettled => hnot ((settled_append_iff hend _).2 hsettled)

/-- The assembler is left as the lines that were read leave it. -/
theorem exists_front_of_take (a : Assembler) (count : Nat) (ls : List Text) :
    ∃ front, ls = front ++ (a.take count ls).unread ∧
      (a.take count ls).assembler = a.feedAll front := by
  obtain ⟨front, unread, hls, htake, -⟩ := a.exists_fed_of_take count ls
  rw [htake]
  exact ⟨front, hls, rfl⟩

/-! ## Reading everything -/

/-- Reading all lines leads to the outcomes of feeding them, up to the end of the session. -/
theorem outcomes_takeAll (a : Assembler) (ls : List Text) :
    (a.takeAll ls).outcomes = Outcome.uptoEnd (a.outcomes ls) := by
  have hcut := Outcome.length_uptoEnd_le (a.outcomes ls)
  have hlines := a.length_outcomes_le ls
  rw [takeAll, outcomes_take]
  apply List.take_of_length_le
  omega

/-- Any count that is too large to be reached does for reading all lines. -/
lemma take_of_length_lt {a : Assembler} {count : Nat} {ls : List Text} (h : ls.length < count) :
    a.take count ls = a.takeAll ls := by
  induction ls generalizing a count with
  | nil =>
    obtain ⟨count, rfl⟩ := Nat.exists_eq_succ_of_ne_zero (Nat.ne_zero_of_lt h)
    rfl
  | cons line rest ih =>
    obtain ⟨count, rfl⟩ := Nat.exists_eq_succ_of_ne_zero (Nat.ne_zero_of_lt h)
    rw [List.length_cons] at h
    have hone := length_toList_le_one (a.feed line).2
    rw [takeAll, List.length_cons]
    by_cases hend : (a.feed line).2 = some .sessionEnd
    · rw [take_cons_end _ rest hend, take_cons_end _ rest hend]
    · rw [take_cons _ rest hend, take_cons _ rest hend, ih (by omega), ih (by omega)]

/-- The first line that is read of all lines, unless it ends the session. -/
lemma takeAll_cons {a : Assembler} {line : Text} (rest : List Text)
    (h : (a.feed line).2 ≠ some .sessionEnd) :
    a.takeAll (line :: rest) = (a.fed [line] rest).followedBy ((a.feed line).1.takeAll rest) := by
  have hone := length_toList_le_one (a.feed line).2
  rw [takeAll, List.length_cons, take_cons _ rest h, take_of_length_lt (by omega)]

/-- Lines that do not end the session are fed, and the lines behind them are read. -/
theorem takeAll_append_of_not_mem {a : Assembler} {front : List Text}
    (h : .sessionEnd ∉ a.outcomes front) (more : List Text) :
    a.takeAll (front ++ more) = (a.fed front more).followedBy ((a.feedAll front).takeAll more) := by
  induction front generalizing a with
  | nil => rfl
  | cons line front ih =>
    rw [outcomes, List.mem_append, not_or, Option.mem_toList] at h
    rw [List.cons_append, takeAll_cons _ h.1, ih h.2, ← Reading.followedBy_assoc,
      fed_singleton_followedBy]
    rfl

/-- If no session ends in them, all lines are read, and the assembler is left as feeding them leaves
it. -/
theorem takeAll_of_not_mem {a : Assembler} {ls : List Text} (h : .sessionEnd ∉ a.outcomes ls) :
    (a.takeAll ls).unread = [] ∧ (a.takeAll ls).assembler = a.feedAll ls := by
  have hread := takeAll_append_of_not_mem h []
  rw [List.append_nil] at hread
  rw [hread]
  exact ⟨rfl, rfl⟩

end Assembler
end LineHighlight
