import LineHighlight.Proofs.Request.Outcomes

/-!
# Reading no further than needed

A lazy reader that is asked for some outcomes feeds exactly the lines that lead to them, and leaves the
lines behind them to whoever reads next. `prefix_of_settled` says that no fewer lines would have done,
and `completed_takePortions` that reading in portions is reading all at once.
-/

namespace LineHighlight.Assembler

/-! ## The lines that are needed -/

/-- A reading that finds what it was asked for takes no notice of further lines. -/
theorem take_append_of_settled {a : Assembler} {count : Nat} {ls : List Text}
    (h : Settled count (a.take count ls).outcomes) (more : List Text) :
    a.take count (ls ++ more) =
      { a.take count ls with unread := (a.take count ls).unread ++ more } := by
  induction ls generalizing a count with
  | nil =>
    cases count with
    | zero => rfl
    | succ count =>
      rcases h with h | h
      · exact nomatch h
      · exact nomatch h
  | cons line rest ih =>
    cases count with
    | zero => rfl
    | succ count =>
      rw [List.cons_append]
      by_cases hend : (a.feed line).2 = some .sessionEnd
      · rw [take_cons_end _ _ hend, take_cons_end _ _ hend]
        rfl
      · rw [take_cons _ _ hend, fed_singleton] at h
        rw [take_cons _ _ hend, take_cons _ _ hend, ih ((settled_append_iff hend _).1 h)]
        rfl

/-- If a reading finds what it was asked for, then no fewer lines lead to the same outcomes. -/
theorem prefix_of_settled {a : Assembler} {count : Nat} {front unread part : List Text}
    (htake : a.take count (front ++ unread) = a.fed front unread)
    (hsettled : Settled count (a.outcomes front)) (hpart : part <+: front ++ unread)
    (hsame : a.outcomes part = a.outcomes front) : front <+: part := by
  obtain ⟨more, hmore⟩ := hpart
  obtain ⟨found, left, rfl, hfound, hall⟩ := a.exists_fed_of_take count part
  -- The same reading of fewer lines finds what it was asked for, too.
  have henough : Settled count (a.outcomes found) := by
    refine Classical.byContradiction fun hnot => hnot ?_
    rw [hall hnot, List.append_nil] at hsame
    rw [hsame]
    exact hsettled
  have hlonger : a.take count (front ++ unread) = a.fed found (left ++ more) := by
    have hsettledFound : Settled count (a.take count (found ++ left)).outcomes := by
      rw [hfound]
      exact henough
    rw [← hmore, take_append_of_settled hsettledFound, hfound]
    rfl
  -- So both readings leave the same lines unread.
  have hunread : unread = left ++ more := congrArg Reading.unread (htake.symm.trans hlonger)
  rw [hunread, List.append_assoc] at hmore
  rw [← List.append_cancel_right hmore]
  exact List.prefix_append found left

/-! ## Behind the end of a session -/

/-- A reading that finds the end of the session is the reading of all lines. -/
lemma takeAll_of_mem {a : Assembler} {count : Nat} {ls : List Text}
    (h : .sessionEnd ∈ (a.take count ls).outcomes) : a.takeAll ls = a.take count ls := by
  induction ls generalizing a count with
  | nil => cases count <;> exact nomatch h
  | cons line rest ih =>
    cases count with
    | zero => exact nomatch h
    | succ count =>
      by_cases hend : (a.feed line).2 = some .sessionEnd
      · rw [takeAll, List.length_cons, take_cons_end _ _ hend, take_cons_end _ _ hend]
      · rw [take_cons _ _ hend, fed_singleton] at h
        rcases List.mem_append.1 h with h | h
        · exact absurd (Option.mem_toList.1 h) hend
        · rw [takeAll_cons _ hend, ih h, take_cons _ _ hend]

/-- Lines behind the end of a session are left unread. -/
theorem takeAll_append_of_mem {a : Assembler} {count : Nat} {ls : List Text}
    (h : .sessionEnd ∈ (a.take count ls).outcomes) (more : List Text) :
    a.takeAll (ls ++ more) =
      { a.take count ls with unread := (a.take count ls).unread ++ more } := by
  have hlarge : a.take ((ls ++ more).length + 1) ls = a.take count ls := by
    rw [take_of_length_lt (by rw [List.length_append]; omega), takeAll_of_mem h]
  have hsettled : Settled ((ls ++ more).length + 1)
      (a.take ((ls ++ more).length + 1) ls).outcomes := by
    rw [hlarge]
    exact .inr h
  rw [takeAll, take_append_of_settled hsettled, hlarge]

/-! ## Reading in portions -/

/-- One of several readings: it is handed the next `lines` of the lines that are left, and it is asked
for at most `count` outcomes. -/
structure Portion where
  lines : Nat
  count : Nat
  deriving DecidableEq, Repr

/-- Reads one portion. The lines that are handed over and not read, and those behind them, are left. -/
def takePortion (a : Assembler) (ls : List Text) (p : Portion) : Reading :=
  let part := a.take p.count (ls.take p.lines)
  { part with unread := part.unread ++ ls.drop p.lines }

/-- Reads portions of what is left, one after another, but none after the end of the session. -/
def takePortions (a : Assembler) (ls : List Text) : List Portion → Reading
  | [] => ⟨[], a, [], ls⟩
  | p :: rest =>
    let done := a.takePortion ls p
    if .sessionEnd ∈ done.outcomes then done
    else done.followedBy (done.assembler.takePortions done.unread rest)

/-- A reading that is carried on to the end: all lines that are left are read, too, unless the session
has ended. -/
def Reading.completed (r : Reading) : Reading :=
  if .sessionEnd ∈ r.outcomes then r else r.followedBy (r.assembler.takeAll r.unread)

/-- Behind a reading without the end of the session it is the other reading that is carried on. -/
lemma Reading.completed_followedBy {r : Reading} (h : .sessionEnd ∉ r.outcomes) (more : Reading) :
    (r.followedBy more).completed = r.followedBy more.completed := by
  unfold completed
  by_cases hmore : .sessionEnd ∈ more.outcomes
  · rw [if_pos hmore, if_pos]
    exact List.mem_append_right _ hmore
  · have hnone : .sessionEnd ∉ (r.followedBy more).outcomes := by
      rw [followedBy, List.mem_append, not_or]
      exact ⟨h, hmore⟩
    rw [if_neg hmore, if_neg hnone, followedBy_assoc]
    rfl

/-- One portion and all that is left come to all lines. -/
theorem completed_takePortion (a : Assembler) (ls : List Text) (p : Portion) :
    (a.takePortion ls p).completed = a.takeAll ls := by
  have hcut : ls.take p.lines ++ ls.drop p.lines = ls := List.take_append_drop p.lines ls
  by_cases hend : .sessionEnd ∈ (a.take p.count (ls.take p.lines)).outcomes
  · have hall := takeAll_append_of_mem hend (ls.drop p.lines)
    rw [hcut] at hall
    rw [hall]
    exact if_pos hend
  · obtain ⟨front, unread, hfront, hpart, -⟩ := a.exists_fed_of_take p.count (ls.take p.lines)
    have hportion : a.takePortion ls p = a.fed front (unread ++ ls.drop p.lines) := by
      rw [takePortion, hpart]
      rfl
    rw [hpart] at hend
    have hall := takeAll_append_of_not_mem hend (unread ++ ls.drop p.lines)
    rw [← List.append_assoc, ← hfront, hcut] at hall
    rw [hall, hportion]
    exact if_neg hend

/-- However lines are read in portions, it comes to reading them all. -/
theorem completed_takePortions (a : Assembler) (ls : List Text) (portions : List Portion) :
    (a.takePortions ls portions).completed = a.takeAll ls := by
  induction portions generalizing a ls with
  | nil => rfl
  | cons p rest ih =>
    rw [takePortions]
    by_cases hend : .sessionEnd ∈ (a.takePortion ls p).outcomes
    · rw [if_pos hend, completed_takePortion]
    · have hone := a.completed_takePortion ls p
      rw [Reading.completed, if_neg hend] at hone
      rw [if_neg hend, Reading.completed_followedBy hend, ih, hone]

/-- Reading lazily agrees with feeding line by line. A reading gives the first outcomes of feeding the
lines, cut off behind the end of the session. It has fed a first part of the lines, and left the rest
unread: the shortest part that leads to these outcomes if it found as many as it was asked for or the
end of the session, and else all lines. Reading in portions, and what is then left, comes to reading all
lines at once: the outcomes, the assembler, the log and the unread lines are the same. -/
theorem take_eq_feeding (a : Assembler) (ls : List Text) :
    (∀ count,
      let reading := a.take count ls
      reading.outcomes = (Outcome.uptoEnd (a.outcomes ls)).take count ∧
        ∃ front, ls = front ++ reading.unread ∧ reading = a.fed front reading.unread ∧
          (Settled count reading.outcomes →
            ∀ part, part <+: ls → a.outcomes part = reading.outcomes → front <+: part) ∧
          (¬ Settled count reading.outcomes → front = ls)) ∧
      ∀ portions, (a.takePortions ls portions).completed = a.takeAll ls := by
  refine ⟨fun count => ⟨outcomes_take a count ls, ?_⟩, a.completed_takePortions ls⟩
  obtain ⟨front, unread, rfl, htake, hall⟩ := a.exists_fed_of_take count ls
  rw [htake]
  refine ⟨front, rfl, rfl, fun hsettled part hpart hsame => ?_, fun hnot => ?_⟩
  · exact prefix_of_settled htake hsettled hpart hsame
  · rw [hall hnot, List.append_nil]

/-- The third outcome is not there any more, as the session ends before it, and the last lines are left
unread. In portions the same is found, where one of them stops in the middle and one finds nothing. -/
theorem take_eq_feeding_portions :
    let ls := ["\tx", "a", "\ty", "", "", "b"].map String.toList
    let portions : List Portion := [⟨2, 1⟩, ⟨0, 4⟩, ⟨9, 1⟩]
    (fresh.take 3 ls).outcomes = [.request ⟨"a".toList, "y\n".toList⟩, .sessionEnd] ∧
      (fresh.take 3 ls).unread = ["b".toList] ∧
      (fresh.takePortions ls portions).completed = fresh.takeAll ls ∧
      (fresh.takePortions ls portions).unread = [[], "b".toList] := by
  intro ls portions
  obtain ⟨hreading, hportions⟩ := fresh.take_eq_feeding ls
  exact ⟨(hreading 3).1.trans (by decide), by decide, hportions portions, by decide⟩

end LineHighlight.Assembler
