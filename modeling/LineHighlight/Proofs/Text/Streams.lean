import LineHighlight.Proofs.Text.Lines

/-!
# Texts on a stream

A stream hands out a text line by line and takes any kind of line break for the end of a line.

* `rawLines_unifyBreaks_unlines_append`, lines that were written are handed out as they are, whatever
  is behind them, so that `lines_unifyBreaks_unlines` reads what was written;
* `break_not_mem_of_mem_lines`, no line that is handed out has a line break;
* `exists_eq_unlines_append`, a text that stops anywhere is written lines and an unfinished one;
* `splitCode_unlines`, lines that were written are the lines of a piece of code.
-/

namespace LineHighlight.Text

/-! ## Written lines -/

/-- Lines of two texts are written one after the other. -/
lemma unlines_append (ls more : List Text) : unlines (ls ++ more) = unlines ls ++ unlines more :=
  List.flatMap_append

/-- Lines are written group by group. -/
lemma unlines_flatMap {α : Type} (f : α → List Text) (as : List α) :
    unlines (as.flatMap f) = as.flatMap fun a => unlines (f a) :=
  List.flatMap_assoc

/-- Lines that were written are handed out as they are, whatever is behind them. -/
lemma rawLines_unifyBreaks_unlines_append {ls : List Text} (h : ∀ l ∈ ls, '\n' ∉ l ∧ '\r' ∉ l)
    (more : Text) :
    rawLines (unifyBreaks (unlines ls ++ more)) =
      ls.map (· ++ ['\n']) ++ rawLines (unifyBreaks more) := by
  have hcr : '\r' ∉ unlines ls := cr_not_mem_unlines fun l hl => (h l hl).2
  rw [unifyBreaks_append_of_not_mem hcr, rawLines_unlines_append fun l hl => (h l hl).1]

/-- Lines that were written are read again. -/
lemma lines_unifyBreaks_unlines {ls : List Text} (h : ∀ l ∈ ls, '\n' ∉ l ∧ '\r' ∉ l) :
    lines (unifyBreaks (unlines ls)) = ls := by
  have hcr : '\r' ∉ unlines ls := cr_not_mem_unlines fun l hl => (h l hl).2
  rw [unifyBreaks_of_not_mem hcr]
  exact lines_unlines (fun l hl => (h l hl).1) fun l hl => (h l hl).2

/-! ## Lines that are read -/

/-- What is in a line is in the text. -/
lemma mem_of_mem_rawLines {c : Char} {t raw : Text} (h : raw ∈ rawLines t) (hc : c ∈ raw) : c ∈ t := by
  rw [← flatten_rawLines t]
  exact List.mem_flatten.2 ⟨raw, h, hc⟩

/-- A line has no line feed but the one that ends it. -/
lemma exists_of_mem_rawLines {t raw : Text} (h : raw ∈ rawLines t) :
    ∃ line, '\n' ∉ line ∧ (raw = line ∨ raw = line ++ ['\n']) := by
  induction t generalizing raw with
  | nil => exact absurd h List.not_mem_nil
  | cons c rest ih =>
    by_cases hc : c = '\n'
    · rw [rawLines, if_pos hc, List.mem_cons] at h
      rcases h with rfl | h
      · exact ⟨[], List.not_mem_nil, .inr (hc ▸ rfl)⟩
      · exact ih h
    · have hfirst : ∀ {line : Text}, '\n' ∉ line → '\n' ∉ c :: line := by
        intro line hline
        rw [List.mem_cons, not_or]
        exact ⟨fun e => hc e.symm, hline⟩
      rw [rawLines, if_neg hc] at h
      cases hlines : rawLines rest with
      | nil =>
        rw [hlines] at h
        exact ⟨[c], hfirst List.not_mem_nil, .inl (List.mem_singleton.1 h)⟩
      | cons first more =>
        rw [hlines] at h ih
        rcases List.mem_cons.1 h with rfl | h
        · -- The character is put in front of the first line.
          obtain ⟨line, hline, hraw⟩ := ih List.mem_cons_self
          refine ⟨c :: line, hfirst hline, ?_⟩
          rcases hraw with hraw | hraw
          · exact .inl (congrArg (c :: ·) hraw)
          · exact .inr (congrArg (c :: ·) hraw)
        · exact ih (List.mem_cons_of_mem first h)

/-- An unfinished line keeps all its characters. -/
lemma stripTerminator_of_not_mem {t : Text} (h : '\n' ∉ t) : stripTerminator t = t := by
  rw [stripTerminator, if_neg]
  exact fun hlast => h (List.mem_of_getLast? hlast)

/-- No line that is read from a stream has a line break. -/
lemma break_not_mem_of_mem_lines {t line : Text} (h : line ∈ lines (unifyBreaks t)) :
    '\n' ∉ line ∧ '\r' ∉ line := by
  obtain ⟨raw, hraw, rfl⟩ := List.mem_map.1 h
  have hcr : '\r' ∉ raw := fun hmem => cr_not_mem_unifyBreaks t (mem_of_mem_rawLines hraw hmem)
  obtain ⟨line, hlf, rfl | rfl⟩ := exists_of_mem_rawLines hraw
  · rw [stripTerminator_of_not_mem hlf]
    exact ⟨hlf, hcr⟩
  · have hline : '\r' ∉ line := fun hmem => hcr (List.mem_append_left _ hmem)
    rw [stripTerminator_append_lf hline]
    exact ⟨hlf, hline⟩

/-! ## Unfinished lines -/

/-- A text is written lines and, behind them, an unfinished line that may be empty. -/
lemma exists_eq_unlines_append (t : Text) :
    ∃ ls last, t = unlines ls ++ last ∧ (∀ l ∈ ls, '\n' ∉ l) ∧ '\n' ∉ last := by
  obtain ⟨ls, last, hpieces⟩ := exists_pieces_eq_concat '\n' t
  have hlf : ∀ l ∈ ls ++ [last], '\n' ∉ l := fun l hl => not_mem_of_mem_pieces (hpieces ▸ hl)
  refine ⟨ls, last, ?_, fun l hl => hlf l (List.mem_append_left _ hl),
    hlf last List.mem_concat_self⟩
  have hwritten := unlines_pieces t
  rw [hpieces, unlines_append] at hwritten
  have hone : unlines [last] = last ++ ['\n'] := List.flatMap_singleton _ _
  rw [hone, ← List.append_assoc] at hwritten
  exact (List.append_cancel_right hwritten).symm

/-- An unfinished line is handed out as it is, unless it is empty. -/
lemma rawLines_of_not_mem {t : Text} (h : '\n' ∉ t) : rawLines t = if t = [] then [] else [t] := by
  induction t with
  | nil => rfl
  | cons c t ih =>
    rw [List.mem_cons, not_or] at h
    rw [rawLines, if_neg (fun e => h.1 e.symm), ih h.2, if_neg (List.cons_ne_nil c t)]
    by_cases ht : t = []
    · rw [if_pos ht, ht]
    · rw [if_neg ht]

/-! ## Lines of code -/

/-- Lines that were written are the lines of a piece of code. -/
theorem splitCode_unlines {ls : List Text} (h : ∀ l ∈ ls, '\n' ∉ l ∧ '\r' ∉ l) :
    splitCode (unlines ls) = ls := by
  cases ls with
  | nil => rfl
  | cons l ls =>
    have hne : unlines (l :: ls) ≠ [] := by simp [unlines]
    have hcr : '\r' ∉ unlines (l :: ls) := cr_not_mem_unlines fun l hl => (h l hl).2
    have hpieces : pieces '\n' (unifyBreaks (unlines (l :: ls))) = l :: ls ++ [[]] := by
      rw [unifyBreaks_of_not_mem hcr]
      exact pieces_unlines fun l hl => (h l hl).1
    rw [splitCode_of_ne_nil hne, hpieces, if_pos List.getLast?_concat, List.dropLast_concat]

end LineHighlight.Text
