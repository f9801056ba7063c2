import LineHighlight.Grammar.Lexer
import LineHighlight.Text.Lines
import Mathlib.Tactic.Lemma

/-!
# Cutting texts into lines and putting lines together

Facts about the views of the lines of a text:

* `unifyBreaks_of_not_mem`, reading a text that holds only line feeds;
* `unlines_pieces` and `pieces_unlines`, cutting and putting together undo each other;
* `lines_unlines`, what a stream hands out of lines that were written one after another;
* `unlines_splitCode`, the lines of a piece of code make up the code;
* `canonicalSource_unlines_splitCode`, a lexer sees the same text in a piece of code and in its
  lines;
* `canonicalSource_eq_unlines`, the lines that a lexer sees.
-/

namespace LineHighlight.Text

/-! ## One kind of line break -/

/-- A character that is no carriage return stays where it is. -/
lemma unifyBreaks_cons {c : Char} (h : c ≠ '\r') (t : Text) :
    unifyBreaks (c :: t) = c :: unifyBreaks t := by
  rw [unifyBreaks]
  · exact fun _ hr _ => h hr
  · exact fun hr => h hr

/-- A text without carriage returns is left as it is in front of any other text. -/
lemma unifyBreaks_append_of_not_mem {s : Text} (h : '\r' ∉ s) (t : Text) :
    unifyBreaks (s ++ t) = s ++ unifyBreaks t := by
  induction s with
  | nil => rfl
  | cons c s ih =>
    rw [List.mem_cons, not_or] at h
    have hc : c ≠ '\r' := fun e => h.1 e.symm
    rw [List.cons_append, unifyBreaks_cons hc, ih h.2, List.cons_append]

/-- A text without carriage returns is not changed by unifying its line breaks. -/
lemma unifyBreaks_of_not_mem {t : Text} (h : '\r' ∉ t) : unifyBreaks t = t := by
  have hnil := unifyBreaks_append_of_not_mem h []
  rw [List.append_nil, unifyBreaks, List.append_nil] at hnil
  exact hnil

/-- Unified text holds no carriage return. -/
lemma cr_not_mem_unifyBreaks (t : Text) : '\r' ∉ unifyBreaks t := by
  fun_induction unifyBreaks t with
  | case1 => simp
  | case2 rest ih =>
    rw [List.mem_cons, not_or]
    exact ⟨by decide, ih⟩
  | case3 rest _ ih =>
    rw [List.mem_cons, not_or]
    exact ⟨by decide, ih⟩
  | case4 c rest _ hc ih =>
    rw [List.mem_cons, not_or]
    exact ⟨fun e => hc e.symm, ih⟩

/-- Only the empty text is empty after unifying. -/
lemma unifyBreaks_eq_nil_iff {t : Text} : unifyBreaks t = [] ↔ t = [] := by
  constructor
  · intro h
    unfold unifyBreaks at h
    split at h
    · rfl
    all_goals exact absurd h (List.cons_ne_nil _ _)
  · intro h
    rw [h, unifyBreaks]

/-! ## Pieces -/

/-- Cutting at a character is the splitting of the list library. -/
lemma pieces_eq_splitOn (c : Char) (t : Text) : pieces c t = t.splitOn c := by
  induction t with
  | nil => rfl
  | cons d rest ih =>
    rw [List.splitOn_cons_eq_if_modifyHead, pieces, ih]
    by_cases h : d = c
    · rw [if_pos h, if_pos (beq_iff_eq.2 h)]
    · rw [if_neg h, if_neg (fun e => h (beq_iff_eq.1 e))]
      obtain ⟨piece, more, hp⟩ := List.exists_cons_of_ne_nil (List.splitOn_ne_nil c rest)
      rw [hp]
      rfl

/-- A text without the character is one piece. -/
lemma pieces_of_not_mem {c : Char} {t : Text} (h : c ∉ t) : pieces c t = [t] := by
  rw [pieces_eq_splitOn, List.splitOn_eq_singleton h]

/-- The pieces on both sides of the character. -/
lemma pieces_append_cons (c : Char) (s t : Text) :
    pieces c (s ++ c :: t) = pieces c s ++ pieces c t := by
  rw [pieces_eq_splitOn, pieces_eq_splitOn, pieces_eq_splitOn, List.splitOn_append_cons_self]

/-- No piece holds the character. -/
lemma not_mem_of_mem_pieces {c : Char} {t piece : Text} (h : piece ∈ pieces c t) : c ∉ piece := by
  induction t generalizing piece with
  | nil =>
    rw [pieces, List.mem_singleton] at h
    rw [h]
    exact List.not_mem_nil
  | cons d rest ih =>
    by_cases hd : d = c
    · rw [pieces, if_pos hd, List.mem_cons] at h
      rcases h with rfl | h
      · exact List.not_mem_nil
      · exact ih h
    · obtain ⟨first, more, hp⟩ := List.exists_cons_of_ne_nil (pieces_ne_nil c rest)
      rw [pieces, if_neg hd, hp, List.mem_cons] at h
      rcases h with rfl | h
      · rw [List.mem_cons, not_or]
        exact ⟨fun e => hd e.symm, ih (hp ▸ List.mem_cons_self)⟩
      · exact ih (hp ▸ List.mem_cons_of_mem _ h)

/-- A text cut into one piece for each line feed and one more, written with a line feed after each
piece. -/
lemma unlines_pieces (t : Text) : unlines (pieces '\n' t) = t ++ ['\n'] := by
  unfold unlines
  induction t with
  | nil => rfl
  | cons c rest ih =>
    by_cases hc : c = '\n'
    · rw [pieces, if_pos hc, List.flatMap_cons, ih, hc]
      rfl
    · obtain ⟨first, more, hp⟩ := List.exists_cons_of_ne_nil (pieces_ne_nil '\n' rest)
      rw [hp, List.flatMap_cons] at ih
      rw [pieces, if_neg hc, hp, List.flatMap_cons, List.cons_append, List.cons_append, ih]
      rfl

/-- The pieces of lines that were written one after another are these lines and nothing behind the
last one. -/
lemma pieces_unlines {ls : List Text} (h : ∀ l ∈ ls, '\n' ∉ l) :
    pieces '\n' (unlines ls) = ls ++ [[]] := by
  induction ls with
  | nil => rfl
  | cons l ls ih =>
    have hl := h l List.mem_cons_self
    have hcut : unlines (l :: ls) = l ++ '\n' :: unlines ls := by
      unfold unlines
      rw [List.flatMap_cons, List.append_assoc]
      rfl
    rw [hcut, pieces_append_cons, pieces_of_not_mem hl,
      ih fun l' hl' => h l' (List.mem_cons_of_mem l hl')]
    rfl

/-- Lines without carriage returns make a text without carriage returns. -/
lemma cr_not_mem_unlines {ls : List Text} (h : ∀ l ∈ ls, '\r' ∉ l) : '\r' ∉ unlines ls := by
  intro hmem
  obtain ⟨l, hl, hcr⟩ := List.mem_flatMap.1 hmem
  rcases List.mem_append.1 hcr with hcr | hcr
  · exact h l hl hcr
  · exact absurd (List.mem_singleton.1 hcr) (by decide)

/-- What is in a piece is in the text. -/
lemma mem_of_mem_pieces {d : Char} {t piece : Text} (h : piece ∈ pieces '\n' t)
    (hd : d ∈ piece) : d ∈ t := by
  have hmem : d ∈ unlines (pieces '\n' t) :=
    List.mem_flatMap.2 ⟨piece, h, List.mem_append_left _ hd⟩
  rw [unlines_pieces, List.mem_append, List.mem_singleton] at hmem
  rcases hmem with hmem | rfl
  · exact hmem
  · exact absurd hd (not_mem_of_mem_pieces h)

/-- A text has a last piece. -/
lemma exists_pieces_eq_concat (c : Char) (t : Text) :
    ∃ init last, pieces c t = init ++ [last] := by
  rcases List.eq_nil_or_concat (pieces c t) with h | ⟨init, last, h⟩
  · exact absurd h (pieces_ne_nil c t)
  · exact ⟨init, last, h.trans List.concat_eq_append⟩

/-- The last piece of a text and the first piece of the text after it become one. -/
lemma pieces_append {c : Char} {s t : Text} {init more : List Text} {last first : Text}
    (hs : pieces c s = init ++ [last]) (ht : pieces c t = first :: more) :
    pieces c (s ++ t) = init ++ (last ++ first) :: more := by
  induction s generalizing init last with
  | nil =>
    have hnil : [] ++ [[]] = init ++ [last] := hs
    obtain ⟨rfl, hlast⟩ := List.append_inj' hnil rfl
    rw [← (List.cons.inj hlast).1]
    exact ht
  | cons d rest ih =>
    obtain ⟨init', last', hp⟩ := exists_pieces_eq_concat c rest
    have hrest := ih hp
    rw [List.cons_append, pieces, hrest]
    rw [pieces, hp] at hs
    by_cases hd : d = c
    · -- The text is cut in front of `rest`.
      rw [if_pos hd] at hs ⊢
      have hs : ([] :: init') ++ [last'] = init ++ [last] := hs
      obtain ⟨hinit, hlast⟩ := List.append_inj' hs rfl
      rw [← hinit, (List.cons.inj hlast).1]
      rfl
    · -- The character goes to the first piece of `rest`, which may be the last one.
      rw [if_neg hd] at hs ⊢
      cases init' with
      | nil =>
        have hs : [] ++ [d :: last'] = init ++ [last] := hs
        obtain ⟨rfl, hlast⟩ := List.append_inj' hs rfl
        rw [← (List.cons.inj hlast).1]
        rfl
      | cons p init' =>
        have hs : ((d :: p) :: init') ++ [last'] = init ++ [last] := hs
        obtain ⟨hinit, hlast⟩ := List.append_inj' hs rfl
        rw [← hinit, (List.cons.inj hlast).1]
        rfl

/-- The last piece of a text that does not end with the character that is cut at is not empty. -/
lemma getLast?_pieces_ne {c d : Char} (hd : d ≠ c) (t : Text) :
    (pieces c (t ++ [d])).getLast? ≠ some [] := by
  obtain ⟨init, last, hp⟩ := exists_pieces_eq_concat c t
  have hone : pieces c [d] = [[d]] := pieces_of_not_mem (fun h => hd (List.mem_singleton.1 h).symm)
  rw [pieces_append hp hone, List.getLast?_append, List.getLast?_singleton, Option.some_or]
  intro h
  exact List.append_ne_nil_of_right_ne_nil last (List.cons_ne_nil d []) (Option.some.inj h)

/-! ## Lines as a stream hands them out -/

/-- The first line of a text ends with its first line feed. -/
lemma rawLines_append_lf {l : Text} (h : '\n' ∉ l) (rest : Text) :
    rawLines (l ++ '\n' :: rest) = (l ++ ['\n']) :: rawLines rest := by
  induction l with
  | nil => rw [List.nil_append, rawLines, if_pos rfl, List.nil_append]
  | cons c l ih =>
    rw [List.mem_cons, not_or] at h
    rw [List.cons_append, rawLines, if_neg (fun e => h.1 e.symm), ih h.2, List.cons_append]

/-- The lines of a stream on which lines were written one after another. -/
lemma rawLines_unlines_append {ls : List Text} (h : ∀ l ∈ ls, '\n' ∉ l) (rest : Text) :
    rawLines (unlines ls ++ rest) = ls.map (· ++ ['\n']) ++ rawLines rest := by
  induction ls with
  | nil => rfl
  | cons l ls ih =>
    have hl := h l List.mem_cons_self
    have hls := ih fun l' hl' => h l' (List.mem_cons_of_mem _ hl')
    have hcut : unlines (l :: ls) ++ rest = l ++ '\n' :: (unlines ls ++ rest) := by
      simp [unlines]
    rw [hcut, rawLines_append_lf hl, hls]
    rfl

/-- Taking the terminator off a line gives the line back. -/
lemma stripTerminator_append_lf {l : Text} (h : '\r' ∉ l) : stripTerminator (l ++ ['\n']) = l := by
  rw [stripTerminator, List.getLast?_concat, if_pos rfl, List.dropLast_concat, dropLastIf]
  rw [if_neg]
  exact fun hcr => h (List.mem_of_getLast? hcr)

/-- Lines written one after another are the lines of the text. -/
lemma lines_unlines {ls : List Text} (hlf : ∀ l ∈ ls, '\n' ∉ l) (hcr : ∀ l ∈ ls, '\r' ∉ l) :
    lines (unlines ls) = ls := by
  have hraw := rawLines_unlines_append hlf []
  rw [List.append_nil, rawLines, List.append_nil] at hraw
  have hstrip : ∀ l ∈ ls, (stripTerminator ∘ (· ++ ['\n'])) l = l :=
    fun l hl => stripTerminator_append_lf (hcr l hl)
  rw [lines, hraw, List.map_map, List.map_congr_left hstrip, List.map_id']

/-! ## Code as lines -/

/-- `t` with a line feed at its end. -/
def terminated (t : Text) : Text := if t.getLast? = some '\n' then t else t ++ ['\n']

lemma terminated_append_lf (t : Text) : terminated (t ++ ['\n']) = t ++ ['\n'] := by
  rw [terminated, if_pos List.getLast?_concat]

lemma terminated_append_of_ne {c : Char} (h : c ≠ '\n') (t : Text) :
    terminated (t ++ [c]) = t ++ [c] ++ ['\n'] := by
  rw [terminated, if_neg]
  rw [List.getLast?_concat]
  exact fun e => h (Option.some.inj e)

/-- Ending a text that ends in a line feed changes nothing. -/
lemma terminated_terminated (t : Text) : terminated (terminated t) = terminated t := by
  by_cases h : t.getLast? = some '\n'
  · have ht : terminated t = t := if_pos h
    rw [ht, ht]
  · have ht : terminated t = t ++ ['\n'] := if_neg h
    rw [ht, terminated_append_lf]

lemma splitCode_of_ne_nil {code : Text} (h : code ≠ []) :
    splitCode code =
      if (pieces '\n' (unifyBreaks code)).getLast? = some [] then
        (pieces '\n' (unifyBreaks code)).dropLast
      else pieces '\n' (unifyBreaks code) := by
  rw [splitCode, if_neg h]

/-- The lines of a piece of code, each followed by a line feed, are the code with line feeds as its
only line breaks and one at its end. -/
theorem unlines_splitCode {code : Text} (h : code ≠ []) :
    unlines (splitCode code) = terminated (unifyBreaks code) := by
  rw [splitCode_of_ne_nil h]
  rcases List.eq_nil_or_concat (unifyBreaks code) with hnil | ⟨s, d, hcat⟩
  · exact absurd (unifyBreaks_eq_nil_iff.1 hnil) h
  · rw [List.concat_eq_append] at hcat
    rw [hcat]
    by_cases hd : d = '\n'
    · -- Behind the last line feed there is an empty piece, which is no line.
      subst hd
      have hpieces : pieces '\n' (s ++ ['\n']) = pieces '\n' s ++ [[]] :=
        pieces_append_cons '\n' s []
      rw [hpieces, if_pos List.getLast?_concat, List.dropLast_concat, unlines_pieces,
        terminated_append_lf]
    · rw [if_neg (getLast?_pieces_ne hd s), unlines_pieces, terminated_append_of_ne hd]

/-- The lines of a piece of code are among its pieces. -/
lemma mem_pieces_of_mem_splitCode {code line : Text} (h : line ∈ splitCode code) :
    line ∈ pieces '\n' (unifyBreaks code) := by
  by_cases hc : code = []
  · rw [splitCode, if_pos hc] at h
    exact absurd h List.not_mem_nil
  · rw [splitCode_of_ne_nil hc] at h
    split at h
    · exact (List.dropLast_sublist _).subset h
    · exact h

/-- No line of a piece of code holds a line feed. -/
lemma lf_not_mem_of_mem_splitCode {code line : Text} (h : line ∈ splitCode code) : '\n' ∉ line :=
  not_mem_of_mem_pieces (mem_pieces_of_mem_splitCode h)

/-- No line of a piece of code holds a carriage return. -/
lemma cr_not_mem_of_mem_splitCode {code line : Text} (h : line ∈ splitCode code) : '\r' ∉ line :=
  fun hcr => cr_not_mem_unifyBreaks code (mem_of_mem_pieces (mem_pieces_of_mem_splitCode h) hcr)

/-- No line of a piece of code holds a line break. -/
lemma break_not_mem_of_mem_splitCode (code : Text) : ∀ l ∈ splitCode code, '\n' ∉ l ∧ '\r' ∉ l :=
  fun _ hl => ⟨lf_not_mem_of_mem_splitCode hl, cr_not_mem_of_mem_splitCode hl⟩

/-! ## What lexers read -/

/-- `t` without a byte order mark in front. -/
def withoutMark (t : Text) : Text := if t.head? = some '\uFEFF' then t.tail else t

/-- The form that lexers read is made in three steps. -/
lemma canonicalSource_eq (source : Text) :
    canonicalSource source = terminated (unifyBreaks (withoutMark source)) := rfl

/-- Unifying line breaks neither makes nor moves a mark in front of a text. -/
lemma unifyBreaks_withoutMark (t : Text) :
    unifyBreaks (withoutMark t) = withoutMark (unifyBreaks t) := by
  by_cases h : t.head? = some '\uFEFF'
  · obtain ⟨rest, rfl⟩ := List.head?_eq_some_iff.1 h
    rw [unifyBreaks_cons (by decide)]
    rfl
  · rw [withoutMark, if_neg h, withoutMark, if_neg]
    intro hu
    unfold unifyBreaks at hu
    split at hu
    · exact absurd hu (by decide)
    · exact absurd hu (by simp)
    · exact absurd hu (by simp)
    · exact h hu

/-- Whether the end of a text needs a line feed does not depend on a first character of another
kind. -/
lemma terminated_cons {c : Char} (h : c ≠ '\n') (t : Text) :
    terminated (c :: t) = c :: terminated t := by
  cases t with
  | nil => rw [← List.nil_append [c], terminated_append_of_ne h]; rfl
  | cons d rest =>
    unfold terminated
    rw [List.getLast?_cons_cons]
    split <;> rfl

lemma terminated_ne_nil (t : Text) : terminated t ≠ [] := by
  unfold terminated
  split
  · rename_i h
    rintro rfl
    exact absurd h (by decide)
  · exact List.append_ne_nil_of_right_ne_nil t (List.cons_ne_nil _ _)

/-- A mark in front of a text may be dropped before or after the text is ended by a line feed. -/
lemma terminated_withoutMark {t : Text} (h : t ≠ []) :
    terminated (withoutMark t) = withoutMark (terminated t) := by
  obtain ⟨c, rest, rfl⟩ := List.exists_cons_of_ne_nil h
  by_cases hc : c = '\uFEFF'
  · rw [hc, terminated_cons (by decide)]
    rfl
  · have hmark : ∀ t : Text, withoutMark (c :: t) = c :: t := fun t =>
      if_neg fun e => hc (Option.some.inj e)
    have hhead : ∃ t, terminated (c :: rest) = c :: t := by
      unfold terminated
      split
      · exact ⟨rest, rfl⟩
      · exact ⟨rest ++ ['\n'], rfl⟩
    obtain ⟨t, ht⟩ := hhead
    rw [hmark, ht, hmark]

/-- The form that lexers read is the lines of the code without a mark in front. -/
lemma canonicalSource_eq_withoutMark {code : Text} (h : code ≠ []) :
    canonicalSource code = withoutMark (unlines (splitCode code)) := by
  have hne : unifyBreaks code ≠ [] := fun e => h (unifyBreaks_eq_nil_iff.1 e)
  rw [canonicalSource_eq, unifyBreaks_withoutMark, terminated_withoutMark hne, unlines_splitCode h]

/-- A lexer sees the same text in a piece of code and in its lines, each followed by a line feed. -/
theorem canonicalSource_unlines_splitCode (code : Text) :
    canonicalSource (unlines (splitCode code)) = canonicalSource code := by
  by_cases h : code = []
  · rw [h]
    rfl
  · have hcr : '\r' ∉ unlines (splitCode code) :=
      cr_not_mem_unlines fun _ hl => cr_not_mem_of_mem_splitCode hl
    rw [canonicalSource_eq_withoutMark h, canonicalSource_eq, unifyBreaks_withoutMark,
      unifyBreaks_of_not_mem hcr, unlines_splitCode h, terminated_withoutMark (terminated_ne_nil _),
      terminated_terminated]

/-! ## The lines that lexers see -/

/-- The lines that a lexer sees of a piece of code. -/
def seenLines (code : Text) : List Text :=
  match splitCode code with
  | [] => [[]]
  | first :: more => withoutMark first :: more

/-- Dropping the mark in front of lines is dropping it in front of the first one. -/
lemma withoutMark_unlines_cons (first : Text) (more : List Text) :
    withoutMark (unlines (first :: more)) = unlines (withoutMark first :: more) := by
  cases first with
  | nil => rfl
  | cons c rest =>
    unfold withoutMark
    by_cases hc : c = '\uFEFF'
    · rw [hc]
      rfl
    · have hne : ∀ t : Text, ¬ (c :: t).head? = some '\uFEFF' :=
        fun t h => hc (Option.some.inj h)
      rw [if_neg (hne _), if_neg]
      exact hne (rest ++ ['\n'] ++ unlines more)

/-- A piece of code has lines. -/
lemma splitCode_ne_nil {code : Text} (h : code ≠ []) : splitCode code ≠ [] := by
  intro hnil
  have hlines := unlines_splitCode h
  rw [hnil] at hlines
  exact terminated_ne_nil _ hlines.symm

/-- The form that lexers read consists of the lines that they see. -/
theorem canonicalSource_eq_unlines (code : Text) :
    canonicalSource code = unlines (seenLines code) := by
  by_cases h : code = []
  · rw [h]
    rfl
  · obtain ⟨first, more, hlines⟩ := List.exists_cons_of_ne_nil (splitCode_ne_nil h)
    rw [canonicalSource_eq_withoutMark h, seenLines, hlines, withoutMark_unlines_cons]

/-- A lexer sees no line break within a line. -/
lemma break_not_mem_of_mem_seenLines {code line : Text} (h : line ∈ seenLines code) :
    '\n' ∉ line ∧ '\r' ∉ line := by
  have hsplit := break_not_mem_of_mem_splitCode code
  unfold seenLines at h
  split at h
  · rw [List.mem_singleton.1 h]
    exact ⟨List.not_mem_nil, List.not_mem_nil⟩
  · rename_i first more hlines
    rw [hlines] at hsplit
    rcases List.mem_cons.1 h with rfl | h
    · have hfirst := hsplit first List.mem_cons_self
      unfold withoutMark
      split
      · exact ⟨fun hm => hfirst.1 (List.mem_of_mem_tail hm), fun hm => hfirst.2 (List.mem_of_mem_tail hm)⟩
      · exact hfirst
    · exact hsplit line (List.mem_cons_of_mem first h)

/-- A line that a lexer sees and the code does not have is the first one, and the code has it with
a mark in front. -/
lemma eq_head_of_mem_seenLines {code line : Text} {i : Nat} (hseen : (seenLines code)[i]? = some line)
    (hcode : line ∉ splitCode code) (hne : line ≠ []) :
    i = 0 ∧ (splitCode code).head? = some ('\uFEFF' :: line) := by
  unfold seenLines at hseen
  split at hseen
  · cases i with
    | zero => exact absurd (Option.some.inj hseen).symm hne
    | succ i => exact absurd hseen (by simp)
  · rename_i first more hlines
    rw [hlines] at hcode ⊢
    cases i with
    | succ i =>
      rw [List.getElem?_cons_succ] at hseen
      exact absurd (List.mem_cons_of_mem first (List.mem_of_getElem? hseen)) hcode
    | zero =>
      refine ⟨rfl, ?_⟩
      have hfirst : withoutMark first = line := Option.some.inj hseen
      unfold withoutMark at hfirst
      split at hfirst
      · rename_i hmark
        obtain ⟨rest, rfl⟩ := List.head?_eq_some_iff.1 hmark
        rw [← hfirst]
        rfl
      · exact absurd (hfirst ▸ List.mem_cons_self) hcode

end LineHighlight.Text
