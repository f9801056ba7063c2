import LineHighlight.Proofs.Text.Streams

/-!
# Texts that grow

A reader at the end of a pipe sees a text to which more may be added. A line of it can be taken as soon
as the text tells where the line ends (`nextLine?`), and it is a line of the whole text, whatever is
added (`rawLines_of_nextLine?`). A text that ends with a line feed is `Whole`: each of its lines can be
taken, and a text behind it is cut into lines of its own (`rawLines_append_of_whole`).
-/

namespace LineHighlight.Text

/-! ## Taking a line -/

/-- What is behind a line that a carriage return ends, if that is known: a line feed would belong to
the carriage return, and it may yet come unless the text has `ended`. -/
def behindCr? (ended : Bool) : Text → Option Text
  | [] => if ended then some [] else none
  | c :: rest => some (if c = '\n' then rest else c :: rest)

/-- The first line of a text and what is behind it, if the line is known to be over. A line that is
taken ends with a line feed, whatever kind of break ended it. -/
def nextLine? (ended : Bool) : Text → Option (Text × Text)
  | [] => none
  | c :: rest =>
    if c = '\n' then some (['\n'], rest)
    else if c = '\r' then (behindCr? ended rest).map fun more => (['\n'], more)
    else
      match nextLine? ended rest with
      | some (line, more) => some (c :: line, more)
      | none => if ended then some (c :: rest, []) else none

/-- A carriage return that ends a line is read as a line feed. -/
lemma unifyBreaks_of_behindCr? {ended : Bool} {t rest : Text} (h : behindCr? ended t = some rest)
    {more : Text} (hmore : ended = true → more = []) :
    unifyBreaks ('\r' :: t ++ more) = '\n' :: unifyBreaks (rest ++ more) := by
  cases t with
  | nil =>
    cases ended with
    | false => exact nomatch h
    | true =>
      rw [hmore rfl, ← Option.some.inj h]
      rfl
  | cons c t =>
    rw [← Option.some.inj h]
    by_cases hc : c = '\n'
    · rw [if_pos hc, hc]
      exact unifyBreaks.eq_2 (t ++ more)
    · rw [if_neg hc]
      refine unifyBreaks.eq_3 _ fun rest hrest => ?_
      exact hc (List.cons.inj hrest).1

/-- A text that has ended has a first line, unless it is empty. -/
lemma eq_nil_of_nextLine?_ended {t : Text} (h : nextLine? true t = none) : t = [] := by
  cases t with
  | nil => rfl
  | cons c t =>
    rw [nextLine?] at h
    split at h
    · exact nomatch h
    · split at h
      · cases t <;> exact nomatch h
      · split at h <;> exact nomatch h

/-- A line that is taken is the first line of the text, whatever is added to it. -/
theorem rawLines_of_nextLine? {ended : Bool} {t line rest : Text}
    (h : nextLine? ended t = some (line, rest)) {more : Text} (hmore : ended = true → more = []) :
    rawLines (unifyBreaks (t ++ more)) = line :: rawLines (unifyBreaks (rest ++ more)) := by
  induction t generalizing line with
  | nil => cases h
  | cons c t ih =>
    rw [nextLine?] at h
    by_cases hlf : c = '\n'
    · rw [if_pos hlf] at h
      obtain ⟨rfl, rfl⟩ := Prod.mk.inj (Option.some.inj h)
      rw [hlf, List.cons_append, unifyBreaks_cons (by decide), rawLines, if_pos rfl]
    rw [if_neg hlf] at h
    by_cases hcr : c = '\r'
    · rw [if_pos hcr] at h
      obtain ⟨rest', hrest, hfound⟩ := Option.map_eq_some_iff.1 h
      obtain ⟨rfl, rfl⟩ := Prod.mk.inj hfound
      rw [hcr, unifyBreaks_of_behindCr? hrest hmore, rawLines, if_pos rfl]
    rw [if_neg hcr] at h
    rw [List.cons_append, unifyBreaks_cons hcr, rawLines, if_neg hlf]
    cases hnext : nextLine? ended t with
    | some found =>
      rw [hnext] at h
      obtain ⟨rfl, rfl⟩ := Prod.mk.inj (Option.some.inj h)
      rw [ih hnext]
    | none =>
      -- The last line of a text that has ended.
      rw [hnext] at h
      cases ended with
      | false => cases h
      | true =>
        obtain ⟨rfl, rfl⟩ := Prod.mk.inj (Option.some.inj h)
        rw [eq_nil_of_nextLine?_ended hnext, hmore rfl]
        rfl

/-- What is behind a line that is taken is the end of the text, without at least one character. -/
lemma exists_of_nextLine? {ended : Bool} {t line rest : Text}
    (h : nextLine? ended t = some (line, rest)) : ∃ front, front ≠ [] ∧ t = front ++ rest := by
  induction t generalizing line with
  | nil => exact nomatch h
  | cons c t ih =>
    -- It is enough that the rest is an end of what is behind the first character.
    suffices hsuffix : ∃ front, t = front ++ rest by
      obtain ⟨front, rfl⟩ := hsuffix
      exact ⟨c :: front, List.cons_ne_nil _ _, rfl⟩
    rw [nextLine?] at h
    split at h
    · obtain ⟨-, rfl⟩ := Prod.mk.inj (Option.some.inj h)
      exact ⟨[], rfl⟩
    split at h
    · obtain ⟨rest', hrest, hfound⟩ := Option.map_eq_some_iff.1 h
      obtain ⟨-, rfl⟩ := Prod.mk.inj hfound
      cases t with
      | nil =>
        cases ended with
        | false => exact nomatch hrest
        | true => exact ⟨[], Option.some.inj hrest⟩
      | cons d t =>
        rw [← Option.some.inj hrest]
        by_cases hd : d = '\n'
        · exact ⟨[d], by rw [if_pos hd]; rfl⟩
        · exact ⟨[], by rw [if_neg hd]; rfl⟩
    split at h
    · rename_i hnext
      obtain ⟨-, rfl⟩ := Prod.mk.inj (Option.some.inj h)
      obtain ⟨front, -, hfront⟩ := ih hnext
      exact ⟨front, hfront⟩
    · split at h
      · obtain ⟨-, rfl⟩ := Prod.mk.inj (Option.some.inj h)
        exact ⟨t, (List.append_nil t).symm⟩
      · exact nomatch h

/-! ## Whole texts -/

/-- The text ends with a line feed, or it is empty. -/
def Whole (t : Text) : Prop := t = [] ∨ t.getLast? = some '\n'

lemma whole_nil : Whole [] := .inl rfl

lemma whole_append_lf (t : Text) : Whole (t ++ ['\n']) := .inr List.getLast?_concat

lemma Whole.append {s t : Text} (hs : Whole s) (ht : Whole t) : Whole (s ++ t) := by
  rcases ht with rfl | ht
  · rw [List.append_nil]
    exact hs
  · rw [Whole, List.getLast?_append, ht]
    exact .inr rfl

lemma whole_unlines (ls : List Text) : Whole (unlines ls) := by
  induction ls with
  | nil => exact whole_nil
  | cons l ls ih =>
    rw [unlines, List.flatMap_cons]
    exact (whole_append_lf l).append ih

/-- The end of a whole text is whole. -/
lemma Whole.suffix {s t : Text} (h : Whole (s ++ t)) : Whole t := by
  rcases h with h | h
  · exact .inl (List.append_eq_nil_iff.1 h).2
  · rw [List.getLast?_append] at h
    cases hlast : t.getLast? with
    | none => exact .inl (List.getLast?_eq_none_iff.1 hlast)
    | some c =>
      rw [hlast] at h
      exact .inr (hlast.trans h)

/-- Of a whole text a line can be taken, unless it is empty. -/
theorem Whole.exists_nextLine? {t : Text} (h : Whole t) (hne : t ≠ []) (ended : Bool) :
    ∃ line rest, nextLine? ended t = some (line, rest) := by
  induction t with
  | nil => exact absurd rfl hne
  | cons c t ih =>
    rw [nextLine?]
    by_cases hlf : c = '\n'
    · exact ⟨_, _, if_pos hlf⟩
    rw [if_neg hlf]
    -- The line feed at the end is behind the first character.
    have ht : t ≠ [] := by
      rintro rfl
      rcases h with h | h
      · exact nomatch h
      · exact hlf (Option.some.inj h)
    by_cases hcr : c = '\r'
    · rw [if_pos hcr]
      obtain ⟨d, t, rfl⟩ := List.exists_cons_of_ne_nil ht
      exact ⟨_, _, rfl⟩
    · rw [if_neg hcr]
      obtain ⟨line, rest, hnext⟩ := ih (Whole.suffix (s := [c]) h) ht
      rw [hnext]
      exact ⟨_, _, rfl⟩

/-- A text behind a whole one is cut into lines of its own. -/
theorem rawLines_append_of_whole {s : Text} (h : Whole s) (t : Text) :
    rawLines (unifyBreaks (s ++ t)) = rawLines (unifyBreaks s) ++ rawLines (unifyBreaks t) := by
  -- The lines of the whole text are taken one by one.
  induction hlength : s.length using Nat.strongRecOn generalizing s with
  | ind n ih =>
    by_cases hne : s = []
    · rw [hne]
      rfl
    · obtain ⟨line, rest, hnext⟩ := h.exists_nextLine? hne false
      obtain ⟨front, hfront, rfl⟩ := exists_of_nextLine? hnext
      have hshorter : rest.length < n := by
        have hpos := List.length_pos_iff.2 hfront
        rw [← hlength, List.length_append]
        omega
      have hended : false = true → ([] : Text) = [] := fun hf => nomatch hf
      have hline := rawLines_of_nextLine? hnext hended
      rw [List.append_nil, List.append_nil] at hline
      rw [rawLines_of_nextLine? hnext (fun hf => nomatch hf), ih _ hshorter h.suffix rfl, hline]
      rfl

/-- A text has no lines only if it is empty. -/
lemma eq_nil_of_rawLines_unifyBreaks {t : Text} (h : rawLines (unifyBreaks t) = []) : t = [] := by
  have hflat := flatten_rawLines (unifyBreaks t)
  rw [h] at hflat
  exact unifyBreaks_eq_nil_iff.1 hflat.symm

/-! ## A line feed behind a text -/

/-- A line feed behind a text ends its last line, unless it belongs to a carriage return that does. -/
lemma exists_unifyBreaks_append_lf (t : Text) :
    ∃ front, unifyBreaks (t ++ ['\n']) = front ++ ['\n'] ∧
      (unifyBreaks t = front ∨ unifyBreaks t = front ++ ['\n']) := by
  fun_induction unifyBreaks t with
  | case1 => exact ⟨[], rfl, .inl rfl⟩
  | case2 rest ih =>
    obtain ⟨front, hall, hfront⟩ := ih
    refine ⟨'\n' :: front, ?_, hfront.imp (congrArg ('\n' :: ·)) (congrArg ('\n' :: ·))⟩
    rw [List.cons_append, List.cons_append, unifyBreaks.eq_2, hall]
    rfl
  | case3 rest hrest ih =>
    cases rest with
    | nil => exact ⟨[], rfl, .inr rfl⟩
    | cons c rest =>
      have hmore : ∀ more, c :: rest ++ ['\n'] = '\n' :: more → False :=
        fun more hmore => hrest rest (congrArg (· :: rest) (List.cons.inj hmore).1)
      obtain ⟨front, hall, hfront⟩ := ih
      refine ⟨'\n' :: front, ?_, hfront.imp (congrArg ('\n' :: ·)) (congrArg ('\n' :: ·))⟩
      rw [List.cons_append, unifyBreaks.eq_3 _ hmore, hall]
      rfl
  | case4 c rest hlf hcr ih =>
    obtain ⟨front, hall, hfront⟩ := ih
    refine ⟨c :: front, ?_, hfront.imp (congrArg (c :: ·)) (congrArg (c :: ·))⟩
    rw [List.cons_append, unifyBreaks_cons (fun hc => hcr hc), hall]
    rfl

/-- With a line feed behind it, a text is handed out piece by piece. -/
lemma exists_of_mem_rawLines_append_lf {t line : Text}
    (h : line ∈ rawLines (unifyBreaks (t ++ ['\n']))) :
    ∃ piece ∈ pieces '\n' (unifyBreaks t), line = piece ++ ['\n'] := by
  obtain ⟨front, hall, hfront⟩ := exists_unifyBreaks_append_lf t
  have hlf : ∀ l ∈ pieces '\n' front, '\n' ∉ l := fun l hl => not_mem_of_mem_pieces hl
  have hraw := rawLines_unlines_append hlf []
  rw [List.append_nil, unlines_pieces, ← hall] at hraw
  rw [hraw, rawLines, List.append_nil] at h
  obtain ⟨piece, hpiece, hline⟩ := List.mem_map.1 h
  refine ⟨piece, ?_, hline.symm⟩
  rcases hfront with hsame | hmore
  · rw [hsame]
    exact hpiece
  · rw [hmore, pieces_append_cons]
    exact List.mem_append_left _ hpiece

end LineHighlight.Text
