import LineHighlight.Request.Assembler
import Mathlib.Data.List.DropRight

/-!
# Segments of lines

What the lines of a session say, read off the lines as a whole: blank lines cut them into segments,
and a segment stands for the request that its last declaration and the code after it make.
`Assembler.ofSegment` is the state of an assembler as a function of the lines since the last blank
one; `feed_ofSegment` and `feed_ofSegment_blank` say that every line keeps it so.
-/

namespace LineHighlight

/-! ## Requests as segments -/

/-- The lines between two blank lines. -/
abbrev Segment := List Text

namespace Segment

/-- The line begins like a code line. -/
def isCode (line : Text) : Bool := line.head? = some codeMarker

/-- The last line of a segment that is no code line. -/
def declared? (s : Segment) : Option Text := (s.rdropWhile isCode).getLast?

/-- The code lines at the end of a segment, without their markers. -/
def code (s : Segment) : List Text := (s.rtakeWhile isCode).map List.tail

/-- The request that a segment with a declaration stands for. -/
def request? (s : Segment) : Option Request :=
  s.declared?.map fun flag => ⟨flag, s.code.flatMap (· ++ ['\n'])⟩

/-- A code line at the end of a segment is code of its request. -/
lemma parts_concat_code {s : Segment} {line : Text} (h : isCode line = true) :
    declared? (s ++ [line]) = s.declared? ∧ code (s ++ [line]) = s.code ++ [line.tail] := by
  constructor
  · rw [declared?, List.rdropWhile_concat_pos _ _ _ h]
    rfl
  · rw [code, List.rtakeWhile_concat_pos _ _ _ h, List.map_append]
    rfl

/-- Any other line at the end of a segment is its declaration. -/
lemma parts_concat_declaration {s : Segment} {line : Text} (h : ¬ isCode line = true) :
    declared? (s ++ [line]) = some line ∧ code (s ++ [line]) = [] := by
  constructor
  · rw [declared?, List.rdropWhile_concat_neg _ _ _ h, List.getLast?_concat]
  · rw [code, List.rtakeWhile_concat_neg _ _ _ h]
    rfl

/-- A declaration and code lines stand for the request for this code. -/
theorem request?_declaration_code {flag : Text} (h : flag.head? ≠ some codeMarker)
    (ls : List Text) :
    request? (flag :: ls.map (codeMarker :: ·)) = some ⟨flag, Text.unlines ls⟩ := by
  -- The code lines are taken from the end, where a segment is read.
  have hparts : declared? (flag :: ls.map (codeMarker :: ·)) = some flag ∧
      code (flag :: ls.map (codeMarker :: ·)) = ls := by
    induction ls using List.reverseRecOn with
    | nil => exact parts_concat_declaration (s := []) fun he => h (of_decide_eq_true he)
    | append_singleton ls l ih =>
      have hcode : isCode (codeMarker :: l) = true := decide_eq_true rfl
      obtain ⟨hdeclared, hlines⟩ :=
        parts_concat_code (s := flag :: ls.map (codeMarker :: ·)) hcode
      rw [List.map_append, List.map_singleton, ← List.cons_append, hdeclared, hlines, ih.1, ih.2]
      exact ⟨rfl, rfl⟩
  rw [request?, hparts.1, hparts.2]
  rfl

end Segment

/-- The segments of some lines that a blank line closes. -/
def closedSegments (ls : List Text) : List Segment := (ls.splitOn []).dropLast

/-- The requests of a session: those of its closed segments up to the first one without a
declaration. -/
def requestsOf (ls : List Text) : List Request :=
  (((closedSegments ls).map Segment.request?).takeWhile Option.isSome).filterMap id

/-- Some closed segment has no declaration. -/
def endsSession (ls : List Text) : Prop := none ∈ (closedSegments ls).map Segment.request?

instance (ls : List Text) : Decidable (endsSession ls) := inferInstanceAs (Decidable (_ ∈ _))

/-! ## Cutting at the first blank line -/

/-- Lines without a blank one have no closed segment. -/
lemma closedSegments_of_not_mem {s : Segment} (h : [] ∉ s) : closedSegments s = [] := by
  rw [closedSegments, List.splitOn_eq_singleton h]
  rfl

/-- The first blank line closes the first segment. -/
lemma closedSegments_append_blank {s : Segment} (h : [] ∉ s) (rest : List Text) :
    closedSegments (s ++ [] :: rest) = s :: closedSegments rest := by
  rw [closedSegments, List.splitOn_append_cons_self_of_not_mem h, closedSegments,
    List.dropLast_cons_of_ne_nil (List.splitOn_ne_nil _ _)]

lemma requestsOf_of_not_mem {s : Segment} (h : [] ∉ s) : requestsOf s = [] := by
  rw [requestsOf, closedSegments_of_not_mem h]
  rfl

lemma not_endsSession_of_not_mem {s : Segment} (h : [] ∉ s) : ¬ endsSession s := by
  rw [endsSession, closedSegments_of_not_mem h]
  exact List.not_mem_nil

/-- A first segment with a declaration is the first request. -/
lemma requestsOf_of_some {s : Segment} {r : Request} (h : [] ∉ s) (hr : s.request? = some r)
    (rest : List Text) : requestsOf (s ++ [] :: rest) = r :: requestsOf rest := by
  rw [requestsOf, closedSegments_append_blank h, List.map_cons, hr,
    List.takeWhile_cons_of_pos rfl]
  rfl

lemma endsSession_of_some {s : Segment} {r : Request} (h : [] ∉ s) (hr : s.request? = some r)
    (rest : List Text) : endsSession (s ++ [] :: rest) ↔ endsSession rest := by
  rw [endsSession, closedSegments_append_blank h, List.map_cons, hr, List.mem_cons]
  exact or_iff_right (Option.some_ne_none r).symm

/-- A first segment without a declaration leaves no requests. -/
lemma requestsOf_of_none {s : Segment} (h : [] ∉ s) (hr : s.request? = none)
    (rest : List Text) : requestsOf (s ++ [] :: rest) = [] := by
  rw [requestsOf, closedSegments_append_blank h, List.map_cons, hr,
    List.takeWhile_cons_of_neg (by decide)]
  rfl

lemma endsSession_of_none {s : Segment} (h : [] ∉ s) (hr : s.request? = none)
    (rest : List Text) : endsSession (s ++ [] :: rest) := by
  rw [endsSession, closedSegments_append_blank h, List.map_cons, hr]
  exact List.mem_cons_self

/-! ## What an assembler makes of a segment -/

namespace Assembler

/-- A code line is collected. -/
lemma feed_code (a : Assembler) (line : Text) :
    a.feed (codeMarker :: line) = (⟨a.pending, a.buffer.append line⟩, none) := rfl

/-- A declaration starts a request. -/
lemma feed_declaration (a : Assembler) {c : Char} (h : c ≠ codeMarker) (rest : Text) :
    a.feed (c :: rest) = (⟨some (c :: rest), {}⟩, none) := by
  have hkind : Line.ofText (c :: rest) = .declaration (c :: rest) := if_neg h
  rw [feed, hkind]

/-- A blank line finishes the request in the making. -/
lemma feed_blank_of_some (flag : Text) (b : Buffer) :
    feed ⟨some flag, b⟩ [] = (fresh, some (.request ⟨flag, b.source⟩)) := rfl

/-- A blank line without a request in the making ends the session. -/
lemma feed_blank_of_none (b : Buffer) : feed ⟨none, b⟩ [] = (⟨none, b⟩, some .sessionEnd) := rfl

/-- What a line can lead to: the end of the session, a request, one more code line, or a declaration
that drops what was collected. -/
lemma feed_cases (a : Assembler) (line : Text) :
    (line = [] ∧ a.pending = none ∧ a.feed line = (a, some .sessionEnd)) ∨
    (∃ flag, line = [] ∧ a.pending = some flag ∧
      a.feed line = (fresh, some (.request ⟨flag, a.buffer.source⟩))) ∨
    (∃ rest, line = codeMarker :: rest ∧ a.feed line = (⟨a.pending, a.buffer.append rest⟩, none)) ∨
    (line ≠ [] ∧ line.head? ≠ some codeMarker ∧ a.feed line = (⟨some line, {}⟩, none)) := by
  obtain ⟨pending, buffer⟩ := a
  cases line with
  | nil =>
    cases pending with
    | none => exact .inl ⟨rfl, rfl, feed_blank_of_none buffer⟩
    | some flag => exact .inr (.inl ⟨flag, rfl, rfl, feed_blank_of_some flag buffer⟩)
  | cons c rest =>
    by_cases hc : c = codeMarker
    · subst hc
      exact .inr (.inr (.inl ⟨rest, rfl, feed_code _ rest⟩))
    · have hhead : (c :: rest).head? ≠ some codeMarker := fun h => hc (Option.some.inj h)
      exact .inr (.inr (.inr ⟨List.cons_ne_nil c rest, hhead, feed_declaration _ hc rest⟩))

/-- The assembler that has read the lines of an unfinished segment. -/
def ofSegment (s : Segment) : Assembler := ⟨s.declared?, ⟨s.code.reverse⟩⟩

/-- A line that is not blank makes the segment longer. -/
theorem feed_ofSegment (s : Segment) {line : Text} (h : line ≠ []) :
    (ofSegment s).feed line = (ofSegment (s ++ [line]), none) := by
  obtain ⟨c, rest, rfl⟩ := List.exists_cons_of_ne_nil h
  by_cases hc : c = codeMarker
  · have hcode : Segment.isCode (c :: rest) = true := decide_eq_true (congrArg some hc)
    obtain ⟨hdeclared, hlines⟩ := Segment.parts_concat_code (s := s) hcode
    rw [ofSegment, ofSegment, hdeclared, hlines, List.reverse_concat, hc, feed_code]
    rfl
  · have hcode : ¬ Segment.isCode (c :: rest) = true :=
      fun h => hc (Option.some.inj (of_decide_eq_true h))
    obtain ⟨hdeclared, hlines⟩ := Segment.parts_concat_declaration (s := s) hcode
    rw [ofSegment, ofSegment, hdeclared, hlines, feed_declaration _ hc]
    rfl

/-- A blank line turns a segment with a declaration into its request. -/
theorem feed_ofSegment_blank {s : Segment} {r : Request} (h : s.request? = some r) :
    (ofSegment s).feed [] = (fresh, some (.request r)) := by
  obtain ⟨flag, hflag, rfl⟩ := Option.map_eq_some_iff.1 h
  rw [ofSegment, hflag, feed_blank_of_some, Buffer.source, Buffer.lines, List.reverse_reverse]
  rfl

/-- A blank line after a segment without a declaration ends the session. -/
theorem feed_ofSegment_end {s : Segment} (h : s.request? = none) :
    (ofSegment s).feed [] = (ofSegment s, some .sessionEnd) := by
  have hnone : s.declared? = none := Option.map_eq_none_iff.1 h
  rw [ofSegment, hnone, feed_blank_of_none]

end Assembler
end LineHighlight
