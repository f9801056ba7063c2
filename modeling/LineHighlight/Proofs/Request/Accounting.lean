import LineHighlight.Proofs.Request.Outcomes
import LineHighlight.Proofs.Request.Segments

/-!
# Where the code lines go

Every code line that is fed to an assembler is found again in exactly one place: in the source of a
request, among the lines that the log tells of as discarded, among those that came while no language
was declared, or in the buffer for the declared language. `balance_feed` is the account of one line,
`balance_feedAll` that of a run, and `codeLines_accounted` that of a run from the start, at each point
of it.
-/

namespace LineHighlight

/-! ## Counting -/

/-- The number of line feeds in written lines is the number of the lines. -/
lemma Text.count_unlines {ls : List Text} (h : ∀ l ∈ ls, '\n' ∉ l) :
    (unlines ls).count '\n' = ls.length := by
  induction ls with
  | nil => rfl
  | cons l ls ih =>
    have hl : l.count '\n' = 0 := List.count_eq_zero.2 (h l List.mem_cons_self)
    have hls := ih fun l' hl' => h l' (List.mem_cons_of_mem l hl')
    have hcut : unlines (l :: ls) = l ++ ['\n'] ++ unlines ls := List.flatMap_cons
    rw [hcut, List.count_append, List.count_append, hl, hls, List.count_singleton_self,
      List.length_cons]
    omega

/-- The number of code lines in what a blank line led to. -/
def Outcome.codeLines : Outcome → Nat
  | .request r => r.lineCount
  | .sessionEnd => 0

/-- The number of code lines that a record tells of as discarded. -/
def Note.discardedLines : Note → Nat
  | .discarded lines _ => lines
  | _ => 0

/-- The number of code lines in requests. -/
def requestedLines : List Outcome → Nat
  | [] => 0
  | outcome :: rest => outcome.codeLines + requestedLines rest

/-- The number of code lines that the log tells of as discarded. -/
def discardedLines : List Note → Nat
  | [] => 0
  | note :: rest => note.discardedLines + discardedLines rest

lemma requestedLines_append (outcomes more : List Outcome) :
    requestedLines (outcomes ++ more) = requestedLines outcomes + requestedLines more := by
  induction outcomes with
  | nil => exact (Nat.zero_add _).symm
  | cons outcome rest ih => rw [List.cons_append, requestedLines, requestedLines, ih, Nat.add_assoc]

lemma discardedLines_append (notes more : List Note) :
    discardedLines (notes ++ more) = discardedLines notes + discardedLines more := by
  induction notes with
  | nil => exact (Nat.zero_add _).symm
  | cons note rest ih => rw [List.cons_append, discardedLines, discardedLines, ih, Nat.add_assoc]

namespace Assembler

/-- The number of code lines in the buffer for the declared language. -/
def heldLines (a : Assembler) : Nat := if a.isIdle then 0 else a.buffer.size

/-- The number of code lines that are fed while no language is declared. -/
def orphanLines (a : Assembler) : List Text → Nat
  | [] => 0
  | line :: rest =>
    (if a.isIdle ∧ Segment.isCode line then 1 else 0) + (a.feed line).1.orphanLines rest

/-- The collected lines have no line feed. -/
def HoldsLines (a : Assembler) : Prop := ∀ l ∈ a.buffer.lines, '\n' ∉ l

lemma holdsLines_fresh : fresh.HoldsLines := fun _ h => absurd h List.not_mem_nil

/-! ## What is logged about a line -/

lemma notes_blank (a : Assembler) : a.notes [] = [] := rfl

lemma notes_code (a : Assembler) (line : Text) : a.notes (codeMarker :: line) = [] := rfl

/-- A declaration discards what the buffer holds for the language declared before. -/
lemma discardedLines_notes (a : Assembler) {line : Text} (hne : line ≠ [])
    (hcode : line.head? ≠ some codeMarker) : discardedLines (a.notes line) = a.heldLines := by
  obtain ⟨c, rest, rfl⟩ := List.exists_cons_of_ne_nil hne
  have hkind : Line.ofText (c :: rest) = .declaration (c :: rest) :=
    if_neg fun hc => hcode (congrArg some hc)
  obtain ⟨pending, buffer⟩ := a
  unfold notes heldLines isIdle
  rw [hkind]
  cases pending with
  | none => rfl
  | some old =>
    dsimp only [Option.isNone_some]
    rw [if_neg Bool.false_ne_true]
    by_cases hsize : buffer.size = 0
    · rw [if_pos hsize, hsize]
      rfl
    · rw [if_neg hsize]
      rfl

/-! ## One line -/

lemma heldLines_of_none {a : Assembler} (h : a.pending = none) : a.heldLines = 0 := by
  rw [heldLines, isIdle, h]
  rfl

lemma heldLines_of_some {a : Assembler} {flag : Text} (h : a.pending = some flag) :
    a.heldLines = a.buffer.size := by
  rw [heldLines, isIdle, h]
  rfl

/-- A request has as many code lines as were collected for it. -/
lemma lineCount_source {a : Assembler} (ha : a.HoldsLines) (flag : Text) :
    Request.lineCount ⟨flag, a.buffer.source⟩ = a.buffer.size := by
  show (Text.unlines a.buffer.lines).count '\n' = a.buffer.size
  rw [Text.count_unlines ha, Buffer.length_lines]

/-- The account of one line: what the buffer held and the line itself, if it is a code line, is now in a
request, discarded, without a language, or in the buffer. -/
theorem balance_feed {a : Assembler} (ha : a.HoldsLines) {line : Text} (hline : '\n' ∉ line) :
    (a.feed line).1.HoldsLines ∧
      a.heldLines + (if Segment.isCode line then 1 else 0) =
        requestedLines (a.feed line).2.toList + discardedLines (a.notes line) +
          (if a.isIdle ∧ Segment.isCode line then 1 else 0) + (a.feed line).1.heldLines := by
  have hblank : ¬ Segment.isCode [] = true := by decide
  rcases a.feed_cases line with ⟨rfl, -, hfeed⟩ | ⟨flag, rfl, hsome, hfeed⟩ |
    ⟨rest, rfl, hfeed⟩ | ⟨hne, hcode, hfeed⟩
  · -- The session ends, and orphans stay where they are.
    have hend : requestedLines (some Outcome.sessionEnd).toList = 0 := rfl
    have hsilent : discardedLines [] = 0 := rfl
    rw [hfeed, notes_blank, hend, hsilent, if_neg hblank, if_neg fun h => hblank h.2]
    refine ⟨ha, ?_⟩
    show a.heldLines + 0 = 0 + 0 + 0 + a.heldLines
    omega
  · -- The collected lines go into the request.
    have hrequest : requestedLines (some (Outcome.request ⟨flag, a.buffer.source⟩)).toList =
        a.buffer.size := lineCount_source ha flag
    rw [hfeed, notes_blank, hrequest, heldLines_of_some hsome, if_neg hblank,
      if_neg fun h => hblank h.2]
    exact ⟨holdsLines_fresh, rfl⟩
  · -- A code line is collected, and counts for the buffer only if a language is declared.
    have hmark : Segment.isCode (codeMarker :: rest) = true := decide_eq_true rfl
    have hnothing : requestedLines (none : Option Outcome).toList = 0 := rfl
    have hsilent : discardedLines [] = 0 := rfl
    rw [hfeed, notes_code, hnothing, hsilent, if_pos hmark]
    constructor
    · intro l hl
      rw [Buffer.lines_append, List.mem_append, List.mem_singleton] at hl
      rcases hl with hl | rfl
      · exact ha l hl
      · exact fun h => hline (List.mem_cons_of_mem codeMarker h)
    · cases hpending : a.pending with
      | none =>
        have hidle : a.isIdle = true := by
          rw [isIdle, hpending]
          rfl
        rw [heldLines_of_none hpending, heldLines_of_none rfl, if_pos ⟨hidle, hmark⟩]
      | some flag =>
        have hbusy : ¬ a.isIdle = true := by
          rw [isIdle, hpending]
          exact Bool.false_ne_true
        rw [heldLines_of_some hpending, heldLines_of_some rfl, if_neg fun h => hbusy h.1,
          Buffer.size_append]
        omega
  · -- A declaration drops what was collected, orphans silently and other lines with a record.
    have hmark : ¬ Segment.isCode line = true := fun h => hcode (of_decide_eq_true h)
    have hnothing : requestedLines (none : Option Outcome).toList = 0 := rfl
    rw [hfeed, hnothing, discardedLines_notes a hne hcode, if_neg hmark,
      if_neg fun h => hmark h.2]
    refine ⟨holdsLines_fresh, ?_⟩
    show a.heldLines + 0 = 0 + a.heldLines + 0 + 0
    omega

/-! ## Many lines -/

/-- The account of a run of lines. The induction is on the lines, and each line has its own account. -/
theorem balance_feedAll {a : Assembler} (ha : a.HoldsLines) {lines : List Text}
    (hlines : ∀ l ∈ lines, '\n' ∉ l) :
    a.heldLines + lines.countP Segment.isCode =
      requestedLines (a.outcomes lines) + discardedLines (a.notesOfAll lines) +
        a.orphanLines lines + (a.feedAll lines).heldLines := by
  induction lines generalizing a with
  | nil =>
    show a.heldLines + 0 = 0 + 0 + 0 + a.heldLines
    omega
  | cons line rest ih =>
    obtain ⟨hafter, hone⟩ := balance_feed ha (hlines line List.mem_cons_self)
    have hmore := ih hafter fun l hl => hlines l (List.mem_cons_of_mem line hl)
    rw [List.countP_cons, outcomes, notesOfAll, orphanLines, feedAll, requestedLines_append,
      discardedLines_append]
    omega

/-- At every point of a run of lines from the start, also past the end of a session, the code lines that
were fed are the lines of the requests, the lines that the log tells of as discarded, the lines that
came while no language was declared, and the lines in the buffer if a language is declared. -/
theorem codeLines_accounted {lines : List Text} (hlines : ∀ l ∈ lines, '\n' ∉ l) (n : Nat) :
    let fed := lines.take n
    let a := fresh.feedAll fed
    fed.countP Segment.isCode =
      requestedLines (fresh.outcomes fed) + discardedLines (fresh.notesOfAll fed) +
        fresh.orphanLines fed + (if a.pending.isSome then a.buffer.size else 0) := by
  intro fed a
  have hfed : ∀ l ∈ fed, '\n' ∉ l := fun l hl => hlines l (List.mem_of_mem_take hl)
  have hbalance := balance_feedAll holdsLines_fresh hfed
  have hstart : fresh.heldLines = 0 := rfl
  have hheld : a.heldLines = if a.pending.isSome then a.buffer.size else 0 := by
    cases hpending : a.pending with
    | none => exact heldLines_of_none hpending
    | some flag => exact heldLines_of_some hpending
  rw [hstart, hheld, Nat.zero_add] at hbalance
  exact hbalance

/-- One line goes into a request, two are discarded, two come without a language, one of them behind the
end of a session, and one is in the buffer. -/
theorem codeLines_accounted_mixed :
    let lines := ["\tx", "a", "\t", "\ty", "b", "\tz", "", "", "\tu", "c", "\tv"].map String.toList
    let a := fresh.feedAll lines
    (∀ l ∈ lines, '\n' ∉ l) ∧
      lines.countP Segment.isCode =
        requestedLines (fresh.outcomes lines) + discardedLines (fresh.notesOfAll lines) +
          fresh.orphanLines lines + (if a.pending.isSome then a.buffer.size else 0) ∧
      requestedLines (fresh.outcomes lines) = 1 ∧ discardedLines (fresh.notesOfAll lines) = 2 ∧
      fresh.orphanLines lines = 2 ∧ a.pending = some ['c'] ∧ a.buffer.size = 1 := by
  intro lines a
  have hlines : ∀ l ∈ lines, '\n' ∉ l := by decide
  exact ⟨hlines, codeLines_accounted hlines lines.length, by decide, by decide, by decide, by decide,
    by decide⟩

end Assembler
end LineHighlight
