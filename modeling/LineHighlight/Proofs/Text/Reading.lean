import LineHighlight.Proofs.Text.Breaks
import LineHighlight.Proofs.Text.Utf8

/-!
# Reading lines that were written

A stream hands out its lines one by one, and a reader may stop after any number of them. What the
stream holds then is cut into lines as before (`rawLines_flatten_drop`), so that it is enough to know
the lines of the whole text (`handsOut_lines`). Lines that were written with LF or CR LF are the lines of
the written text (`lines_unlinesWith_append`), and so are they of its bytes, where all breaks are made
alike (`handsOut_unlinesWith`).
-/

namespace LineHighlight.Text

/-! ## Stopping after some lines -/

/-- Behind its first line a stream holds the lines that are left. -/
lemma rawLines_flatten_of_cons {t first : Text} {more : List Text} (h : rawLines t = first :: more) :
    rawLines more.flatten = more := by
  induction t generalizing first more with
  | nil => exact nomatch h
  | cons c t ih =>
    rw [rawLines] at h
    split at h
    · obtain ⟨-, rfl⟩ := List.cons.inj h
      rw [flatten_rawLines]
    · -- The character belongs to the first line, and the other lines are those of `t`.
      split at h
      · obtain ⟨-, rfl⟩ := List.cons.inj h
        rfl
      · rename_i hlines
        obtain ⟨-, rfl⟩ := List.cons.inj h
        exact ih hlines

/-- After any number of lines a stream holds the lines that are left. -/
theorem rawLines_flatten_drop (t : Text) (n : Nat) :
    rawLines ((rawLines t).drop n).flatten = (rawLines t).drop n := by
  induction n generalizing t with
  | zero => rw [List.drop_zero, flatten_rawLines]
  | succ n ih =>
    cases hlines : rawLines t with
    | nil => rfl
    | cons first more =>
      have hmore := ih more.flatten
      rw [rawLines_flatten_of_cons hlines] at hmore
      rw [List.drop_succ_cons, hmore]

/-- Reading a stream to its end gives these lines. Reading any number of lines gives the first ones, and
reading on from there gives the others. -/
def HandsOut (stream : Text) (ls : List Text) : Prop :=
  takeLines none stream = (ls, []) ∧
    ∀ n, (takeLines (some n) stream).1 = ls.take n ∧
      takeLines none (takeLines (some n) stream).2 = (ls.drop n, [])

/-- A stream hands out its lines, wherever the reader stops. -/
theorem handsOut_lines (t : Text) : HandsOut t (lines t) := by
  refine ⟨rfl, fun n => ⟨?_, ?_⟩⟩
  · show ((rawLines t).take n).map stripTerminator = ((rawLines t).map stripTerminator).take n
    rw [List.map_take]
  · show (lines ((rawLines t).drop n).flatten, []) = ((lines t).drop n, [])
    rw [lines, rawLines_flatten_drop, List.map_drop, lines]

/-! ## Lines with breaks of their own -/

lemma stripTerminator_append_crLf (l : Text) : stripTerminator (l ++ ['\r'] ++ ['\n']) = l := by
  rw [stripTerminator, List.getLast?_concat, if_pos rfl, List.dropLast_concat, dropLastIf,
    List.getLast?_concat, if_pos rfl, List.dropLast_concat]

/-- A line that ends in LF or CR LF is the first one. -/
lemma lines_line {l : Text} (hl : '\n' ∉ l ∧ '\r' ∉ l) {b : Break} (hb : b ≠ .cr) (rest : Text) :
    lines (l ++ b.chars ++ rest) = l :: lines rest := by
  cases b with
  | lf =>
    have hcut : l ++ Break.lf.chars ++ rest = l ++ '\n' :: rest := List.append_assoc ..
    rw [hcut, lines, rawLines_append_lf hl.1, List.map_cons, stripTerminator_append_lf hl.2, lines]
  | crLf =>
    -- A stream that does not look for other breaks hands out the carriage return with the line.
    have hcr : '\n' ∉ l ++ ['\r'] := by
      rw [List.mem_append, not_or]
      exact ⟨hl.1, by decide⟩
    have hcut : l ++ Break.crLf.chars ++ rest = l ++ ['\r'] ++ '\n' :: rest := by
      rw [List.append_assoc, List.append_assoc]
      rfl
    rw [hcut, lines, rawLines_append_lf hcr, List.map_cons, stripTerminator_append_crLf, lines]
  | cr => exact absurd rfl hb

/-- Lines that were written with LF or CR LF are the lines of the text, and so is an unfinished line
behind them. -/
theorem lines_unlinesWith_append {ls : List (Text × Break)}
    (hls : ∀ l ∈ ls, ('\n' ∉ l.1 ∧ '\r' ∉ l.1) ∧ l.2 ≠ .cr) {last : Text} (hlast : '\n' ∉ last) :
    lines (unlinesWith ls ++ last) = ls.map Prod.fst ++ if last = [] then [] else [last] := by
  induction ls with
  | nil =>
    show lines last = if last = [] then [] else [last]
    rw [lines, rawLines_of_not_mem hlast]
    by_cases hnil : last = []
    · rw [if_pos hnil, List.map_nil]
    · rw [if_neg hnil, List.map_singleton, stripTerminator_of_not_mem hlast]
  | cons l ls ih =>
    obtain ⟨hl, hbreak⟩ := hls l List.mem_cons_self
    have hmore := ih fun l' hl' => hls l' (List.mem_cons_of_mem l hl')
    rw [unlinesWith_cons, List.append_assoc, lines_line hl hbreak, hmore, List.map_cons,
      List.cons_append]

/-- Reading lines is inverse to writing them, each with LF or CR LF, and an unfinished one behind them
unless it is empty: on a stream that holds the written text, and on one that reads its bytes and takes
any kind of break for the end of a line; whether the reader goes on to the end or stops after some
lines. -/
theorem handsOut_unlinesWith {ls : List (Text × Break)} {last : Text}
    (hls : ∀ l ∈ ls, ('\n' ∉ l.1 ∧ '\r' ∉ l.1) ∧ l.2 ≠ .cr) (hlast : '\n' ∉ last ∧ '\r' ∉ last) :
    let text := unlinesWith ls ++ last
    let written := ls.map Prod.fst ++ if last = [] then [] else [last]
    HandsOut text written ∧ HandsOut (unifyBreaks (Utf8.decode (Utf8.encode text))) written := by
  intro text written
  have hplain : lines text = written := lines_unlinesWith_append hls hlast.1
  -- Once all breaks are alike, the same lines stand there with LF behind each.
  have halike : unifyBreaks text =
      unlinesWith ((ls.map Prod.fst).map fun l => (l, .lf)) ++ last := by
    have hbreaks : ∀ l ∈ ls, '\r' ∉ l.1 ∧ l.2 ≠ .cr := fun l hl =>
      ⟨(hls l hl).1.2, (hls l hl).2⟩
    rw [unifyBreaks_unlinesWith_append hbreaks, unifyBreaks_of_not_mem hlast.2, unlinesWith,
      List.flatMap_map]
    rfl
  have hbytes : lines (unifyBreaks text) = written := by
    have hlf : ∀ l ∈ (ls.map Prod.fst).map fun l => (l, Break.lf),
        ('\n' ∉ l.1 ∧ '\r' ∉ l.1) ∧ l.2 ≠ .cr := by
      intro l hl
      obtain ⟨line, hline, rfl⟩ := List.mem_map.1 hl
      obtain ⟨l', hl', rfl⟩ := List.mem_map.1 hline
      exact ⟨(hls l' hl').1, nofun⟩
    rw [halike, lines_unlinesWith_append hlf hlast.1, List.map_map, List.map_map]
    rfl
  rw [Utf8.decode_encode]
  constructor
  · exact hplain ▸ handsOut_lines text
  · exact hbytes ▸ handsOut_lines (unifyBreaks text)

/-- Lines with one, two, three and four bytes to a character, a blank line, breaks of both kinds and a
last line without one. -/
theorem handsOut_unlinesWith_mixed :
    let ls := [("tex".toList, Break.lf), ([], .crLf), ("\tλ → 𝔸".toList, .crLf)]
    let last := "𝔹".toList
    let written := ["tex".toList, [], "\tλ → 𝔸".toList, "𝔹".toList]
    (∀ l ∈ ls, ('\n' ∉ l.1 ∧ '\r' ∉ l.1) ∧ l.2 ≠ .cr) ∧ ('\n' ∉ last ∧ '\r' ∉ last) ∧
      unlinesWith ls ++ last = "tex\n\r\n\tλ → 𝔸\r\n𝔹".toList ∧
      HandsOut (unlinesWith ls ++ last) written ∧
      HandsOut (unifyBreaks (Utf8.decode (Utf8.encode (unlinesWith ls ++ last)))) written := by
  intro ls last written
  have hls : ∀ l ∈ ls, ('\n' ∉ l.1 ∧ '\r' ∉ l.1) ∧ l.2 ≠ .cr := by decide
  have hlast : '\n' ∉ last ∧ '\r' ∉ last := by decide
  exact ⟨hls, hlast, by decide, handsOut_unlinesWith hls hlast⟩

end LineHighlight.Text
