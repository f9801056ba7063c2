import LineHighlight.Answer
import LineHighlight.Client.Connection
import LineHighlight.Proofs.Text.Streams
import Mathlib.Data.List.DropRight

/-!
# Reading answers

A client reads lines up to the first one that is the terminator. What it reads is an answer and no
more and no less exactly if no line of the markup is the terminator: `readAnswer_block` reads a block
in front of anything, and `readAnswer_block_iff` says when a block is read as a whole.
-/

namespace LineHighlight

/-! ## Lines of a block -/

/-- The line feeds at the end of a line are dropped for the comparison, and a line has just one. -/
lemma Text.chomp_append_lf {l : Text} (h : '\n' ∉ l) : chomp (l ++ ['\n']) = l := by
  show List.rdropWhile (· = '\n') (l ++ ['\n']) = l
  rw [List.rdropWhile_concat_pos (· = '\n') l '\n' (decide_eq_true rfl),
    List.rdropWhile_eq_self_iff]
  intro hl hlast
  have hlast : l.getLast hl = '\n' := of_decide_eq_true hlast
  exact h (hlast ▸ List.getLast_mem hl)

/-- The lines of a block as a client gets them. -/
def blockLines (terminator markup : Text) : List Text :=
  (Text.pieces '\n' markup ++ [terminator]).map (· ++ ['\n'])

/-- A block is the pieces of the markup and the terminator, each on a line of its own. -/
lemma answerBlock_eq_unlines (terminator markup : Text) :
    answerBlock terminator markup =
      Text.unlines (Text.pieces '\n' markup ++ [terminator]) := by
  rw [Text.unlines_append, Text.unlines_pieces]
  unfold answerBlock Text.unlines
  rw [List.flatMap_singleton, List.append_assoc, List.append_assoc]
  rfl

/-- A client gets a block line by line, and then what is behind it. -/
lemma received_answerBlock_append {terminator markup : Text} (hlf : '\n' ∉ terminator)
    (hcr : '\r' ∉ terminator) (hmarkup : '\r' ∉ markup) (more : Text) :
    Connection.received (answerBlock terminator markup ++ more) =
      blockLines terminator markup ++ Connection.received more := by
  have hlines : ∀ l ∈ Text.pieces '\n' markup ++ [terminator], '\n' ∉ l ∧ '\r' ∉ l := by
    intro l hl
    rcases List.mem_append.1 hl with hl | hl
    · exact ⟨Text.not_mem_of_mem_pieces hl, fun h => hmarkup (Text.mem_of_mem_pieces hl h)⟩
    · rw [List.mem_singleton.1 hl]
      exact ⟨hlf, hcr⟩
  unfold Connection.received blockLines
  rw [answerBlock_eq_unlines, Text.rawLines_unifyBreaks_unlines_append hlines]

/-- A client gets a block line by line. -/
lemma received_answerBlock {terminator markup : Text} (hlf : '\n' ∉ terminator)
    (hcr : '\r' ∉ terminator) (hmarkup : '\r' ∉ markup) :
    Connection.received (answerBlock terminator markup) = blockLines terminator markup := by
  have hblock := received_answerBlock_append hlf hcr hmarkup []
  rw [List.append_nil] at hblock
  exact hblock.trans (List.append_nil _)

/-! ## Reading lines -/

/-- The first line that is the terminator ends an answer, whatever comes behind it. The induction is on
the lines before it, which are kept. -/
lemma readAnswer_of_first {terminator line : Text} {lines : List Text}
    (hlines : ∀ l ∈ lines, Text.chomp l ≠ terminator) (hline : Text.chomp line = terminator)
    (before rest : List Text) :
    readAnswer terminator before (lines ++ line :: rest) =
      (some (markupOfLines (before.reverse ++ lines)), rest) := by
  induction lines generalizing before with
  | nil => rw [List.nil_append, List.append_nil, readAnswer, readAnswerLine, if_pos hline]
  | cons l lines ih =>
    have hkept : readAnswerLine terminator before l = .inl (l :: before) :=
      if_neg (hlines l List.mem_cons_self)
    have hmore := ih (fun l' hl' => hlines l' (List.mem_cons_of_mem l hl')) (l :: before)
    rw [List.reverse_cons, List.append_assoc] at hmore
    rw [List.cons_append, readAnswer, hkept]
    exact hmore

/-- Lines up to the first one that is the terminator are an answer, whatever comes behind it. -/
lemma readAnswer_of_not_mem {terminator : Text} (hlf : '\n' ∉ terminator) {ls : List Text}
    (hls : ∀ l ∈ ls, '\n' ∉ l) (hterminator : terminator ∉ ls) (before rest : List Text) :
    readAnswer terminator before
        (ls.map (· ++ ['\n']) ++ (terminator ++ ['\n']) :: rest) =
      (some (markupOfLines (before.reverse ++ ls.map (· ++ ['\n']))), rest) := by
  refine readAnswer_of_first (fun raw hraw => ?_) (Text.chomp_append_lf hlf) before rest
  obtain ⟨l, hl, rfl⟩ := List.mem_map.1 hraw
  rw [Text.chomp_append_lf (hls l hl)]
  exact fun h => hterminator (h ▸ hl)

/-- The lines of markup are put together to the markup. -/
lemma markupOfLines_pieces (markup : Text) :
    markupOfLines ((Text.pieces '\n' markup).map (· ++ ['\n'])) = markup := by
  have hflat : ((Text.pieces '\n' markup).map (· ++ ['\n'])).flatten = markup ++ ['\n'] := by
    rw [← List.flatMap_def]
    exact Text.unlines_pieces markup
  rw [markupOfLines, hflat, Text.dropLastIf, List.getLast?_concat, if_pos rfl,
    List.dropLast_concat]

/-! ## Reading blocks -/

/-- The block of markup without a line that is the terminator is read as that markup, whatever comes
behind it. -/
theorem readAnswer_block {terminator markup : Text} (hlf : '\n' ∉ terminator)
    (h : terminator ∉ Text.pieces '\n' markup) (rest : List Text) :
    readAnswer terminator [] (blockLines terminator markup ++ rest) = (some markup, rest) := by
  have hread := readAnswer_of_not_mem hlf (fun l hl => Text.not_mem_of_mem_pieces hl) h [] rest
  rw [List.reverse_nil, List.nil_append, markupOfLines_pieces] at hread
  rw [← hread]
  unfold blockLines
  rw [List.map_append, List.append_assoc]
  rfl

/-- Of the block of any other markup the end is left unread. -/
theorem readAnswer_block_of_mem {terminator markup : Text} (hlf : '\n' ∉ terminator)
    (h : terminator ∈ Text.pieces '\n' markup) :
    ∃ shorter rest, rest ≠ [] ∧
      readAnswer terminator [] (blockLines terminator markup) = (some shorter, rest) := by
  -- The answer ends with the first such line.
  obtain ⟨front, back, hpieces, hfront⟩ := List.eq_append_cons_of_mem h
  have hlines : ∀ l ∈ front, '\n' ∉ l := fun l hl =>
    Text.not_mem_of_mem_pieces (hpieces ▸ List.mem_append_left _ hl)
  have hread := readAnswer_of_not_mem hlf hlines hfront []
    ((back ++ [terminator]).map (· ++ ['\n']))
  refine ⟨markupOfLines (front.map (· ++ ['\n'])), (back ++ [terminator]).map (· ++ ['\n']),
    ?_, ?_⟩
  · rw [List.map_append]
    exact List.append_ne_nil_of_right_ne_nil _ (List.cons_ne_nil _ _)
  · unfold blockLines
    rw [hpieces, List.append_assoc, List.map_append]
    exact hread

/-- A block is read as its markup, with nothing left, exactly if no line of the markup is the
terminator. -/
theorem readAnswer_block_iff {terminator : Text} (hlf : '\n' ∉ terminator) (markup : Text) :
    readAnswer terminator [] (blockLines terminator markup) = (some markup, []) ↔
      terminator ∉ Text.pieces '\n' markup := by
  constructor
  · intro hread hmem
    obtain ⟨shorter, rest, hrest, hother⟩ := readAnswer_block_of_mem hlf hmem
    rw [hread] at hother
    exact hrest (Prod.mk.inj hother).2.symm
  · intro h
    rw [← List.append_nil (blockLines terminator markup)]
    exact readAnswer_block hlf h []

end LineHighlight
