import LineHighlight.Client.Script
import LineHighlight.Proofs.Client.Answers
import LineHighlight.Proofs.Results
import LineHighlight.Server

/-!
# Markers on a stream

A server writes answers one after another, each with the terminator behind it, and a client cuts what
it reads at the lines that are the terminator. `readAnswers_answerBlocks` says that it finds the same
answers again, and `markers_work_iff` which markers can be found at all: a stream hands out no
carriage return, so that a marker with one is never read.
-/

namespace LineHighlight

/-! ## Markup in a frame -/

/-- The markup has no carriage return and no line that is the terminator. -/
def IsFramable (terminator markup : Text) : Prop :=
  '\r' ∉ markup ∧ terminator ∉ Text.pieces '\n' markup

instance (terminator markup : Text) : Decidable (IsFramable terminator markup) :=
  inferInstanceAs (Decidable (_ ∧ _))

/-- Reads a number of answers one after another, each given with the lines left behind it. -/
def readAnswers (terminator : Text) : Nat → List Text → List (Option Text × List Text)
  | 0, _ => []
  | n + 1, lines =>
    let answer := readAnswer terminator [] lines
    answer :: readAnswers terminator n answer.2

/-- Of framable markups, the written blocks tell which ones they are. -/
lemma eq_of_answerBlocks_eq {terminator : Text} (hlf : '\n' ∉ terminator)
    (hcr : '\r' ∉ terminator) {markups others : List Text}
    (hmarkups : ∀ markup ∈ markups, IsFramable terminator markup)
    (hothers : ∀ markup ∈ others, IsFramable terminator markup)
    (h : others.flatMap (answerBlock terminator) = markups.flatMap (answerBlock terminator)) :
    others = markups := by
  have hne : ∀ (markup : Text) (more : Text), answerBlock terminator markup ++ more ≠ [] := by
    intro markup more
    unfold answerBlock
    simp
  induction markups generalizing others with
  | nil =>
    cases others with
    | nil => rfl
    | cons other others =>
      rw [List.flatMap_cons, List.flatMap_nil] at h
      exact absurd h (hne other _)
  | cons markup markups ih =>
    cases others with
    | nil =>
      rw [List.flatMap_cons, List.flatMap_nil] at h
      exact absurd h.symm (hne markup _)
    | cons other others =>
      rw [List.flatMap_cons, List.flatMap_cons] at h
      obtain ⟨hmarkupCr, hmarkup⟩ := hmarkups markup List.mem_cons_self
      obtain ⟨hotherCr, hother⟩ := hothers other List.mem_cons_self
      -- The first block of a text is read from its front, and what is behind it is cut off.
      have hread := congrArg (fun text => (readAnswer terminator [] (Connection.received text)).1) h
      rw [received_answerBlock_append hlf hcr hotherCr, readAnswer_block hlf hother,
        received_answerBlock_append hlf hcr hmarkupCr, readAnswer_block hlf hmarkup] at hread
      have hfirst : other = markup := Option.some.inj hread
      subst hfirst
      have hrest := ih (fun m hm => hmarkups m (List.mem_cons_of_mem _ hm))
        (fun m hm => hothers m (List.mem_cons_of_mem _ hm)) (List.append_cancel_left h)
      rw [hrest]

/-- A client whose terminator has no carriage return reads the markups that were written, in order,
and stops behind the terminator of each. The blocks of two lists of markups are the same text only if
the lists are the same. -/
theorem readAnswers_answerBlocks (config : Config) (hcr : '\r' ∉ config.terminator)
    (markups : List Text) (hmarkups : ∀ markup ∈ markups, IsFramable config.terminator markup) :
    (∀ more, readAnswers config.terminator markups.length
        (Connection.received (markups.flatMap (answerBlock config.terminator) ++ more)) =
      markups.mapIdx fun i markup =>
        (some markup, Connection.received
          ((markups.drop (i + 1)).flatMap (answerBlock config.terminator) ++ more))) ∧
    ∀ others : List Text, (∀ markup ∈ others, IsFramable config.terminator markup) →
      others.flatMap (answerBlock config.terminator) =
        markups.flatMap (answerBlock config.terminator) → others = markups := by
  constructor
  · intro more
    induction markups with
    | nil => rfl
    | cons markup markups ih =>
      obtain ⟨hmarkupCr, hmarkup⟩ := hmarkups markup List.mem_cons_self
      have hrest := ih fun m hm => hmarkups m (List.mem_cons_of_mem markup hm)
      rw [List.flatMap_cons, List.append_assoc,
        received_answerBlock_append config.terminator_oneLine hcr hmarkupCr, List.length_cons,
        readAnswers, readAnswer_block config.terminator_oneLine hmarkup]
      dsimp only
      rw [hrest, List.mapIdx_cons]
      rfl
  · intro others hothers h
    exact eq_of_answerBlocks_eq config.terminator_oneLine hcr hmarkups hothers h

/-- No markup, blank lines, a line feed at the end or none, and the terminator within a longer
line. -/
theorem readAnswers_blank_and_longer_lines :
    let markups := [[], "\n\n".toList, "a\n".toList, "a".toList, "\x04b\nc\x04\n".toList]
    readAnswers ['\x04'] 5 (Connection.received (markups.flatMap (answerBlock ['\x04']))) =
      [(some [], ["\n", "\n", "\n", "\x04\n", "a\n", "\n", "\x04\n", "a\n", "\x04\n", "\x04b\n",
          "c\x04\n", "\n", "\x04\n"].map String.toList),
        (some "\n\n".toList, ["a\n", "\n", "\x04\n", "a\n", "\x04\n", "\x04b\n", "c\x04\n", "\n",
          "\x04\n"].map String.toList),
        (some "a\n".toList, ["a\n", "\x04\n", "\x04b\n", "c\x04\n", "\n", "\x04\n"].map
          String.toList),
        (some "a".toList, ["\x04b\n", "c\x04\n", "\n", "\x04\n"].map String.toList),
        (some "\x04b\nc\x04\n".toList, [])] := by
  intro markups
  have hread := (readAnswers_answerBlocks .default (by decide) markups (by decide +kernel)).1 []
  rw [List.append_nil] at hread
  exact hread.trans (by decide +kernel)

/-! ## Markers that are never read -/

namespace Connection

/-- No line that is handed out has a carriage return. -/
lemma cr_not_mem_of_mem_received {t line : Text} (h : line ∈ received t) : '\r' ∉ line :=
  fun hmem => Text.cr_not_mem_unifyBreaks t (Text.mem_of_mem_rawLines h hmem)

/-- A marker with a carriage return is no line that is handed out. -/
lemma chomp_ne_of_mem_received {marker : Text} (hmarker : '\r' ∈ marker) {t line : Text}
    (h : line ∈ received t) : Text.chomp line ≠ marker := by
  intro heq
  have hcr : '\r' ∈ Text.chomp line := heq ▸ hmarker
  exact cr_not_mem_of_mem_received h ((List.rdropWhile_prefix _ line).subset hcr)

end Connection

/-- Lines none of which is the terminator are all read, and no answer is found. -/
lemma readAnswer_of_forall_ne {terminator : Text} {lines : List Text}
    (h : ∀ line ∈ lines, Text.chomp line ≠ terminator) (before : List Text) :
    readAnswer terminator before lines = (none, []) := by
  induction lines generalizing before with
  | nil => rfl
  | cons line rest ih =>
    have hline : readAnswerLine terminator before line = .inl (line :: before) :=
      if_neg (h line List.mem_cons_self)
    rw [readAnswer, hline]
    exact ih (fun l hl => h l (List.mem_cons_of_mem line hl)) (line :: before)

namespace Connection

variable {π : Type} [Peer π]

/-- To wait for the ready line changes nothing of a client but whether it was greeted. -/
lemma client_waitReady (c : Connection π) :
    c.waitReady.connection.client =
      { c.client with greeted := c.waitReady.connection.client.greeted } := by
  unfold waitReady
  split
  · rfl
  split
  · rfl
  split
  · split <;> rfl
  · rename_i line rest _
    have hgreet : ∀ {client}, c.client.greet line = .ok client →
        client = { c.client with greeted := client.greeted } := by
      intro client h
      unfold Client.greet at h
      split at h
      · rw [← Except.ok.inj h]
      · cases h
    dsimp only
    split
    · exact hgreet ‹_›
    · rfl

/-- A client that was greeted reads no line for the ready line. -/
lemma waitReady_of_greeted {c : Connection π} (h : c.client.greeted = true) :
    c.waitReady = ⟨.value (), c, []⟩ := by
  unfold waitReady
  exact if_pos h

/-- The client was not greeted, and no line that it has to read is the ready line. -/
def Ungreetable (c : Connection π) : Prop :=
  c.client.greeted = false ∧ ∀ line ∈ c.inbox, Text.chomp line ≠ c.client.config.ready

/-- No other line than the ready line greets a client. -/
lemma waitReady_of_ungreetable {c : Connection π} (h : Ungreetable c) :
    c.waitReady.reply ≠ .value () ∧ Ungreetable c.waitReady.connection := by
  obtain ⟨hgreeted, hlines⟩ := h
  unfold waitReady
  rw [hgreeted, if_neg Bool.false_ne_true]
  split
  · exact ⟨nofun, hgreeted, hlines⟩
  · split
    · split <;> exact ⟨nofun, hgreeted, hlines⟩
    · -- The first line is read and turned down; the lines behind it are no better.
      rename_i line rest hinbox
      rw [hinbox] at hlines
      have hline : c.client.greet line = .error (.unexpectedGreeting line) :=
        if_neg (hlines line List.mem_cons_self)
      dsimp only
      rw [hline]
      exact ⟨nofun, hgreeted, fun l hl => hlines l (List.mem_cons_of_mem line hl)⟩

/-- A client is greeted by the ready line of a server with its settings exactly if there is no
carriage return in it. -/
lemma waitReady_readyLine_iff {σ : Type} (s : Server σ) (renames : Table) (peer : π) (more : Text) :
    (connect { config := s.config, renames := renames } peer
        (s.readyLine ++ more)).waitReady.reply = .value () ↔ '\r' ∉ s.config.ready := by
  constructor
  · intro hreply hcr
    exact (waitReady_of_ungreetable
      ⟨rfl, fun line hline => chomp_ne_of_mem_received hcr hline⟩).1 hreply
  · intro hcr
    have hinbox : received (s.readyLine ++ more) = s.readyLine :: received more := by
      have hlines : ∀ l ∈ [s.config.ready], '\n' ∉ l ∧ '\r' ∉ l := fun l hl =>
        List.mem_singleton.1 hl ▸ ⟨s.config.ready_oneLine, hcr⟩
      have hraw := Text.rawLines_unifyBreaks_unlines_append hlines more
      rw [Text.unlines, List.flatMap_singleton] at hraw
      exact hraw
    have hgreet : Client.greet { config := s.config, renames := renames } s.readyLine =
        .ok { config := s.config, renames := renames, greeted := true } :=
      if_pos (Text.chomp_append_lf s.config.ready_oneLine)
    unfold connect waitReady
    rw [if_neg Bool.false_ne_true, if_neg Bool.false_ne_true, hinbox]
    dsimp only
    rw [hgreet]

/-- A client stops at the terminator behind framable markup exactly if there is no carriage return
in the terminator. -/
lemma readAnswer_answerBlock_iff (config : Config) {markup : Text}
    (hmarkup : IsFramable config.terminator markup) (more : Text) :
    readAnswer config.terminator []
        (received (answerBlock config.terminator markup ++ more)) = (some markup, received more) ↔
      '\r' ∉ config.terminator := by
  constructor
  · intro hread hcr
    -- All lines are read in search of the terminator.
    rw [readAnswer_of_forall_ne fun line hline => chomp_ne_of_mem_received hcr hline] at hread
    exact nomatch (Prod.mk.inj hread).1
  · intro hcr
    rw [received_answerBlock_append config.terminator_oneLine hcr hmarkup.1,
      readAnswer_block config.terminator_oneLine hmarkup.2]

/-- The markers of any settings work between a server and a client of these settings exactly if they
have no carriage return: the client is greeted by what the server writes first, and stops at the
terminator that the server writes behind framable markup. -/
theorem markers_work_iff {σ : Type} (s : Server σ) (renames : Table) (peer : π) :
    (∀ more, (connect { config := s.config, renames := renames } peer
        (s.readyLine ++ more)).waitReady.reply = .value () ↔ '\r' ∉ s.config.ready) ∧
    ∀ markup, IsFramable s.config.terminator markup → ∀ more,
      readAnswer s.config.terminator []
          (received (answerBlock s.config.terminator markup ++ more)) =
          (some markup, received more) ↔
        '\r' ∉ s.config.terminator :=
  ⟨waitReady_readyLine_iff s renames peer,
    fun _ hmarkup more => readAnswer_answerBlock_iff s.config hmarkup more⟩

/-- Markers with blanks and of several characters work, also where a line of the markup begins with
the terminator. -/
theorem markers_with_blanks_work :
    let config : Config :=
      { Config.default with ready := " go ".toList, terminator := "-- end".toList,
                            ready_oneLine := by decide, terminator_oneLine := by decide,
                            terminator_ne_nil := by decide }
    let s : Server Cache := ⟨config, .ofCatalogue {} config⟩
    (connect { config := config } ({} : Script) s.readyLine).waitReady.reply = .value () ∧
      readAnswer config.terminator [] (received (answerBlock config.terminator "-- end?".toList)) =
        (some "-- end?".toList, []) := by
  intro config s
  obtain ⟨hready, hanswer⟩ := markers_work_iff s .empty ({} : Script)
  have hgreeted := (hready []).2 (by decide)
  have hread := (hanswer "-- end?".toList (by decide +kernel) []).2 (by decide)
  rw [List.append_nil] at hgreeted hread
  exact ⟨hgreeted, hread⟩

/-- Markers with a carriage return are accepted, and neither the ready line nor the terminator is
found. -/
theorem markers_with_cr_fail :
    ∃ config : Config,
      Draft.check { ready := "a\rb".toList, terminator := "\r".toList } = .ok config ∧
      let s : Server Cache := ⟨config, .ofCatalogue {} config⟩
      (connect { config := config } ({} : Script) s.readyLine).waitReady.reply =
        .failure (.protocol (.unexpectedGreeting "a\n".toList)) ∧
      IsFramable config.terminator [] ∧
      readAnswer config.terminator [] (received (answerBlock config.terminator [])) = (none, []) := by
  let config : Config :=
    { Config.default with ready := "a\rb".toList, terminator := "\r".toList,
                          ready_oneLine := by decide, terminator_oneLine := by decide,
                          terminator_ne_nil := by decide }
  have haccepted : Draft.check { ready := "a\rb".toList, terminator := "\r".toList } = .ok config :=
    eq_ok_of_toOption (by decide +kernel)
  refine ⟨config, haccepted, ?_, ?_, ?_⟩
  · decide +kernel
  · decide +kernel
  · decide +kernel

end Connection
end LineHighlight
