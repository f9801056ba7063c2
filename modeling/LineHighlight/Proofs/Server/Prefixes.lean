import LineHighlight.Proofs.Server.Session
import LineHighlight.Proofs.Text.Streams

/-!
# Sessions on the first lines of an input

What a server does on some lines does not depend on the lines behind them. `Server.pursue` follows a
session over some lines, as long as it goes on, and `serve_append` continues from there, so that
`run_causal` compares the runs on a text and on a longer one. A text may stop in the middle of a
line: such a line is not blank, and only blank lines lead to output.
-/

namespace LineHighlight

variable {σ : Type}

namespace Server

/-! ## The first lines -/

/-- The session after some lines, unless it is over by then, and what was done on them. -/
def pursue (s : Server σ) (state : State σ) : List Text → Option (State σ × Trace)
  | [] => some (state, [])
  | line :: rest =>
    let step := s.feed state (Text.stripTerminator line)
    match step.ending with
    | some _ => none
    | none =>
      (s.pursue step.state rest).map fun reached => (reached.1, .read :: step.trace ++ reached.2)

/-- What more lines lead to depends on where the first ones led: to a session that goes on, or to the
end of it, which leaves all further lines unread. -/
theorem serve_append (s : Server σ) (state : State σ) (interrupted : Bool) (ls more : List Text) :
    s.serve state interrupted (ls ++ more) =
      match s.pursue state ls with
      | some (last, done) =>
        let rest := s.serve last interrupted more
        { rest with trace := done ++ rest.trace }
      | none =>
        let run := s.serve state false ls
        { run with unread := run.unread ++ more } := by
  induction ls generalizing state with
  | nil => rfl
  | cons line ls ih =>
    rw [List.cons_append, serve, serve, pursue]
    dsimp only
    cases (s.feed state (Text.stripTerminator line)).ending with
    | some ending => rfl
    | none =>
      dsimp only
      rw [ih]
      cases s.pursue (s.feed state (Text.stripTerminator line)).state ls with
      | none => rfl
      | some reached =>
        dsimp only [Option.map_some]
        rw [List.append_assoc]

/-- A session that goes on after all lines ends because there are no more. -/
lemma serve_of_pursue {s : Server σ} {state last : State σ} {ls : List Text} {done : Trace}
    (h : s.pursue state ls = some (last, done)) :
    s.serve state false ls =
      ⟨last, done ++ .read :: Trace.ofNotes (closingNotes last), .inputClosed, []⟩ := by
  have happend := s.serve_append state false ls []
  rw [List.append_nil, h] at happend
  exact happend

/-- Nothing is written at the end of the input. -/
lemma output_of_pursue {s : Server σ} {state last : State σ} {ls : List Text} {done : Trace}
    (h : s.pursue state ls = some (last, done)) :
    (s.serve state false ls).trace.output = Trace.output done := by
  rw [serve_of_pursue h]
  dsimp only
  have hclosing : Trace.output (.read :: Trace.ofNotes (closingNotes last)) = [] :=
    Trace.output_ofNotes _
  rw [Trace.output_append, hclosing, List.append_nil]

/-! ## Texts that stop anywhere -/

/-- Nothing is written for an unfinished line, whatever was declared before it. -/
lemma serve_unfinished (s : Server σ) (state : State σ) {last : Text} (h : '\n' ∉ last) :
    (s.serve state false (Text.rawLines last)).trace.output = [] ∧
      (s.serve state false (Text.rawLines last)).ending = .inputClosed := by
  rw [Text.rawLines_of_not_mem h]
  by_cases hlast : last = []
  · rw [if_pos hlast]
    exact ⟨Trace.output_ofNotes _, rfl⟩
  · rw [if_neg hlast]
    obtain ⟨memory, a⟩ := state
    -- A line that is not blank declares a language or is code, and leads to no outcome.
    obtain ⟨after, hfeed⟩ : ∃ after, a.feed last = (after, none) := by
      rcases a.feed_cases last with ⟨hblank, -⟩ | ⟨_, hblank, -⟩ | ⟨_, -, hfeed⟩ | ⟨-, -, hfeed⟩
      · exact absurd hblank hlast
      · exact absurd hblank hlast
      · exact ⟨_, hfeed⟩
      · exact ⟨_, hfeed⟩
    obtain ⟨hending, -, houtput⟩ := s.feed_of_none memory hfeed
    rw [← Text.stripTerminator_of_not_mem h] at hending houtput
    obtain ⟨hout, hend, -⟩ := serve_cons_of_none hending []
    refine ⟨?_, hend⟩
    rw [hout, houtput]
    exact Trace.output_ofNotes _

/-- What a session writes on the lines of a text it also writes on those of a longer text, and a
session that is over before the end of the text takes no notice of what follows. -/
theorem serve_causal (s : Server σ) (state : State σ) (a b : Text) :
    let first := s.serve state false (Text.rawLines a)
    let whole := s.serve state false (Text.rawLines (a ++ b))
    first.trace.output <+: whole.trace.output ∧
      (first.ending ≠ .inputClosed →
        whole.trace = first.trace ∧ whole.ending = first.ending ∧ whole.state = first.state ∧
          whole.unread.flatten = first.unread.flatten ++ b) := by
  obtain ⟨ls, last, rfl, hls, hlast⟩ := Text.exists_eq_unlines_append a
  have hfirst := s.serve_append state false (ls.map (· ++ ['\n'])) (Text.rawLines last)
  have hwhole := s.serve_append state false (ls.map (· ++ ['\n'])) (Text.rawLines (last ++ b))
  rw [← Text.rawLines_unlines_append hls] at hfirst hwhole
  rw [← List.append_assoc] at hwhole
  dsimp only
  rw [hfirst, hwhole]
  cases s.pursue state (ls.map (· ++ ['\n'])) with
  | some reached =>
    -- Both runs come to the unfinished line, where the first one stops without a word.
    obtain ⟨hout, hend⟩ := s.serve_unfinished reached.1 hlast
    refine ⟨?_, fun hne => absurd hend hne⟩
    dsimp only
    rw [Trace.output_append, Trace.output_append, hout, List.append_nil]
    exact List.prefix_append _ _
  | none =>
    -- The written lines end the session, so that the unfinished one is not read.
    refine ⟨List.prefix_rfl, fun _ => ⟨rfl, rfl, rfl, ?_⟩⟩
    dsimp only
    rw [List.flatten_append, List.flatten_append, Text.flatten_rawLines, Text.flatten_rawLines,
      List.append_assoc]

/-- Output is causal in the input. What a server writes on a text it also writes on every longer
text. If it stops before the end of the text, by a blank line, an unknown language or a failure of
the engine, then it does just the same on the longer one and leaves the rest of it unread. -/
theorem run_causal (s : Server σ) (memory : σ) (a b : Text) :
    let first := s.run memory (.ofText a)
    let whole := s.run memory (.ofText (a ++ b))
    first.trace.output <+: whole.trace.output ∧
      (first.ending ≠ .inputClosed →
        whole.trace = first.trace ∧ whole.ending = first.ending ∧ whole.state = first.state ∧
          whole.unread.flatten = first.unread.flatten ++ b) := by
  obtain ⟨hout, hover⟩ := s.serve_causal (s.start memory).state a b
  unfold run Input.ofText
  dsimp only
  cases (s.start memory).ending with
  | some ending =>
    -- The session is not opened, and no line is read.
    refine ⟨List.prefix_rfl, fun _ => ⟨rfl, rfl, rfl, ?_⟩⟩
    dsimp only
    rw [Text.flatten_rawLines, Text.flatten_rawLines]
  | none =>
    dsimp only
    rw [Trace.output_append, Trace.output_append]
    refine ⟨(List.prefix_append_right_inj _).2 hout, fun hne => ?_⟩
    obtain ⟨htrace, hending, hstate, hunread⟩ := hover hne
    exact ⟨congrArg _ htrace, hending, hstate, hunread⟩

/-- A blank line that ends the session is followed by a carriage return without its line feed, which
is never read; the longer text finishes that line and asks for a language in the next one. -/
theorem run_causal_mirror :
    let first := mirror.run [] (.ofText "new\n\ta\n\n\n\r".toList)
    let whole := mirror.run [] (.ofText ("new\n\ta\n\n\n\r".toList ++ "\nold\n\n".toList))
    first.ending ≠ .inputClosed ∧ whole.ending = .sessionEnd ∧
      whole.trace.output = "ready\na\n\n\x04\n".toList ∧
      whole.unread.flatten = "\r\nold\n\n".toList := by
  have hne : (mirror.run [] (.ofText "new\n\ta\n\n\n\r".toList)).ending ≠ .inputClosed := by
    decide +kernel
  obtain ⟨-, hover⟩ := mirror.run_causal [] "new\n\ta\n\n\n\r".toList "\nold\n\n".toList
  obtain ⟨htrace, hending, -, hunread⟩ := hover hne
  refine ⟨hne, hending.trans (by decide +kernel), ?_, hunread.trans (by decide +kernel)⟩
  exact (congrArg Trace.output htrace).trans (by decide +kernel)

end Server
end LineHighlight
