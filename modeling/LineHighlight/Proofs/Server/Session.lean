import LineHighlight.Proofs.Request.Segments
import LineHighlight.Proofs.Server.Replies

/-!
# What a session writes

A session is run line by line, with an assembler, a registry that remembers and an engine behind it.
`run_eq_replies_of_segments` says what comes of it in terms of the input as a whole: the lines are
cut at blank lines, the closed segments stand for requests, and the requests are replied to in their
order until one fails or a segment without a declaration is met.
-/

namespace LineHighlight

variable {σ : Type}

/-- How a session ends, given why the replies stopped, if they did, and whether some closed segment
has no declaration. -/
def Ending.ofSession (failure : Option AnswerFailure) (ended : Bool) : Ending :=
  match failure with
  | some cause => .ofFailure cause
  | none => if ended then .sessionEnd else .inputClosed

/-- A session ends for want of input if no request fails and no closed segment ends it. -/
lemma Ending.ofSession_eq_inputClosed {failure : Option AnswerFailure} {ended : Bool}
    (h : ofSession failure ended = .inputClosed) : failure = none ∧ ended = false := by
  cases failure with
  | some cause => cases cause <;> exact nomatch h
  | none =>
    cases ended with
    | true => exact nomatch h
    | false => exact ⟨rfl, rfl⟩

/-- The flags that are looked up to make some replies: those of the requests replied to and that of
the request that failed. -/
def Replies.asked (replies : Replies) (requests : List Request) : List Text :=
  (requests.take (replies.markups.length + 1)).map (·.language)

namespace Server

/-! ## Single lines -/

/-- A line that ends the session is the last one read. -/
lemma serve_cons_of_some {s : Server σ} {state : State σ} {line : Text} {ending : Ending}
    (h : (s.feed state (Text.stripTerminator line)).ending = some ending) (rest : List Text) :
    (s.serve state false (line :: rest)).trace.output =
        (s.feed state (Text.stripTerminator line)).trace.output ∧
      (s.serve state false (line :: rest)).ending = ending ∧
      (s.serve state false (line :: rest)).state =
        (s.feed state (Text.stripTerminator line)).state := by
  rw [serve]
  dsimp only
  rw [h]
  exact ⟨rfl, rfl, rfl⟩

/-- The session goes on after a line that does not end it. -/
lemma serve_cons_of_none {s : Server σ} {state : State σ} {line : Text}
    (h : (s.feed state (Text.stripTerminator line)).ending = none) (rest : List Text) :
    let step := s.feed state (Text.stripTerminator line)
    (s.serve state false (line :: rest)).trace.output =
        step.trace.output ++ (s.serve step.state false rest).trace.output ∧
      (s.serve state false (line :: rest)).ending = (s.serve step.state false rest).ending ∧
      (s.serve state false (line :: rest)).state = (s.serve step.state false rest).state := by
  intro step
  rw [serve]
  dsimp only
  rw [h]
  refine ⟨?_, rfl, rfl⟩
  exact Trace.output_append (.read :: step.trace) _

/-! ## Lines after an unfinished segment -/

/-- A line that is not blank makes the unfinished segment longer, and nothing else comes of it. -/
lemma serve_cons_of_ne_nil (s : Server σ) (memory : σ) (seg : Segment) {line : Text}
    (h : Text.stripTerminator line ≠ []) (rest : List Text) :
    let run := s.serve ⟨memory, .ofSegment seg⟩ false (line :: rest)
    let more := s.serve ⟨memory, .ofSegment (seg ++ [Text.stripTerminator line])⟩ false rest
    run.trace.output = more.trace.output ∧ run.ending = more.ending ∧ run.state = more.state := by
  intro run more
  obtain ⟨hending, hstate, houtput⟩ := s.feed_of_none memory (Assembler.feed_ofSegment seg h)
  have hmore := serve_cons_of_none hending rest
  dsimp only at hmore
  rw [hstate, houtput] at hmore
  exact hmore

/-- A blank line after a segment without a declaration ends the session. -/
lemma serve_cons_of_end (s : Server σ) (memory : σ) {seg : Segment} {line : Text}
    (hline : Text.stripTerminator line = []) (hseg : seg.request? = none) (rest : List Text) :
    let run := s.serve ⟨memory, .ofSegment seg⟩ false (line :: rest)
    run.trace.output = [] ∧ run.ending = .sessionEnd ∧ run.state.memory = memory := by
  intro run
  have hfeed := Assembler.feed_ofSegment_end hseg
  rw [← hline] at hfeed
  obtain ⟨hending, hstate, houtput⟩ := s.feed_of_sessionEnd memory hfeed
  obtain ⟨hout, hend, hst⟩ := serve_cons_of_some hending rest
  refine ⟨hout.trans houtput, hend, ?_⟩
  show (s.serve ⟨memory, .ofSegment seg⟩ false (line :: rest)).state.memory = memory
  rw [hst, hstate]

/-- A blank line after a segment that stands for a request with markup writes the request's block,
and the session goes on with the next segment. -/
lemma serve_cons_of_ok (s : Server σ) {memory : σ} {seg : Segment} {line markup : Text} {r : Request}
    (hline : Text.stripTerminator line = []) (hseg : seg.request? = some r)
    (hr : s.engine.markup memory r.language r.source = .ok markup) (rest : List Text) :
    let run := s.serve ⟨memory, .ofSegment seg⟩ false (line :: rest)
    let more := s.serve ⟨(s.engine.registry.resolve memory r.language).2, .ofSegment []⟩ false rest
    run.trace.output = answerBlock s.config.terminator markup ++ more.trace.output ∧
      run.ending = more.ending ∧ run.state = more.state := by
  intro run more
  have hfeed := Assembler.feed_ofSegment_blank hseg
  rw [← hline] at hfeed
  obtain ⟨hending, hstate, houtput⟩ := s.feed_of_request memory hfeed
  obtain ⟨hending', hstate', houtput'⟩ := handle_of_ok hr .fresh
  have hmore := serve_cons_of_none (hending.trans hending') rest
  dsimp only at hmore
  rw [hstate, hstate', houtput, houtput'] at hmore
  exact hmore

/-- A blank line after a segment that stands for a request that fails ends the session. -/
lemma serve_cons_of_error (s : Server σ) {memory : σ} {seg : Segment} {line : Text} {r : Request}
    {cause : AnswerFailure} (hline : Text.stripTerminator line = []) (hseg : seg.request? = some r)
    (hr : s.engine.markup memory r.language r.source = .error cause) (rest : List Text) :
    let run := s.serve ⟨memory, .ofSegment seg⟩ false (line :: rest)
    run.trace.output = [] ∧ run.ending = .ofFailure cause ∧
      run.state.memory = (s.engine.registry.resolve memory r.language).2 := by
  intro run
  have hfeed := Assembler.feed_ofSegment_blank hseg
  rw [← hline] at hfeed
  obtain ⟨hending, hstate, houtput⟩ := s.feed_of_request memory hfeed
  obtain ⟨hending', hstate', houtput'⟩ := handle_of_error hr .fresh
  obtain ⟨hout, hend, hst⟩ := serve_cons_of_some (hending.trans hending') rest
  refine ⟨hout.trans (houtput.trans houtput'), hend, ?_⟩
  show (s.serve ⟨memory, .ofSegment seg⟩ false (line :: rest)).state.memory = _
  rw [hst, hstate, hstate']

/-! ## Whole inputs -/

/-- What comes of the lines of a session of which those of an unfinished segment were read already.
The induction is on the lines to come; the segment stands for the state of the assembler. -/
theorem serve_ofSegment (s : Server σ) (raw : List Text) (memory : σ) {seg : Segment}
    (hseg : [] ∉ seg) :
    let ls := seg ++ raw.map Text.stripTerminator
    let replies := s.engine.replies memory (requestsOf ls)
    let run := s.serve ⟨memory, .ofSegment seg⟩ false raw
    run.trace.output = replies.markups.flatMap (answerBlock s.config.terminator) ∧
      run.ending = .ofSession replies.failure (endsSession ls) ∧
      run.state.memory = s.engine.registry.remember memory (replies.asked (requestsOf ls)) := by
  induction raw generalizing memory seg with
  | nil =>
    dsimp only
    rw [List.map_nil, List.append_nil, requestsOf_of_not_mem hseg,
      decide_eq_false (not_endsSession_of_not_mem hseg)]
    refine ⟨?_, rfl, rfl⟩
    show Trace.output (Trace.ofNotes _) = []
    exact Trace.output_ofNotes _
  | cons line rest ih =>
    dsimp only
    rw [List.map_cons]
    by_cases hline : Text.stripTerminator line = []
    · -- The line closes the segment.
      rw [hline]
      cases hr : seg.request? with
      | none =>
        obtain ⟨hout, hend, hmemory⟩ := s.serve_cons_of_end memory hline hr rest
        rw [requestsOf_of_none hseg hr, decide_eq_true (endsSession_of_none hseg hr _)]
        exact ⟨hout, hend, hmemory⟩
      | some r =>
        rw [requestsOf_of_some hseg hr, decide_eq_decide.2 (endsSession_of_some hseg hr _)]
        cases hmarkup : s.engine.markup memory r.language r.source with
        | ok markup =>
          obtain ⟨hout, hend, hstate⟩ := s.serve_cons_of_ok hline hr hmarkup rest
          obtain ⟨ihout, ihend, ihmemory⟩ :=
            ih (s.engine.registry.resolve memory r.language).2 List.not_mem_nil
          rw [Engine.replies_cons_of_ok hmarkup, hout, hend, hstate]
          refine ⟨?_, ihend, ihmemory⟩
          rw [ihout]
          rfl
        | error cause =>
          obtain ⟨hout, hend, hmemory⟩ := s.serve_cons_of_error hline hr hmarkup rest
          rw [Engine.replies_cons_of_error hmarkup]
          exact ⟨hout, hend, hmemory⟩
    · -- The line makes the segment longer.
      have hmem : [] ∉ seg ++ [Text.stripTerminator line] := by
        rw [List.mem_append, List.mem_singleton, not_or]
        exact ⟨hseg, fun h => hline h.symm⟩
      obtain ⟨hout, hend, hstate⟩ := s.serve_cons_of_ne_nil memory seg hline rest
      have hmore := ih memory hmem
      rw [List.append_assoc] at hmore
      rw [hout, hend, hstate]
      exact hmore

/-! ## The whole session -/

/-- A server has the settings that chose it. -/
lemma config_of_configured {there : Installation} {config : Config} {s : Server Cache}
    (h : configured there config = .ok s) : s.config = config := by
  obtain ⟨engine, -, rfl⟩ := exists_of_map_eq_ok h
  rfl

/-- A session that is opened has loaded what the aliases lead to and written the ready line. -/
lemma start_of_opened {s : Server σ} {memory : σ} (h : (s.start memory).ending = none) :
    (s.start memory).state =
        ⟨s.engine.registry.remember memory s.config.aliases.keys, .ofSegment []⟩ ∧
      (s.start memory).trace.output = s.readyLine := by
  unfold start at h ⊢
  dsimp only at h ⊢
  cases hfound : (s.engine.registry.preload memory s.config.aliases.keys).found with
  | error cause =>
    rw [hfound] at h
    exact absurd h (Option.some_ne_none _)
  | ok n =>
    rw [Registry.memory_preload hfound]
    refine ⟨rfl, ?_⟩
    rw [Trace.output_append, Trace.output_ofNotes]
    exact List.append_nil _

/-- A session that is not opened writes nothing. -/
lemma output_start_of_some {s : Server σ} {memory : σ} {ending : Ending}
    (h : (s.start memory).ending = some ending) : (s.start memory).trace.output = [] := by
  unfold start at h ⊢
  dsimp only at h ⊢
  cases hfound : (s.engine.registry.preload memory s.config.aliases.keys).found with
  | error cause => exact Trace.output_ofNotes _
  | ok n =>
    rw [hfound] at h
    exact nomatch h

/-- A session is not opened if a grammar behind an alias cannot be loaded. -/
lemma ending_start (s : Server σ) (memory : σ) :
    (s.start memory).ending =
      match (s.engine.registry.preload memory s.config.aliases.keys).found with
      | .error cause => some (.notOpened cause)
      | .ok _ => none := by
  unfold start
  dsimp only
  cases (s.engine.registry.preload memory s.config.aliases.keys).found <;> rfl

/-- A session that is not opened is over. -/
lemma run_of_notOpened {s : Server σ} {memory : σ} {ending : Ending}
    (h : (s.start memory).ending = some ending) (input : Input) :
    (s.run memory input).trace.output = [] ∧ (s.run memory input).ending = ending := by
  unfold run
  dsimp only
  rw [h]
  exact ⟨output_start_of_some h, rfl⟩

/-- A session that is opened writes the ready line and a block for each request before the first that
fails, and ends for the reason that the requests tell. -/
lemma run_of_opened {s : Server σ} {memory : σ} (h : (s.start memory).ending = none)
    (input : Text) :
    let warm := s.engine.registry.remember memory s.config.aliases.keys
    let replies := s.engine.replies warm (requestsOf (Text.lines input))
    let run := s.run memory (.ofText input)
    run.trace.output = s.readyLine ++ replies.markups.flatMap (answerBlock s.config.terminator) ∧
      run.ending = .ofSession replies.failure (endsSession (Text.lines input)) := by
  obtain ⟨hstate, hready⟩ := start_of_opened h
  have hserve := s.serve_ofSegment (Text.rawLines input)
    (s.engine.registry.remember memory s.config.aliases.keys) List.not_mem_nil
  rw [List.nil_append] at hserve
  obtain ⟨hout, hend, -⟩ := hserve
  unfold run Input.ofText
  dsimp only
  rw [h, hstate]
  refine ⟨?_, hend⟩
  dsimp only
  rw [Trace.output_append, hready]
  exact congrArg _ hout

/-- A session whose registry never fails announces itself once what the aliases lead to is
loaded. -/
lemma start_of_neverFails (s : Server σ) (memory : σ) (h : s.engine.registry.NeverFails) :
    (s.start memory).ending = none ∧
      (s.start memory).state =
        ⟨s.engine.registry.remember memory s.config.aliases.keys, .ofSegment []⟩ ∧
      (s.start memory).trace.output = s.config.ready ++ ['\n'] := by
  obtain ⟨n, hn⟩ := Registry.found_preload h memory s.config.aliases.keys
  have hopened : (s.start memory).ending = none := by
    unfold start
    dsimp only
    rw [hn]
  exact ⟨hopened, start_of_opened hopened⟩

/-- A whole session in terms of its input. Blank lines cut the lines into segments, and each closed
segment with a declaration, up to the first without one, stands for a request. The output is the
ready line and one block for each request before the first that fails; the requests see what the
aliases and the requests before them left in the registry, and nothing else is ever looked up. -/
theorem run_eq_replies_of_segments (s : Server σ) (memory : σ) (input : Text)
    (h : s.engine.registry.NeverFails) :
    let registry := s.engine.registry
    let requests := requestsOf (Text.lines input)
    let warm := registry.remember memory s.config.aliases.keys
    let replies := s.engine.replies warm requests
    let run := s.run memory (.ofText input)
    run.trace.output =
        s.config.ready ++ ['\n'] ++
          replies.markups.flatMap (fun markup => markup ++ ['\n'] ++ s.config.terminator ++ ['\n']) ∧
      run.ending = .ofSession replies.failure (endsSession (Text.lines input)) ∧
      run.ending.status? =
        (match replies.failure with
        | none => some 0
        | some (.unknownLanguage _) => some 1
        | some (.engine _) => none) ∧
      run.state.memory = registry.remember warm (replies.asked requests) := by
  intro registry requests warm replies run
  obtain ⟨hending, hstate, houtput⟩ := s.start_of_neverFails memory h
  have hserve := s.serve_ofSegment (Text.rawLines input) warm List.not_mem_nil
  dsimp only at hserve
  rw [List.nil_append] at hserve
  obtain ⟨hout, hend, hmemory⟩ := hserve
  have hrun : run = { s.serve ⟨warm, .ofSegment []⟩ false (Text.rawLines input) with
      trace := (s.start memory).trace ++
        (s.serve ⟨warm, .ofSegment []⟩ false (Text.rawLines input)).trace } := by
    show s.run memory (.ofText input) = _
    unfold Server.run
    dsimp only
    rw [hending, hstate]
    rfl
  have hblock : answerBlock s.config.terminator =
      fun markup => markup ++ ['\n'] ++ s.config.terminator ++ ['\n'] := by
    funext markup
    unfold answerBlock
    simp only [List.append_assoc, List.cons_append, List.nil_append]
  have hrunEnding : run.ending = .ofSession replies.failure (endsSession (Text.lines input)) := by
    rw [hrun]
    exact hend
  refine ⟨?_, hrunEnding, ?_, ?_⟩
  · rw [hrun, Trace.output_append, houtput, ← hblock]
    exact congrArg (s.config.ready ++ ['\n'] ++ ·) hout
  · rw [hrunEnding]
    cases replies.failure with
    | none =>
      unfold Ending.ofSession
      dsimp only
      split <;> rfl
    | some cause => cases cause <;> rfl
  · rw [hrun]
    exact hmemory

/-- A server on a service that knows all names but `old` and gives every source back. -/
def mirror : Server Cache :=
  ⟨.default, .ofService ⟨fun name => some (name ≠ "old".toList), fun source _ => .ok source⟩ .default⟩

/-- The language that is declared last counts, though the one before it is not known, and what comes
after the end of the session does not. -/
theorem run_mirror_overwritten :
    mirror.engine.registry.NeverFails ∧
      let run := mirror.run [] (.ofText "old\n\ta\nnew\n\tb\r\n\n\told\n\nold\n\n".toList)
      run.trace.output = "ready\nb\n\n\x04\n".toList ∧ run.ending = .sessionEnd ∧
        run.ending.status? = some 0 := by
  have hnever : mirror.engine.registry.NeverFails := Registry.neverFails_ofService _ _
  obtain ⟨hout, hend, hstatus, -⟩ := mirror.run_eq_replies_of_segments []
    "old\n\ta\nnew\n\tb\r\n\n\told\n\nold\n\n".toList hnever
  exact ⟨hnever, hout.trans (by decide +kernel), hend.trans (by decide +kernel),
    hstatus.trans (by decide +kernel)⟩

end Server
end LineHighlight
