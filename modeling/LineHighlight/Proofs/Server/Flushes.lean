import LineHighlight.Proofs.Server.Prefixes

/-!
# What is flushed when a server asks for input

A stream holds back what is written until it is flushed (`Outlet`). Everything that a server does
between two lines is settled: it asks for no input, and a stream that held nothing back before holds
nothing back after it (`Trace.Settled`). So a server that asks for a line owes nothing:
`outlet_of_asks` says that everything is flushed by then, and that it is the ready line and a block
for each request in the lines read so far.
-/

namespace LineHighlight

/-! ## Streams -/

/-- An output stream: the text that it has passed on and the text that it holds back. -/
structure Outlet where
  sent : Text := []
  held : Text := []
  deriving DecidableEq, Repr

/-- The stream after one thing that a server does. -/
def Outlet.after (o : Outlet) : Event → Outlet
  | .write t => { o with held := o.held ++ t }
  | .flush => ⟨o.sent ++ o.held, []⟩
  | .read | .log _ => o

namespace Trace

/-- The stream after some things that a server does. -/
def outlet (o : Outlet) (trace : Trace) : Outlet := trace.foldl Outlet.after o

/-- The number of lines asked for. -/
def reads (trace : Trace) : Nat := trace.count .read

lemma outlet_append (o : Outlet) (s t : Trace) : (s ++ t).outlet o = t.outlet (s.outlet o) :=
  List.foldl_append

lemma reads_cons_read (t : Trace) : reads (.read :: t) = t.reads + 1 := List.count_cons_self

lemma reads_append (s t : Trace) : (s ++ t).reads = s.reads + t.reads := List.count_append

/-- A stream passes on or holds back what is written, and loses nothing. -/
lemma sent_append_held (o : Outlet) (trace : Trace) :
    (trace.outlet o).sent ++ (trace.outlet o).held = o.sent ++ o.held ++ trace.output := by
  induction trace generalizing o with
  | nil => exact (List.append_nil _).symm
  | cons e rest ih =>
    show (outlet (o.after e) rest).sent ++ (outlet (o.after e) rest).held = _
    rw [ih]
    cases e with
    | read => rfl
    | log n => rfl
    | write t =>
      show o.sent ++ (o.held ++ t) ++ output rest = o.sent ++ o.held ++ (t ++ output rest)
      simp only [List.append_assoc]
    | flush =>
      show o.sent ++ o.held ++ [] ++ output rest = o.sent ++ o.held ++ output rest
      rw [List.append_nil]

/-- What leaves nothing held back leaves nothing held back either if some of it was passed on
before. -/
lemma held_outlet_of_suffix {o o' : Outlet} {trace : Trace} (h : (trace.outlet o).held = [])
    (hsuffix : ∃ front, o.held = front ++ o'.held) : (trace.outlet o').held = [] := by
  -- What is held back stays a suffix of what would have been held back.
  induction trace generalizing o o' with
  | nil =>
    obtain ⟨front, hfront⟩ := hsuffix
    exact (List.append_eq_nil_iff.1 (hfront.symm.trans h)).2
  | cons e rest ih =>
    refine ih (o := o.after e) h ?_
    obtain ⟨front, hfront⟩ := hsuffix
    cases e with
    | read | log => exact ⟨front, hfront⟩
    | write t =>
      refine ⟨front, ?_⟩
      show o.held ++ t = front ++ (o'.held ++ t)
      rw [hfront, List.append_assoc]
    | flush => exact ⟨[], rfl⟩

/-! ## Settled traces -/

/-- A stream that held nothing back before the trace holds nothing back after it. -/
def Flushed (trace : Trace) : Prop := ∀ o : Outlet, o.held = [] → (trace.outlet o).held = []

lemma Flushed.append {s t : Trace} (hs : s.Flushed) (ht : t.Flushed) : Flushed (s ++ t) := by
  intro o ho
  rw [outlet_append]
  exact ht _ (hs o ho)

/-- All that was written is passed on. -/
lemma Flushed.outlet_eq {t : Trace} (ht : t.Flushed) (sent : Text) :
    t.outlet ⟨sent, []⟩ = ⟨sent ++ t.output, []⟩ := by
  have hheld : (t.outlet ⟨sent, []⟩).held = [] := ht _ rfl
  have hall := sent_append_held ⟨sent, []⟩ t
  rw [hheld, List.append_nil, List.append_nil] at hall
  exact congrArg₂ Outlet.mk hall hheld

/-- A trace without a request for input, at the end of which everything is flushed. -/
structure Settled (trace : Trace) : Prop where
  asksNothing : .read ∉ trace
  flushed : trace.Flushed

lemma settled_nil : Settled [] := ⟨List.not_mem_nil, fun _ h => h⟩

lemma Settled.append {s t : Trace} (hs : s.Settled) (ht : t.Settled) : Settled (s ++ t) := by
  refine ⟨fun h => ?_, hs.flushed.append ht.flushed⟩
  exact (List.mem_append.1 h).elim hs.asksNothing ht.asksNothing

/-- A log record has nothing to do with the stream. -/
lemma Settled.cons_log {t : Trace} (ht : t.Settled) (n : Note) : Settled (.log n :: t) := by
  refine ⟨fun h => ?_, ht.flushed⟩
  exact (List.mem_cons.1 h).elim (fun e => nomatch e) ht.asksNothing

lemma settled_ofNotes (ns : List Note) : Settled (ofNotes ns) := by
  induction ns with
  | nil => exact settled_nil
  | cons n ns ih => exact ih.cons_log n

/-- What is written at once and flushed is passed on. -/
lemma Settled.cons_write_flush {t : Trace} (ht : t.Settled) (text : Text) :
    Settled (.write text :: .flush :: t) := by
  refine ⟨fun h => ?_, fun o _ => ht.flushed _ rfl⟩
  rcases List.mem_cons.1 h with e | h
  · exact nomatch e
  · exact (List.mem_cons.1 h).elim (fun e => nomatch e) ht.asksNothing

/-- Only what follows a settled trace asks for input. -/
lemma Settled.reads_append {s : Trace} (hs : s.Settled) (t : Trace) : (s ++ t).reads = t.reads := by
  have hnone : s.reads = 0 := List.count_eq_zero.2 hs.asksNothing
  rw [Trace.reads_append, hnone, Nat.zero_add]

end Trace

/-! ## What is done between two lines -/

variable {σ : Type}

/-- An answer that is written is flushed. -/
lemma Engine.settled_answer (e : Engine σ) (terminator : Text) (memory : σ) (r : Request) :
    (e.answer terminator memory r).trace.Settled := by
  have hnotes := Trace.settled_ofNotes (e.registry.resolve memory r.language).1.notes
  unfold Engine.answer
  dsimp only
  split
  · exact hnotes
  · exact hnotes
  · split
    · exact hnotes
    · exact hnotes.append ((Trace.settled_nil.cons_log _).cons_write_flush _)

namespace Server

/-- A request is handled to its end before the next line is asked for. -/
lemma settled_handle (s : Server σ) (memory : σ) (a : Assembler) (r : Request) :
    (s.handle memory a r).trace.Settled := by
  have hanswer := s.engine.settled_answer s.config.terminator memory r
  unfold handle
  dsimp only
  split
  · exact hanswer
  · exact hanswer.append (Trace.settled_nil.cons_log _)
  · exact hanswer

/-- What a line leads to is done before the next line is asked for. -/
theorem settled_feed (s : Server σ) (state : State σ) (line : Text) :
    (s.feed state line).trace.Settled := by
  have hnotes := Trace.settled_ofNotes (state.assembler.notes line)
  unfold feed
  dsimp only
  split
  · exact hnotes
  · exact hnotes.append (Trace.settled_nil.cons_log _)
  · exact hnotes.append (s.settled_handle state.memory _ _)

/-- The ready line is flushed before the first line is asked for. -/
theorem settled_start (s : Server σ) (memory : σ) : (s.start memory).trace.Settled := by
  have hnotes :=
    Trace.settled_ofNotes (s.engine.registry.preload memory s.config.aliases.keys).notes
  unfold start
  dsimp only
  split
  · exact hnotes
  · exact hnotes.append (((Trace.settled_nil.cons_log _).cons_write_flush _).cons_log _)

/-! ## Asking for a line -/

/-- A request for input behind something that has none stands in what follows. -/
private lemma exists_of_append_eq {s t front back : Trace} (h : s ++ t = front ++ .read :: back)
    (hs : .read ∉ s) : ∃ more, front = s ++ more ∧ t = more ++ .read :: back := by
  rcases List.append_eq_append_iff.1 h with ⟨more, hfront, ht⟩ | ⟨more, hfront, hback⟩
  · exact ⟨more, hfront, ht⟩
  · cases more with
    | nil => exact ⟨[], by rw [hfront, List.append_nil, List.append_nil], hback.symm⟩
    | cons e more =>
      have he : Event.read = e := (List.cons.inj hback).1
      refine absurd ?_ hs
      rw [hfront, he]
      exact List.mem_append_right _ List.mem_cons_self

/-- What was done on some lines is flushed. -/
lemma flushed_of_pursue {s : Server σ} {state last : State σ} {ls : List Text} {done : Trace}
    (h : s.pursue state ls = some (last, done)) : done.Flushed := by
  induction ls generalizing state done with
  | nil =>
    obtain ⟨rfl, rfl⟩ := Prod.mk.inj (Option.some.inj h)
    exact fun _ ho => ho
  | cons line ls ih =>
    rw [pursue] at h
    cases hending : (s.feed state (Text.stripTerminator line)).ending with
    | some ending =>
      rw [hending] at h
      cases h
    | none =>
      rw [hending] at h
      obtain ⟨⟨last', more⟩, hmore, hreached⟩ := Option.map_eq_some_iff.1 h
      obtain ⟨rfl, rfl⟩ := Prod.mk.inj hreached
      exact (s.settled_feed state (Text.stripTerminator line)).flushed.append (ih hmore)

/-- When a line is asked for, the session goes on after the lines that were asked for before, and
what was done until then was done on them. -/
lemma pursue_of_asks {s : Server σ} {state : State σ} {interrupted : Bool} {lines : List Text}
    {front back : Trace}
    (h : (s.serve state interrupted lines).trace = front ++ .read :: back) :
    front.reads ≤ lines.length ∧
      ∃ last, s.pursue state (lines.take front.reads) = some (last, front) := by
  induction lines generalizing state front with
  | nil =>
    -- The only request for input is the one that finds none.
    obtain ⟨notes, hnotes⟩ :
        ∃ notes, (s.serve state interrupted []).trace = .read :: Trace.ofNotes notes := by
      cases interrupted with
      | true => exact ⟨[], rfl⟩
      | false => exact ⟨closingNotes state, rfl⟩
    rw [hnotes] at h
    cases front with
    | nil => exact ⟨Nat.le_refl 0, state, rfl⟩
    | cons e front =>
      refine absurd ?_ (Trace.settled_ofNotes notes).asksNothing
      rw [(List.cons.inj h).2]
      exact List.mem_append_right _ List.mem_cons_self
  | cons line lines ih =>
    have hstep := s.settled_feed state (Text.stripTerminator line)
    cases front with
    | nil => exact ⟨Nat.zero_le _, state, rfl⟩
    | cons e front =>
      rw [serve] at h
      cases hending : (s.feed state (Text.stripTerminator line)).ending with
      | some ending =>
        -- The session is over, and what the last line led to asks for nothing.
        rw [hending] at h
        refine absurd ?_ hstep.asksNothing
        rw [(List.cons.inj h).2]
        exact List.mem_append_right _ List.mem_cons_self
      | none =>
        rw [hending] at h
        obtain ⟨rfl, htail⟩ := List.cons.inj h
        obtain ⟨more, rfl, hmore⟩ := exists_of_append_eq htail hstep.asksNothing
        obtain ⟨hle, last, hpursue⟩ := ih hmore
        rw [Trace.reads_cons_read, hstep.reads_append, List.length_cons, List.take_succ_cons, pursue,
          hending]
        exact ⟨Nat.succ_le_succ hle, last, by rw [hpursue]; rfl⟩

/-- The lines that were not asked for are left unread. -/
lemma unread_serve (s : Server σ) (state : State σ) (interrupted : Bool) (lines : List Text) :
    (s.serve state interrupted lines).unread =
      lines.drop (s.serve state interrupted lines).trace.reads := by
  induction lines generalizing state with
  | nil =>
    rw [List.drop_nil]
    cases interrupted <;> rfl
  | cons line lines ih =>
    have hstep := s.settled_feed state (Text.stripTerminator line)
    have hreads := hstep.reads_append []
    rw [List.append_nil] at hreads
    rw [serve]
    dsimp only
    cases (s.feed state (Text.stripTerminator line)).ending with
    | some ending =>
      dsimp only
      rw [Trace.reads_cons_read, hreads]
      rfl
    | none =>
      dsimp only
      rw [ih, List.cons_append, Trace.reads_cons_read, hstep.reads_append, List.drop_succ_cons]

/-! ## Owing nothing -/

/-- A server never waits for input while it owes output. Whenever it asks for a line, all that it has
written is flushed, and it is the ready line and one block for each request in the lines read so far,
every one of which is answered. The lines left unread at the end are those not asked for. -/
theorem outlet_of_asks (s : Server σ) (memory : σ) (input : Input) :
    let run := s.run memory input
    run.unread = input.lines.drop run.trace.reads ∧
      ∀ front back : Trace, run.trace = front ++ .read :: back →
        let ls := (input.lines.take front.reads).map Text.stripTerminator
        let warm := s.engine.registry.remember memory s.config.aliases.keys
        let replies := s.engine.replies warm (requestsOf ls)
        front.reads ≤ input.lines.length ∧ ¬ endsSession ls ∧
          replies.markups.length = (requestsOf ls).length ∧
          front.outlet {} =
            ⟨s.readyLine ++ replies.markups.flatMap (answerBlock s.config.terminator), []⟩ := by
  have hstart := s.settled_start memory
  unfold run
  dsimp only
  cases hending : (s.start memory).ending with
  | some ending =>
    -- Nothing is asked for.
    dsimp only
    have hreads := hstart.reads_append []
    rw [List.append_nil] at hreads
    refine ⟨by rw [hreads]; rfl, fun front back h => absurd ?_ hstart.asksNothing⟩
    rw [h]
    exact List.mem_append_right _ List.mem_cons_self
  | none =>
    dsimp only
    refine ⟨by rw [unread_serve, hstart.reads_append], fun front back h => ?_⟩
    obtain ⟨done, rfl, hdone⟩ := exists_of_append_eq h hstart.asksNothing
    obtain ⟨hle, last, hpursue⟩ := pursue_of_asks hdone
    rw [hstart.reads_append]
    obtain ⟨hstate, hready⟩ := start_of_opened hending
    rw [hstate] at hpursue
    have hserve := s.serve_ofSegment (input.lines.take done.reads)
      (s.engine.registry.remember memory s.config.aliases.keys) List.not_mem_nil
    rw [List.nil_append] at hserve
    obtain ⟨hout, hend, -⟩ := hserve
    -- The session goes on, so that no request failed and none of the lines ended it.
    rw [serve_of_pursue hpursue] at hend
    obtain ⟨hfailure, hended⟩ := Ending.ofSession_eq_inputClosed hend.symm
    refine ⟨hle, of_decide_eq_false hended, Engine.length_markups_of_none hfailure, ?_⟩
    have hflushed := hstart.flushed.append (flushed_of_pursue hpursue)
    rw [hflushed.outlet_eq, List.nil_append, Trace.output_append, hready, ← output_of_pursue hpursue,
      hout]

/-- When the second blank line is asked for, the block of the first request is out. -/
theorem outlet_of_asks_mirror :
    let run := mirror.run [] (.ofText "new\n\ta\n\nnew\n\nold".toList)
    let front : Trace := run.trace.take 13
    run.trace = front ++ .read :: run.trace.drop 14 ∧ front.reads = 4 ∧
      front.outlet {} = ⟨"ready\na\n\n\x04\n".toList, []⟩ := by
  have hask : (mirror.run [] (.ofText "new\n\ta\n\nnew\n\nold".toList)).trace =
      (mirror.run [] (.ofText "new\n\ta\n\nnew\n\nold".toList)).trace.take 13 ++
        .read :: (mirror.run [] (.ofText "new\n\ta\n\nnew\n\nold".toList)).trace.drop 14 := by
    decide +kernel
  obtain ⟨-, hasks⟩ := mirror.outlet_of_asks [] (.ofText "new\n\ta\n\nnew\n\nold".toList)
  obtain ⟨-, -, -, houtlet⟩ := hasks _ _ hask
  exact ⟨hask, by decide +kernel, houtlet.trans (by decide +kernel)⟩

end Server
end LineHighlight
