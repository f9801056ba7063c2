import LineHighlight.Proofs.Client.Returning

/-!
# Turns of a client and the program

Three of the many ways to go on, each of them made of moves of `System`: the program does all that it can
(`leads_perform`, `leads_spill`, `leads_serve`), the client writes the whole of a request (`leads_put`),
and the client reads the lines that are in the pipe up to the end of an answer (`leads_read`).
-/

namespace LineHighlight

open CommandLine Connection

/-! ## Whole output -/

/-- What a server writes for a line is whole. -/
lemma Server.whole_feed {σ : Type} (s : Server σ) (state : Server.State σ) (line : Text) :
    Text.Whole (s.feed state line).trace.output := by
  obtain ⟨memory, assembler⟩ := state
  obtain ⟨after, outcome, hfeed⟩ : ∃ after outcome, assembler.feed line = (after, outcome) :=
    ⟨_, _, rfl⟩
  cases outcome with
  | none =>
    rw [(s.feed_of_none memory hfeed).2.2]
    exact Text.whole_nil
  | some outcome =>
    cases outcome with
    | sessionEnd =>
      rw [(s.feed_of_sessionEnd memory hfeed).2.2]
      exact Text.whole_nil
    | request r =>
      rw [(s.feed_of_request memory hfeed).2.2]
      cases hmarkup : s.engine.markup memory r.language r.source with
      | ok markup =>
        rw [(Server.handle_of_ok hmarkup after).2.2]
        exact Text.whole_append_lf _
      | error cause =>
        rw [(Server.handle_of_error hmarkup after).2.2]
        exact Text.whole_nil

/-- What the program writes for some lines is whole. -/
lemma Piped.whole_feedLines (p : Process) (ls : List Text) :
    Text.Whole (Piped.feedLines p ls).1 := by
  induction ls generalizing p with
  | nil => exact Text.whole_nil
  | cons l ls ih =>
    rw [Piped.feedLines_cons]
    refine Text.Whole.append ?_ (ih _)
    cases p with
    | serving session => exact session.server.whole_feed session.state l
    | exited status => exact Text.whole_nil

/-- What the program writes at its start is whole. -/
lemma CommandLine.Process.whole_launch (there : Installation) (words : List Text) :
    Text.Whole (Process.launch there words).2.stdout := by
  unfold Process.launch
  split
  · exact Text.whole_nil
  · exact Text.whole_nil
  · exact (Text.whole_unlines _).append (Text.whole_unlines _)
  · exact Text.whole_append_lf _
  · exact Text.whole_unlines _
  · exact Text.whole_nil
  · split
    · exact Text.whole_nil
    · rename_i s _
      dsimp only
      cases hending : (s.start []).ending with
      | some ending =>
        rw [Server.output_start_of_some hending]
        exact Text.whole_nil
      | none =>
        rw [(Server.start_of_opened hending).2]
        exact Text.whole_append_lf _

namespace System

/-! ## Moves in turn -/

/-- The second state is reached from the first one by some moves. -/
def Leads (st st' : System) : Prop := ∃ actions : List Action, st.after actions = some st'

variable {st st' st'' : System}

lemma after_append (st : System) (first rest : List Action) :
    st.after (first ++ rest) = (st.after first).bind fun next => next.after rest :=
  List.foldlM_append ..

lemma Leads.refl (st : System) : Leads st st := ⟨[], rfl⟩

lemma Leads.trans (h : Leads st st') (h' : Leads st' st'') : Leads st st'' := by
  obtain ⟨first, hrun⟩ := h
  obtain ⟨rest, hrun'⟩ := h'
  refine ⟨first ++ rest, ?_⟩
  rw [after_append, hrun]
  exact hrun'

lemma Leads.of_act {action : Action} (h : st.act action = some st') : Leads st st' := by
  refine ⟨[action], ?_⟩
  rw [after, List.foldlM_cons, h]
  rfl

lemma Leads.client (h : st.clientStep = some st') : Leads st st' :=
  .of_act (show st.act .client = _ from h)

lemma Leads.server (h : st.serverStep = some st') : Leads st st' :=
  .of_act (show st.act .server = _ from h)

lemma Leads.spill (h : st.spill = some st') : Leads st st' :=
  .of_act (show st.act .spill = _ from h)

/-! ## The program's turn -/

/-- The program does what it has begun. -/
lemma leads_perform (st : System) :
    Leads st { st with todo := [], outlet := st.todo.outlet st.outlet } := by
  generalize htodo : st.todo = todo
  -- The things are done one by one, and each of them changes the outlet.
  induction todo generalizing st with
  | nil =>
    have hsame : { st with todo := [], outlet := Trace.outlet st.outlet [] } = st := by
      cases st
      subst htodo
      rfl
    rw [hsame]
    exact .refl st
  | cons e rest ih =>
    have hstep : st.serverStep = some (st.perform e rest) := by
      unfold serverStep
      rw [htodo]
    exact (Leads.server hstep).trans (ih (st.perform e rest) rfl)

/-- The program passes on what it holds back. -/
lemma leads_spill (st : System) :
    Leads st { st with outlet := ⟨st.outlet.sent ++ st.outlet.held, []⟩ } := by
  generalize hheld : st.outlet.held = held
  induction held generalizing st with
  | nil =>
    have hsame : { st with outlet := ⟨st.outlet.sent ++ [], []⟩ } = st := by
      rw [List.append_nil, ← hheld]
    rw [hsame]
    exact .refl st
  | cons c rest ih =>
    have hstep : st.spill = some { st with outlet := ⟨st.outlet.sent ++ [c], rest⟩ } := by
      unfold spill
      rw [hheld]
    have hrest := ih { st with outlet := ⟨st.outlet.sent ++ [c], rest⟩ } rfl
    rw [List.append_assoc] at hrest
    exact (Leads.spill hstep).trans hrest

/-- The program reads all whole lines that are on its way, or exits before. -/
lemma leads_serve (st : System) (htodo : st.todo = []) (hheld : st.outlet.held = [])
    (hwhole : Text.Whole st.requests) :
    let fed := Piped.feedLines st.process (Text.lines (Text.unifyBreaks st.requests))
    ∃ rest, (fed.2.status? = none → rest = []) ∧
      Leads st { st with
        process := fed.2
        requests := rest
        outlet := ⟨st.outlet.sent ++ fed.1, []⟩ } := by
  -- The lines are read one by one.
  induction hlength : st.requests.length using Nat.strongRecOn generalizing st with
  | ind n ih =>
    intro fed
    have hsame : ∀ process : Process, process = st.process →
        { st with process := process, outlet := ⟨st.outlet.sent ++ [], []⟩ } = st := by
      rintro process rfl
      rw [List.append_nil, ← hheld]
    by_cases hnil : st.requests = []
    · have hfed : fed = ([], st.process) := by
        show Piped.feedLines st.process (Text.lines (Text.unifyBreaks st.requests)) = _
        rw [hnil]
        rfl
      refine ⟨st.requests, fun _ => hnil, ?_⟩
      rw [hfed, hsame _ rfl]
      exact .refl st
    cases hprocess : st.process with
    | exited status =>
      have hfed : fed = ([], .exited status) := by
        show Piped.feedLines st.process _ = _
        rw [hprocess, Piped.feedLines_exited]
      rw [hfed]
      refine ⟨st.requests, fun h => absurd h (Option.some_ne_none status), ?_⟩
      rw [hsame _ hprocess.symm]
      exact .refl st
    | serving session =>
      obtain ⟨line, rest, hnext⟩ := hwhole.exists_nextLine? hnil st.inputClosed
      obtain ⟨front, hfront, hrequests⟩ := Text.exists_of_nextLine? hnext
      have hstep : st.serverStep = some (st.readRequest session line rest) := by
        unfold serverStep
        rw [htodo, hprocess]
        dsimp only
        rw [hnext]
      let trace := (session.server.feed session.state (Text.stripTerminator line)).trace
      have hflushed : trace.outlet st.outlet = ⟨st.outlet.sent ++ trace.output, []⟩ := by
        have ho : st.outlet = ⟨st.outlet.sent, []⟩ := by rw [← hheld]
        rw [ho]
        exact (session.server.settled_feed session.state _).flushed.outlet_eq st.outlet.sent
      -- What the line leads to is done, and then the rest is read.
      have hshorter : rest.length < n := by
        have hpos := List.length_pos_iff.2 hfront
        rw [← hlength, hrequests, List.length_append]
        omega
      rw [hrequests] at hwhole
      have hfed : fed = (trace.output ++
          (Piped.feedLines (st.readRequest session line rest).process
            (Text.lines (Text.unifyBreaks rest))).1,
          (Piped.feedLines (st.readRequest session line rest).process
            (Text.lines (Text.unifyBreaks rest))).2) := by
        have hraw := Text.rawLines_of_nextLine? hnext fun _ => rfl
        rw [List.append_nil, List.append_nil] at hraw
        show Piped.feedLines st.process (Text.lines (Text.unifyBreaks st.requests)) = _
        unfold Text.lines
        rw [hraw, List.map_cons, Piped.feedLines_cons, hprocess]
        rfl
      obtain ⟨left, hleft, hrest⟩ := ih rest.length hshorter
        { st.readRequest session line rest with
          todo := []
          outlet := ⟨st.outlet.sent ++ trace.output, []⟩ } rfl rfl hwhole.suffix rfl
      have hturn := (Leads.server hstep).trans (leads_perform _)
      have houtlet : (st.readRequest session line rest).todo.outlet
          (st.readRequest session line rest).outlet = ⟨st.outlet.sent ++ trace.output, []⟩ := hflushed
      rw [houtlet] at hturn
      have hall := hturn.trans hrest
      dsimp only at hall
      rw [List.append_assoc] at hall
      rw [hfed, htodo]
      exact ⟨left, hleft, hall⟩

/-- A program that runs is not seen to have exited. -/
lemma status?_of_serves (h : st.process.status? = none) : st.status? = none := by
  unfold status?
  rw [h, ite_self]

/-- A program that has done everything is seen to have exited if it has. -/
lemma status?_of_settled (htodo : st.todo = []) (hheld : st.outlet.held = []) :
    st.status? = st.process.status? := by
  unfold status?
  rw [if_pos ⟨htodo, hheld⟩]

/-! ## The client's turn -/

/-- The client writes what is left of a request to a program that runs. -/
lemma leads_put (st : System) {flag code rest : Text}
    (hactivity : st.activity = .sending flag code rest) (hserves : st.process.status? = none) :
    Leads st { st with
      activity := .reading flag code []
      requests := st.requests ++ rest } := by
  induction rest generalizing st with
  | nil =>
    have hstep : st.clientStep = some { st with activity := .reading flag code [] } := by
      unfold clientStep
      rw [hactivity]
    rw [List.append_nil]
    exact .client hstep
  | cons c rest ih =>
    have hstep : st.clientStep = some (st.put c (.sending flag code rest)) := by
      unfold clientStep
      rw [hactivity]
      dsimp only
      rw [status?_of_serves hserves]
    have hrest := ih (st.put c (.sending flag code rest)) rfl hserves
    have happend : st.requests ++ [c] ++ rest = st.requests ++ c :: rest := by simp
    rw [show (st.put c (.sending flag code rest)).requests ++ rest = _ from happend] at hrest
    exact (Leads.client hstep).trans hrest

/-- A client that gets no lines has nothing to take. -/
lemma readLine_eq_none (h : received st.outlet.sent = []) : st.readLine = none := by
  unfold readLine
  rw [Text.eq_nil_of_rawLines_unifyBreaks h]
  rfl

/-- The client can take the first line that it gets. -/
lemma exists_readLine {line : Text} {rest : List Text}
    (hlines : received st.outlet.sent = line :: rest) (hwhole : Text.Whole st.outlet.sent) :
    ∃ sent, st.readLine = some (line, { st with outlet := { st.outlet with sent := sent } }) ∧
      received sent = rest ∧ Text.Whole sent := by
  have hne : st.outlet.sent ≠ [] := by
    intro hnil
    rw [hnil] at hlines
    cases hlines
  obtain ⟨first, sent, hnext⟩ := hwhole.exists_nextLine? hne st.status?.isSome
  have hraw := Text.rawLines_of_nextLine? hnext fun _ => rfl
  rw [List.append_nil, List.append_nil] at hraw
  obtain ⟨rfl, hrest⟩ := List.cons.inj (hraw.symm.trans hlines)
  obtain ⟨front, -, hfront⟩ := Text.exists_of_nextLine? hnext
  refine ⟨sent, ?_, hrest, ?_⟩
  · unfold readLine
    rw [hnext]
    rfl
  · rw [hfront] at hwhole
    exact hwhole.suffix

/-- An answer that is not found leaves no lines. -/
lemma readAnswer_none {terminator : Text} {lines : List Text} {before : List Text}
    (h : (readAnswer terminator before lines).1 = none) :
    (readAnswer terminator before lines).2 = [] := by
  induction lines generalizing before with
  | nil => rfl
  | cons line rest ih =>
    rw [readAnswer] at h ⊢
    split
    · rename_i hline
      rw [hline] at h
      exact ih h
    · rename_i hline
      rw [hline] at h
      exact absurd h (Option.some_ne_none _)

/-- A client that reads an answer takes the first line that it gets. -/
lemma clientStep_of_readLine {next : System} {flag code line : Text} {before : List Text}
    (hactivity : st.activity = .reading flag code before) (hline : st.readLine = some (line, next)) :
    st.clientStep = some (next.readOn flag code before line) := by
  unfold clientStep
  rw [hactivity]
  dsimp only
  rw [hline]

/-- The client reads up to the end of the answer, or all that it gets if the end is not there. -/
lemma leads_read (st : System) {flag code : Text} {before : List Text}
    (hactivity : st.activity = .reading flag code before) (hwhole : Text.Whole st.outlet.sent) :
    let found := readAnswer st.client.config.terminator before (received st.outlet.sent)
    ∃ sent last, received sent = found.2 ∧ Text.Whole sent ∧
      Leads st
        (match found.1 with
        | some markup =>
          { st with outlet := { st.outlet with sent := sent } }.finish
            (.highlight flag code) (.value (.markup markup))
        | none =>
          { st with
            activity := .reading flag code last
            outlet := { st.outlet with sent := sent } }) := by
  generalize hlines : received st.outlet.sent = lines
  -- Line by line, as `readAnswer` goes on.
  induction lines generalizing st before with
  | nil =>
    refine ⟨st.outlet.sent, before, hlines, hwhole, ?_⟩
    have hsame : { st with activity := .reading flag code before } = st := by rw [← hactivity]
    dsimp only [readAnswer]
    rw [hsame]
    exact .refl st
  | cons line more ih =>
    obtain ⟨sent, hline, hmore, hsuffix⟩ := exists_readLine hlines hwhole
    have hstep := Leads.client (clientStep_of_readLine hactivity hline)
    unfold readOn at hstep
    dsimp only at hstep
    rw [readAnswer]
    cases hend : readAnswerLine st.client.config.terminator before line with
    | inr found =>
      rw [hend] at hstep
      exact ⟨sent, before, hmore, hsuffix, hstep⟩
    | inl before' =>
      rw [hend] at hstep
      obtain ⟨last, lines, hlast, hwholes, hleads⟩ := ih
        { st with
          activity := .reading flag code before'
          outlet := { st.outlet with sent := sent } } rfl hsuffix hmore
      exact ⟨last, lines, hlast, hwholes, hstep.trans hleads⟩

end System
end LineHighlight
