import LineHighlight.Proofs.Client.Blame
import LineHighlight.Proofs.Client.Outlook

/-!
# A client and the program never wait for each other
-/

namespace LineHighlight

open CommandLine Connection

/-! ## The order of things -/

namespace Activity

/-- A request is being written, or its answer is being read. -/
def isAsking (a : Activity) : Bool := a.subject?.isSome

/-- The client reads lines of the program. -/
def isReading : Activity → Bool
  | greeting _ | reading .. => true
  | _ => false

/-- The program's input has been closed. -/
def isLeft : Activity → Bool
  | leaving | gone => true
  | _ => false

/-- A client that waits for the ready line has not read it, one that asks for an answer has, and the
request has passed the check. -/
def Fits (client : Client) (greeted : Bool) : Activity → Prop
  | greeting call =>
    greeted = false ∧ ∀ flag code, call = .highlight flag code → client.check flag code = .ok ()
  | sending flag code _ | reading flag code _ =>
    greeted = true ∧ client.check flag code = .ok ()
  | _ => True

end Activity

namespace System

/-- The client is the one that was given at the start, but that it may have read the ready line, and
closing the program's input is the last thing that it does. -/
structure Tracks (client : Client) (st : System) : Prop where
  same : st.client = { client with greeted := st.client.greeted }
  fits : st.activity.Fits client st.client.greeted
  closed : st.inputClosed = st.activity.isLeft

namespace Tracks

variable {client : Client} {st : System}

/-- A client that has closed the input has nothing more to write. -/
lemma unsent_of_closed (h : Tracks client st) (hclosed : st.inputClosed = true) :
    st.activity.unsent = [] := by
  have hleft : st.activity.isLeft = true := h.closed.symm.trans hclosed
  cases hactivity : st.activity with
  | leaving | gone => rfl
  | _ =>
    rw [hactivity] at hleft
    exact nomatch hleft

/-- The check of a request does not depend on whether the ready line was read. -/
lemma check_eq (h : Tracks client st) (flag code : Text) :
    st.client.check flag code = client.check flag code := by
  rw [h.same]
  rfl

/-- A call begins. -/
lemma call (h : Tracks client st) (hidle : st.activity = .idle) (call : Call) :
    Tracks client (st.call call) := by
  have hopen : st.inputClosed = false := h.closed.trans (by rw [hidle]; rfl)
  cases call with
  | waitReady =>
    unfold System.call
    dsimp only
    split
    · exact ⟨h.same, trivial, hopen⟩
    · rename_i hgreeted
      refine ⟨h.same, ⟨eq_false_of_ne_true hgreeted, ?_⟩, hopen⟩
      exact fun flag code hcall => nomatch hcall
  | highlight flag code =>
    unfold System.call
    dsimp only
    split
    · exact ⟨h.same, trivial, hopen⟩
    · rename_i hcheck
      rw [h.check_eq] at hcheck
      split
      · rename_i hgreeted
        exact ⟨h.same, ⟨hgreeted, hcheck⟩, hopen⟩
      · rename_i hgreeted
        refine ⟨h.same, ⟨eq_false_of_ne_true hgreeted, ?_⟩, hopen⟩
        intro flag' code' hcall
        obtain ⟨rfl, rfl⟩ := Call.highlight.inj hcall
        exact hcheck
  | close =>
    unfold System.call
    dsimp only
    split
    · exact ⟨h.same, trivial, rfl⟩
    · exact ⟨h.same, trivial, hopen⟩
  | returncode => exact ⟨h.same, trivial, hopen⟩

/-- The first line is read. -/
lemma greet (h : Tracks client st) {call : Call} (hactivity : st.activity = .greeting call)
    (line : Text) : Tracks client (st.greet call line) := by
  have hopen : st.inputClosed = false := h.closed.trans (by rw [hactivity]; rfl)
  have hfits := h.fits
  rw [hactivity] at hfits
  unfold System.greet
  cases hgreet : st.client.greet line with
  | error cause => exact ⟨h.same, trivial, hopen⟩
  | ok after =>
    have hafter : after = { client with greeted := true } := by
      unfold Client.greet at hgreet
      split at hgreet
      · rw [← Except.ok.inj hgreet, h.same]
      · exact nomatch hgreet
    subst hafter
    dsimp only
    split
    · exact ⟨rfl, ⟨rfl, hfits.2 _ _ rfl⟩, hopen⟩
    · exact ⟨rfl, trivial, hopen⟩

end Tracks

/-- Every move keeps to the order of things. -/
theorem tracks_move {client : Client} {st st' : System} (h : Tracks client st) (hmove : Move st st') :
    Tracks client st' := by
  have hfits := h.fits
  cases hmove with
  | call call hidle => exact h.call hidle call
  | greet call line next hactivity hline =>
    obtain ⟨-, -, rest, rfl⟩ := readLine_spec hline
    have hnext : Tracks client { st with outlet := { st.outlet with sent := rest } } :=
      ⟨h.same, h.fits, h.closed⟩
    exact hnext.greet hactivity line
  | ungreeted call status hactivity hstatus =>
    exact ⟨h.same, trivial, h.closed.trans (by rw [hactivity]; rfl)⟩
  | put flag code c rest hactivity hstatus =>
    rw [hactivity] at hfits
    exact ⟨h.same, hfits, h.closed.trans (by rw [hactivity]; rfl)⟩
  | sent flag code hactivity =>
    rw [hactivity] at hfits
    exact ⟨h.same, hfits, h.closed.trans (by rw [hactivity]; rfl)⟩
  | readOn flag code before line next hactivity hline =>
    obtain ⟨-, -, rest, rfl⟩ := readLine_spec hline
    have hopen : st.inputClosed = false := h.closed.trans (by rw [hactivity]; rfl)
    rw [hactivity] at hfits
    unfold readOn
    split
    · exact ⟨h.same, hfits, hopen⟩
    · exact ⟨h.same, trivial, hopen⟩
  | lose flag code status hsubject hstatus =>
    refine ⟨h.same, trivial, h.closed.trans ?_⟩
    cases hactivity : st.activity with
    | leaving | gone =>
      rw [hactivity] at hsubject
      exact nomatch hsubject
    | _ => rfl
  | putBlank c rest hactivity hstatus =>
    exact ⟨h.same, trivial, h.closed.trans (by rw [hactivity]; rfl)⟩
  | hangUp rest hactivity hdone => exact ⟨h.same, trivial, rfl⟩
  | depart status hactivity hstatus =>
    exact ⟨h.same, trivial, h.closed.trans (by rw [hactivity]; rfl)⟩
  | perform | readRequest | readEnd | spill => exact ⟨h.same, h.fits, h.closed⟩

/-! ## What the program owes -/

/-- A program that serves a session has flushed everything when it is done, is sent whole lines, and
will wait for a declaration or have exited when it has read them. If it waits then, whole lines are
to come to the client: the ready line first, unless it was read, and the end of the answer that the
client asks for. -/
structure Owing (s : Server Cache) (logging : Logging) (st : System) : Prop where
  flushed : (st.todo.outlet st.outlet).held = []
  whole : Text.Whole (st.requests ++ st.activity.unsent)
  waits : st.final.status? = none → ∃ memory, st.final = Piped.serving s logging memory []
  lines : st.final.status? = none → Text.Whole st.coming
  ready : st.final.status? = none → st.client.greeted = false →
    (received st.coming).head? = some s.readyLine
  answer : st.final.status? = none → st.activity.isAsking = true →
    s.config.terminator ++ ['\n'] ∈ received st.coming

section Owing

variable {s : Server Cache} {logging : Logging} {client : Client} {st st' : System}

/-- A process with an exit status has exited with it. -/
lemma eq_exited_of_status? {p : Process} {status : Int} (h : p.status? = some status) :
    p = .exited status := by
  cases p with
  | serving session => exact nomatch h
  | exited status' => exact congrArg _ (Option.some.inj h)

/-- Nothing is owed of a program that will have exited. -/
lemma Owing.of_exits (hflushed : (st.todo.outlet st.outlet).held = [])
    (hwhole : Text.Whole (st.requests ++ st.activity.unsent)) {status : Int}
    (hfinal : st.final = .exited status) : Owing s logging st := by
  have hexits : st.final.status? ≠ none := by
    rw [hfinal]
    exact Option.some_ne_none status
  exact ⟨hflushed, hwhole, fun h => absurd h hexits, fun h => absurd h hexits,
    fun h => absurd h hexits, fun h => absurd h hexits⟩

/-- A client that has nothing to write has sent whole lines. -/
lemma Owing.whole_requests (h : Owing s logging st) (hunsent : st.activity.unsent = []) :
    Text.Whole st.requests := by
  have hwhole := h.whole
  rw [hunsent, List.append_nil] at hwhole
  exact hwhole

/-- What is owed does not change if the client asks for nothing more and has read no more. -/
lemma Owing.of_same (h : Owing s logging st)
    (hrequests : st'.requests ++ st'.activity.unsent = st.requests ++ st.activity.unsent)
    (hprocess : st'.process = st.process) (htodo : st'.todo = st.todo)
    (houtlet : st'.outlet = st.outlet) (hclient : st'.client = st.client)
    (hasking : st'.activity.isAsking = true → st.activity.isAsking = true) :
    Owing s logging st' := by
  have hfuture := future_congr hprocess hrequests
  have hfinal : st'.final = st.final := congrArg Prod.snd hfuture
  have hcoming := coming_congr hfuture htodo houtlet
  constructor
  · rw [htodo, houtlet]
    exact h.flushed
  · rw [hrequests]
    exact h.whole
  · rw [hfinal]
    exact h.waits
  · rw [hfinal, hcoming]
    exact h.lines
  · rw [hfinal, hcoming, hclient]
    exact h.ready
  · rw [hfinal, hcoming]
    exact fun hserves ha => h.answer hserves (hasking ha)

/-- A line is read. -/
lemma Owing.of_readLine (h : Owing s logging st) {line : Text} {next : System}
    (hread : st.readLine = some (line, next))
    (hrequests : st'.requests ++ st'.activity.unsent = st.requests ++ st.activity.unsent)
    (hprocess : st'.process = st.process) (htodo : st'.todo = st.todo)
    (houtlet : st'.outlet = next.outlet)
    (hgreeted : st.final.status? = none → st'.client.greeted = true)
    (hasking : st'.activity.isAsking = true →
      st.activity.isAsking = true ∧ line ≠ s.config.terminator ++ ['\n']) :
    Owing s logging st' := by
  obtain ⟨hlines, ⟨front, -, hfront⟩, rest, rfl⟩ := readLine_spec hread
  have hfuture := future_congr hprocess hrequests
  have hfinal : st'.final = st.final := congrArg Prod.snd hfuture
  have hcoming : st'.coming = coming { st with outlet := { st.outlet with sent := rest } } := by
    show st'.outlet.sent ++ st'.outlet.held ++ st'.todo.output ++ st'.future.1 =
      rest ++ st.outlet.held ++ st.todo.output ++ st.future.1
    rw [hfuture, htodo, houtlet]
  constructor
  · rw [htodo, houtlet]
    exact Trace.held_outlet_of_suffix h.flushed ⟨[], rfl⟩
  · rw [hrequests]
    exact h.whole
  · rw [hfinal]
    exact h.waits
  · rw [hfinal, hcoming]
    intro hserves
    have hwhole := h.lines hserves
    rw [hfront] at hwhole
    exact hwhole.suffix
  · rw [hfinal]
    exact fun hserves hnot => nomatch hnot.symm.trans (hgreeted hserves)
  · rw [hfinal, hcoming]
    intro hserves ha
    obtain ⟨hwas, hne⟩ := hasking ha
    have hmem := h.answer hserves hwas
    rw [hlines, List.mem_cons] at hmem
    exact hmem.resolve_left fun he => hne he.symm

/-! ### Requests -/

/-- What a program that waits for a declaration makes of a request. -/
lemma feedLines_request {memory : Cache} {flag code : Text} (hcheck : client.check flag code = .ok ()) :
    Piped.feedLines (Piped.serving s logging memory [])
        (Text.lines (Text.unifyBreaks (client.request flag code))) =
      (Engine.written s.config.terminator
          (s.engine.markup memory (client.rename flag) (Text.unlines (Text.splitCode code))),
        Piped.answered s logging memory ⟨client.rename flag, Text.unlines (Text.splitCode code)⟩) := by
  have hsend := Piped.send_requestText s logging memory (Client.check_eq_ok_iff.1 hcheck).1
    (Text.break_not_mem_of_mem_splitCode code)
  rw [Piped.send_serving] at hsend
  obtain ⟨hwritten, hafter⟩ := Prod.mk.inj (Option.some.inj hsend)
  exact Prod.ext hwritten (Piped.mk.inj hafter)

/-- A request is whole. -/
lemma whole_request (client : Client) (flag code : Text) : Text.Whole (client.request flag code) :=
  Text.whole_unlines _

/-- A text that is yet to be written comes behind what is on its way. -/
lemma future_of_unsent (t : Text) (hprocess : st'.process = st.process)
    (hrequests : st'.requests ++ st'.activity.unsent = st.requests ++ t)
    (hunsent : st.activity.unsent = []) (hwhole : Text.Whole st.requests) :
    st'.future =
      (st.future.1 ++ (Piped.feedLines st.final (Text.lines (Text.unifyBreaks t))).1,
        (Piped.feedLines st.final (Text.lines (Text.unifyBreaks t))).2) := by
  have hlines : Text.lines (Text.unifyBreaks (st.requests ++ t)) =
      Text.lines (Text.unifyBreaks st.requests) ++ Text.lines (Text.unifyBreaks t) := by
    unfold Text.lines
    rw [Text.rawLines_append_of_whole hwhole, List.map_append]
  unfold final future
  rw [hprocess, hrequests, hlines, Piped.feedLines_append, hunsent, List.append_nil]

/-- What comes of a request comes behind everything else. -/
lemma future_send (hunsent : st.activity.unsent = []) (hwhole : Text.Whole st.requests)
    (flag code : Text) :
    let made := Piped.feedLines st.final
      (Text.lines (Text.unifyBreaks (st.client.request flag code)))
    (st.send flag code).future = (st.future.1 ++ made.1, made.2) ∧
      (st.send flag code).coming = st.coming ++ made.1 := by
  intro made
  have hfuture : (st.send flag code).future = (st.future.1 ++ made.1, made.2) :=
    future_of_unsent (st.client.request flag code) rfl rfl hunsent hwhole
  refine ⟨hfuture, ?_⟩
  show st.outlet.sent ++ st.outlet.held ++ st.todo.output ++ (st.send flag code).future.1 = _
  rw [hfuture]
  exact (List.append_assoc _ _ _).symm

/-- The client gets the lines of the markup and then the terminator. -/
lemma received_block (hcr : '\r' ∉ s.config.terminator) (markup : Text) :
    received (answerBlock s.config.terminator markup) =
      received (markup ++ ['\n']) ++ [s.config.terminator ++ ['\n']] := by
  have hblock : answerBlock s.config.terminator markup =
      markup ++ ['\n'] ++ Text.unlines [s.config.terminator] := by
    unfold answerBlock Text.unlines
    simp
  have hline : ∀ l ∈ [s.config.terminator], '\n' ∉ l ∧ '\r' ∉ l := by
    intro l hl
    rw [List.mem_singleton.1 hl]
    exact ⟨s.config.terminator_oneLine, hcr⟩
  have hlast := Text.rawLines_unifyBreaks_unlines_append hline []
  rw [List.append_nil] at hlast
  unfold received
  rw [hblock, Text.rawLines_append_of_whole (Text.whole_append_lf markup), hlast]
  rfl

/-- A request that passed the check will be answered, unless the program exits. -/
lemma Owing.send (h : Owing s logging st) (htracks : st.client = { client with greeted := true })
    (hunsent : st.activity.unsent = []) (hcr : '\r' ∉ s.config.terminator) {flag code : Text}
    (hcheck : client.check flag code = .ok ()) : Owing s logging (st.send flag code) := by
  have hwhole := h.whole_requests hunsent
  have hall : Text.Whole ((st.send flag code).requests ++ (st.send flag code).activity.unsent) :=
    hwhole.append (whole_request st.client flag code)
  obtain ⟨hfuture, hcoming⟩ := future_send hunsent hwhole flag code
  cases hstatus : st.final.status? with
  | some status =>
    rw [eq_exited_of_status? hstatus, Piped.feedLines_exited] at hfuture
    exact .of_exits h.flushed hall (congrArg Prod.snd hfuture)
  | none =>
    obtain ⟨memory, hfinal⟩ := h.waits hstatus
    have hrequest : st.client.request flag code = client.request flag code := by
      rw [htracks]
      rfl
    rw [hfinal, hrequest, feedLines_request hcheck] at hfuture hcoming
    have hafter : (st.send flag code).final = _ := congrArg Prod.snd hfuture
    cases hmarkup : s.engine.markup memory (client.rename flag)
        (Text.unlines (Text.splitCode code)) with
    | error cause =>
      -- The program will have exited over the request.
      have hexits : (st.send flag code).final = .exited (exitStatus (.ofFailure cause)) := by
        rw [hafter]
        unfold Piped.answered
        dsimp only
        rw [hmarkup]
      exact .of_exits h.flushed hall hexits
    | ok markup =>
      rw [hmarkup] at hcoming
      have hreceived : received (st.send flag code).coming = received st.coming ++
          (received (markup ++ ['\n']) ++ [s.config.terminator ++ ['\n']]) := by
        rw [hcoming, ← received_block hcr]
        exact Text.rawLines_append_of_whole (h.lines hstatus) _
      refine ⟨h.flushed, hall, fun _ => ?_, fun _ => ?_, fun _ hnot => ?_, fun _ _ => ?_⟩
      · refine ⟨(s.engine.registry.resolve memory (client.rename flag)).2, ?_⟩
        rw [hafter]
        unfold Piped.answered
        dsimp only
        rw [hmarkup]
      · rw [hcoming]
        exact (h.lines hstatus).append (Text.whole_append_lf _)
      · have hgreeted : st.client.greeted = true := by rw [htracks]
        exact nomatch hnot.symm.trans hgreeted
      · rw [hreceived]
        exact List.mem_append_right _ (List.mem_append_right _ (List.mem_singleton_self _))

/-! ### Leaving -/

/-- A blank line ends the session of a program that waits for a declaration. -/
lemma feed_goodbye {memory : Cache} :
    ((Piped.serving s logging memory []).feed []).1 = .exited 0 ∧
      ((Piped.serving s logging memory []).feed []).2.stdout = [] := by
  have hfeed := Assembler.feed_ofSegment_end (s := []) rfl
  obtain ⟨hending, -, houtput⟩ := s.feed_of_sessionEnd memory hfeed
  refine ⟨?_, houtput⟩
  show Process.ofStep s logging (s.feed ⟨memory, .ofSegment []⟩ []) = _
  unfold Process.ofStep
  rw [hending]
  rfl

lemma feedLines_goodbye {memory : Cache} :
    Piped.feedLines (Piped.serving s logging memory []) [[]] = ([], .exited 0) := by
  rw [Piped.feedLines_cons, feed_goodbye.1, feed_goodbye.2]
  rfl

/-- A program that will be sent a blank line will exit. -/
lemma Owing.part (h : Owing s logging st) (hunsent : st.activity.unsent = []) :
    Owing s logging { st with activity := .parting ['\n'] } := by
  have hwhole := h.whole_requests hunsent
  have hfuture : future { st with activity := .parting ['\n'] } =
      (_ ++ (Piped.feedLines st.final [[]]).1, (Piped.feedLines st.final [[]]).2) :=
    future_of_unsent ['\n'] rfl rfl hunsent hwhole
  have hall : Text.Whole (st.requests ++ ['\n']) := Text.whole_append_lf _
  cases hstatus : st.final.status? with
  | some status =>
    rw [eq_exited_of_status? hstatus, Piped.feedLines_exited] at hfuture
    exact .of_exits h.flushed hall (congrArg Prod.snd hfuture)
  | none =>
    obtain ⟨memory, hfinal⟩ := h.waits hstatus
    rw [hfinal, feedLines_goodbye] at hfuture
    exact .of_exits h.flushed hall (congrArg Prod.snd hfuture)

/-! ### Moves -/

/-- A move of the program that keeps the outlook keeps what is owed. -/
lemma Owing.of_server (h : Owing s logging st) (hflushed : (st'.todo.outlet st'.outlet).held = [])
    (hwhole : Text.Whole (st'.requests ++ st'.activity.unsent)) (hfinal : st'.final = st.final)
    (hcoming : st'.coming = st.coming) (hclient : st'.client = st.client)
    (hactivity : st'.activity = st.activity) : Owing s logging st' := by
  constructor
  · exact hflushed
  · exact hwhole
  · rw [hfinal]
    exact h.waits
  · rw [hfinal, hcoming]
    exact h.lines
  · rw [hfinal, hcoming, hclient]
    exact h.ready
  · rw [hfinal, hcoming, hactivity]
    exact h.answer

/-- A call begins. -/
lemma Owing.call (h : Owing s logging st) (htracks : Tracks client st)
    (hidle : st.activity = .idle) (hserves : st.process.status? = none)
    (hcr : '\r' ∉ s.config.terminator) (call : Call) : Owing s logging (st.call call) := by
  have hunsent : st.activity.unsent = [] := by rw [hidle]; rfl
  have hsame : ∀ {st' : System}, st'.requests = st.requests → st'.activity.unsent = [] →
      st'.process = st.process → st'.todo = st.todo → st'.outlet = st.outlet →
      st'.client = st.client → st'.activity.isAsking = false → Owing s logging st' := by
    intro st' hrequests hnone hprocess htodo houtlet hclient hasking
    refine h.of_same ?_ hprocess htodo houtlet hclient fun ha => nomatch hasking.symm.trans ha
    rw [hrequests, hnone, hunsent]
  cases call with
  | waitReady =>
    unfold System.call
    dsimp only
    split <;> exact hsame rfl rfl rfl rfl rfl rfl rfl
  | highlight flag code =>
    unfold System.call
    dsimp only
    split
    · exact hsame rfl rfl rfl rfl rfl rfl rfl
    · rename_i hcheck
      rw [htracks.check_eq] at hcheck
      split
      · rename_i hgreeted
        have hclient : st.client = { client with greeted := true } := by
          rw [htracks.same, hgreeted]
        exact h.send hclient hunsent hcr hcheck
      · exact hsame rfl rfl rfl rfl rfl rfl rfl
  | close =>
    unfold System.call
    dsimp only
    split
    · rename_i hstatus
      obtain ⟨status, hstatus⟩ := Option.isSome_iff_exists.1 hstatus
      exact nomatch hserves.symm.trans (process_of_status? hstatus)
    · exact h.part hunsent
  | returncode => exact hsame rfl rfl rfl rfl rfl rfl rfl

/-- The first line is read. -/
lemma Owing.greet (h : Owing s logging st) (htracks : Tracks client st) {call : Call}
    (hactivity : st.activity = .greeting call) {line : Text} {next : System}
    (hread : st.readLine = some (line, next)) (hready : client.config.ready = s.config.ready)
    (hcr : '\r' ∉ s.config.terminator) : Owing s logging (next.greet call line) := by
  have hfits := htracks.fits
  rw [hactivity] at hfits
  have hunsent : st.activity.unsent = [] := by rw [hactivity]; rfl
  obtain ⟨hlines, -, rest, rfl⟩ := readLine_spec hread
  unfold System.greet
  dsimp only
  cases hgreet : st.client.greet line with
  | error cause =>
    -- A program that will wait has announced itself.
    refine h.of_readLine hread ?_ rfl rfl rfl (fun hserves => ?_) (fun ha => absurd ha Bool.false_ne_true)
    · show st.requests ++ [] = _
      rw [hunsent]
    · have hhead := h.ready hserves hfits.1
      rw [hlines] at hhead
      have hline : line = s.readyLine := Option.some.inj hhead
      have hgreeted : st.client.greet line = .ok { st.client with greeted := true } := by
        unfold Client.greet
        rw [hline, Server.readyLine, Text.chomp_append_lf s.config.ready_oneLine, htracks.same]
        exact if_pos hready.symm
      cases hgreet.symm.trans hgreeted
  | ok after =>
    have hafter : after = { client with greeted := true } := by
      unfold Client.greet at hgreet
      split at hgreet
      · rw [← Except.ok.inj hgreet, htracks.same]
      · cases hgreet
    subst hafter
    dsimp only
    split
    · rename_i flag code
      have hread' : Owing s logging { st with
          client := { client with greeted := true }
          activity := .idle
          outlet := { st.outlet with sent := rest } } := by
        refine h.of_readLine hread ?_ rfl rfl rfl (fun _ => rfl) (fun ha => absurd ha Bool.false_ne_true)
        show st.requests ++ [] = _
        rw [hunsent]
      exact hread'.send rfl rfl hcr (hfits.2 flag code rfl)
    · refine h.of_readLine hread ?_ rfl rfl rfl (fun _ => rfl) (fun ha => absurd ha Bool.false_ne_true)
      show st.requests ++ [] = _
      rw [hunsent]

/-- A line of an answer is read. -/
lemma Owing.readOn (h : Owing s logging st) (htracks : Tracks client st) {flag code : Text}
    {before : List Text} (hactivity : st.activity = .reading flag code before) {line : Text}
    {next : System} (hread : st.readLine = some (line, next))
    (hterminator : client.config.terminator = s.config.terminator) :
    Owing s logging (next.readOn flag code before line) := by
  have hfits := htracks.fits
  rw [hactivity] at hfits
  have hrequests : st.requests ++ [] = st.requests ++ st.activity.unsent := by
    rw [hactivity]
    rfl
  obtain ⟨-, -, rest, rfl⟩ := readLine_spec hread
  unfold System.readOn
  split
  · rename_i before' hline
    refine h.of_readLine hread hrequests rfl rfl rfl (fun _ => hfits.1) fun _ => ?_
    refine ⟨by rw [hactivity]; rfl, ?_⟩
    -- The terminator would have been the end of the answer.
    rintro rfl
    have hconfig : st.client.config.terminator = s.config.terminator := by
      rw [htracks.same]
      exact hterminator
    unfold readAnswerLine at hline
    rw [hconfig, Text.chomp_append_lf s.config.terminator_oneLine, if_pos rfl] at hline
    exact nomatch hline
  · exact h.of_readLine hread hrequests rfl rfl rfl (fun _ => hfits.1) fun ha => nomatch ha

/-- A line of a request is read by the program. -/
lemma Owing.readRequest (h : Owing s logging st) (htracks : Tracks client st) {session : Session}
    {line rest : Text} (htodo : st.todo = []) (hprocess : st.process = .serving session)
    (hnext : Text.nextLine? st.inputClosed st.requests = some (line, rest)) :
    Owing s logging (st.readRequest session line rest) := by
  have hclosed := htracks.unsent_of_closed
  have hfuture := future_readRequest hprocess hnext hclosed
  refine h.of_server ?_ ?_ (congrArg Prod.snd hfuture).symm
    (coming_readRequest htodo hprocess hnext hclosed) rfl rfl
  · -- Everything was flushed before, and what the line leads to is settled.
    have hheld := h.flushed
    rw [htodo] at hheld
    exact (session.server.settled_feed session.state _).flushed st.outlet hheld
  · obtain ⟨front, -, hfront⟩ := Text.exists_of_nextLine? hnext
    have hwhole := h.whole
    rw [hfront, List.append_assoc] at hwhole
    exact hwhole.suffix

/-- What a program that serves a session owes it owes after every move, as long as it serves. -/
theorem owing_move (htracks : Tracks client st)
    (hready : client.config.ready = s.config.ready)
    (hterminator : client.config.terminator = s.config.terminator)
    (hcr : '\r' ∉ s.config.terminator)
    (howing : st.process.status? = none → Owing s logging st) (hmove : Move st st')
    (hserves : st'.process.status? = none) : Owing s logging st' := by
  -- The client finds the program gone only if it has exited.
  have hgone : ∀ {status}, st.status? = some status → st.process.status? = none → False :=
    fun hstatus hnone => nomatch hnone.symm.trans (process_of_status? hstatus)
  cases hmove with
  | call call hidle =>
    have hserves : st.process.status? = none := (congrArg _ (st.process_call call)).symm.trans hserves
    exact (howing hserves).call htracks hidle hserves hcr call
  | greet call line next hactivity hread =>
    have hsame := (next.process_greet call line).trans (process_of_readLine hread)
    have hserves : st.process.status? = none := (congrArg _ hsame).symm.trans hserves
    exact (howing hserves).greet htracks hactivity hread hready hcr
  | ungreeted call status hactivity hstatus => exact (hgone hstatus hserves).elim
  | put flag code c rest hactivity hstatus =>
    refine (howing hserves).of_same ?_ rfl rfl rfl rfl (fun _ => by rw [hactivity]; rfl)
    rw [hactivity]
    exact List.append_assoc _ _ _
  | sent flag code hactivity =>
    refine (howing hserves).of_same ?_ rfl rfl rfl rfl (fun _ => by rw [hactivity]; rfl)
    rw [hactivity]
    rfl
  | readOn flag code before line next hactivity hread =>
    have hsame := (next.process_readOn flag code before line).trans (process_of_readLine hread)
    have hserves : st.process.status? = none := (congrArg _ hsame).symm.trans hserves
    exact (howing hserves).readOn htracks hactivity hread hterminator
  | lose flag code status hsubject hstatus => exact (hgone hstatus hserves).elim
  | putBlank c rest hactivity hstatus =>
    refine (howing hserves).of_same ?_ rfl rfl rfl rfl (fun ha => nomatch ha)
    rw [hactivity]
    exact List.append_assoc _ _ _
  | hangUp rest hactivity hdone =>
    rcases hdone with rfl | hstatus
    · refine (howing hserves).of_same ?_ rfl rfl rfl rfl (fun ha => nomatch ha)
      rw [hactivity]
      rfl
    · obtain ⟨status, hstatus⟩ := Option.isSome_iff_exists.1 hstatus
      exact (hgone hstatus hserves).elim
  | depart status hactivity hstatus => exact (hgone hstatus hserves).elim
  | perform e rest htodo =>
    have h := howing hserves
    refine h.of_server ?_ h.whole rfl (coming_perform htodo) rfl rfl
    have hflushed := h.flushed
    rw [htodo] at hflushed
    exact hflushed
  | readRequest session line rest htodo hprocess hnext =>
    have hserves : st.process.status? = none := by rw [hprocess]; rfl
    exact (howing hserves).readRequest htracks htodo hprocess hnext
  | readEnd session htodo hprocess hclosed hrequests => exact nomatch hserves
  | spill c rest hheld =>
    have h := howing hserves
    refine h.of_server ?_ h.whole rfl (coming_spill hheld) rfl rfl
    exact Trace.held_outlet_of_suffix h.flushed ⟨[c], hheld⟩

end Owing

/-! ## The start -/

/-- A client that expects the markers that a server writes, none of which a stream changes. -/
structure Agrees (client : Client) (s : Server Cache) : Prop where
  ready : client.config.ready = s.config.ready
  terminator : client.config.terminator = s.config.terminator
  readable : '\r' ∉ s.config.terminator

/-- The order of things is kept, and a program that serves a session owes what it should. -/
structure Sound (client : Client) (s : Server Cache) (logging : Logging) (st : System) : Prop where
  tracks : Tracks client st
  owing : st.process.status? = none → Owing s logging st

section Sound

variable {client : Client} {s : Server Cache} {logging : Logging} {st st' : System}

/-- Every move keeps a system sound. -/
theorem sound_move (hagrees : Agrees client s) (h : Sound client s logging st)
    (hmove : Move st st') : Sound client s logging st' :=
  ⟨tracks_move h.tracks hmove,
    owing_move h.tracks hagrees.ready hagrees.terminator hagrees.readable h.owing hmove⟩

/-- A program that serves a session after its start has opened it. -/
lemma exists_of_launch {there : Installation} {words : List Text}
    (h : (Process.launch there words).1.status? = none) :
    ∃ (s : Server Cache) (logging : Logging), plan words = .ok (.serve s.config logging) ∧
      Server.configured there s.config = .ok s ∧ (s.start []).ending = none := by
  unfold Process.launch at h
  cases hplan : plan words with
  | error halt =>
    rw [hplan] at h
    cases halt <;> cases h
  | ok planned =>
    rw [hplan] at h
    cases planned with
    | help | version | listLanguages | fail logging => cases h
    | serve config logging =>
      dsimp only at h
      cases hserver : Server.configured there config with
      | error cause =>
        rw [hserver] at h
        cases h
      | ok s =>
        obtain rfl := Server.config_of_configured hserver
        refine ⟨s, logging, rfl, hserver, ?_⟩
        rw [hserver] at h
        dsimp only at h
        cases hending : (s.start []).ending with
        | none => rfl
        | some ending =>
          rw [Process.ofStep, hending] at h
          cases h

/-- At first nothing is on its way to the program. -/
lemma future_launch (there : Installation) (words : List Text) (client : Client) :
    (launch there words client).future = ([], (launch there words client).process) := rfl

/-- A program that opens a session has the ready line to write. -/
lemma launch_of_opened {there : Installation} {words : List Text}
    (hplan : plan words = .ok (.serve s.config logging))
    (hserver : Server.configured there s.config = .ok s) (hopened : (s.start []).ending = none)
    (client : Client) :
    (launch there words client).process =
        Piped.serving s logging (s.engine.registry.remember [] s.config.aliases.keys) [] ∧
      (launch there words client).todo = (s.start []).trace ∧
      (launch there words client).coming = s.readyLine := by
  have hprocess := congrArg (fun opened => opened.1.process)
    (Connection.launch_of_opened hplan hserver hopened)
  have htodo : (launch there words client).todo = (s.start []).trace := by
    unfold launch
    rw [hplan]
    dsimp only
    rw [hserver]
  refine ⟨hprocess, htodo, ?_⟩
  unfold coming
  rw [future_launch, htodo, (Server.start_of_opened hopened).2]
  exact List.append_nil _

/-- The default markers are those of every command line, and the client gets the ready line. -/
lemma agrees_of_plan {words : List Text} (hplan : plan words = .ok (.serve s.config logging))
    (hready : client.config.ready = Config.default.ready)
    (hterminator : client.config.terminator = Config.default.terminator) :
    Agrees client s ∧ received s.readyLine = [s.readyLine] := by
  obtain ⟨hsready, hsterminator, -⟩ := config_of_plan hplan
  refine ⟨⟨hready.trans hsready.symm, hterminator.trans hsterminator.symm, ?_⟩, ?_⟩
  · rw [hsterminator]
    decide
  · unfold Server.readyLine
    rw [hsready]
    rfl

/-- A client and a program that opens a session are sound at the start. -/
lemma sound_of_opened {there : Installation} {words : List Text}
    (hplan : plan words = .ok (.serve s.config logging))
    (hserver : Server.configured there s.config = .ok s) (hopened : (s.start []).ending = none)
    (client : Client) : Sound client s logging (launch there words client) := by
  obtain ⟨hprocess, htodo, hcoming⟩ := launch_of_opened hplan hserver hopened client
  have hfinal : (launch there words client).final = (launch there words client).process := rfl
  refine ⟨⟨?_, trivial, rfl⟩, fun _ => ⟨?_, Text.whole_nil, fun _ => ?_, fun _ => ?_, fun _ _ => ?_,
    fun _ ha => nomatch ha⟩⟩
  · show client = { client with greeted := client.greeted }
    rfl
  · rw [htodo]
    exact (s.settled_start []).flushed {} rfl
  · exact ⟨_, hfinal.trans hprocess⟩
  · rw [hcoming]
    exact Text.whole_append_lf _
  · rw [hcoming]
    unfold Server.readyLine
    rw [(config_of_plan hplan).1]
    rfl

/-- A client that expects the default markers and the program, started with any words, are sound at the
start. -/
theorem exists_sound_launch (there : Installation) (words : List Text)
    (hready : client.config.ready = Config.default.ready)
    (hterminator : client.config.terminator = Config.default.terminator) :
    ∃ s logging, Agrees client s ∧ Sound client s logging (launch there words client) := by
  cases hstatus : (Process.launch there words).1.status? with
  | none =>
    obtain ⟨s, logging, hplan, hserver, hopened⟩ := exists_of_launch hstatus
    exact ⟨s, logging, (agrees_of_plan hplan hready hterminator).1,
      sound_of_opened hplan hserver hopened client⟩
  | some status =>
    -- Nothing is owed, whatever the server.
    refine ⟨.ofCatalogue { catalogue := [] } client.config, ⟨[.own], 30⟩, ⟨rfl, rfl, ?_⟩, ⟨rfl, trivial, rfl⟩,
      fun hnone => nomatch hnone.symm.trans hstatus⟩
    show '\r' ∉ client.config.terminator
    rw [hterminator]
    decide

/-! ## Waiting -/

/-- The client waits for a line of the program, and there is none in the pipe. -/
def ClientWaits (st : System) : Prop := st.activity.isReading = true ∧ st.readLine = none

/-- The program runs and waits for a line of the client, and there is none in the pipe. -/
def ServerWaits (st : System) : Prop :=
  st.process.status? = none ∧ st.todo = [] ∧ Text.nextLine? st.inputClosed st.requests = none

/-- A client that reads has nothing to write. -/
lemma unsent_of_isReading {a : Activity} (h : a.isReading = true) : a.unsent = [] := by
  cases a with
  | greeting | reading => rfl
  | _ => exact nomatch h

/-- If the client reads and the program waits for a line, there is a line for the client. -/
theorem Sound.not_waits (h : Sound client s logging st) : ¬ (st.ClientWaits ∧ st.ServerWaits) := by
  rintro ⟨⟨hreading, hnone⟩, hserves, htodo, hnext⟩
  have howing := h.owing hserves
  have hunsent := unsent_of_isReading hreading
  -- The program has read everything, and everything that it wrote is in the pipe.
  have hrequests : st.requests = [] := by
    by_contra hne
    obtain ⟨line, rest, hline⟩ :=
      (howing.whole_requests hunsent).exists_nextLine? hne st.inputClosed
    exact nomatch hnext.symm.trans hline
  have hfuture : st.future = ([], st.process) := by
    unfold future
    rw [hrequests, hunsent]
    rfl
  have hfinal : st.final.status? = none := by
    unfold final
    rw [hfuture]
    exact hserves
  have hheld := howing.flushed
  rw [htodo] at hheld
  have hcoming : st.coming = st.outlet.sent := by
    have hheld : st.outlet.held = [] := hheld
    unfold coming
    rw [hfuture, htodo, hheld, List.append_nil]
    exact (List.append_nil _).trans (List.append_nil _)
  have hempty : st.outlet.sent = [] := by
    by_contra hne
    have hwhole := howing.lines hfinal
    rw [hcoming] at hwhole
    obtain ⟨line, rest, hline⟩ := hwhole.exists_nextLine? hne st.status?.isSome
    rw [readLine, hline] at hnone
    exact nomatch hnone
  rw [hempty] at hcoming
  -- What the client waits for was to come, though.
  have hfits := h.tracks.fits
  cases hactivity : st.activity with
  | greeting call =>
    rw [hactivity] at hfits
    have hready := howing.ready hfinal hfits.1
    rw [hcoming] at hready
    exact nomatch hready
  | reading flag code before =>
    have hanswer := howing.answer hfinal (by rw [hactivity]; rfl)
    rw [hcoming] at hanswer
    exact absurd hanswer List.not_mem_nil
  | idle | sending | parting | leaving | gone =>
    rw [hactivity] at hreading
    exact nomatch hreading

end Sound

end System
end LineHighlight
