import LineHighlight.Proofs.Client.Returning

/-!
# Saying goodbye

A client that has had every request answered, or that refused to send it, ends the session by a blank
line that the program reads while it waits for a declaration, so that it exits with status 0. What holds
in between is `Aligned`: the program has answered all requests and nothing is on its way, or one request
is and its answer will follow, or the blank line is on its way, or the program has read it.

The markup of the engine must not have a line that is the terminator: the client would take it for the
end of the answer, and what it takes for the answer to its last request says nothing of that request.
-/

namespace LineHighlight

open CommandLine Connection

/-! ## Histories -/

/-- What a call asks the markup of. -/
def Connection.Call.subject? : Call → Option (Text × Text)
  | .highlight flag code => some (flag, code)
  | _ => none

/-- What the calls of a history ask the markup of. -/
def asked (history : List (Call × Reply Result)) : List (Text × Text) :=
  history.filterMap (·.1.subject?)

lemma asked_append (history more : List (Call × Reply Result)) :
    asked (history ++ more) = asked history ++ asked more := List.filterMap_append

namespace Client

lemma sent_append (client : Client) (calls more : List (Text × Text)) :
    client.sent (calls ++ more) = client.sent calls ++ client.sent more := by
  unfold sent requests
  rw [List.filter_append, List.map_append]

/-- What the engine of a server has come to after the calls of a history. -/
def reached (client : Client) (s : Server Cache) (warm : Cache)
    (history : List (Call × Reply Result)) : Progress Cache :=
  s.engine.progress ⟨warm, none⟩ (client.sent (asked history))

variable {client : Client} {s : Server Cache} {warm : Cache} {history : List (Call × Reply Result)}

lemma reached_append (more : List (Call × Reply Result)) :
    client.reached s warm (history ++ more) =
      s.engine.progress (client.reached s warm history) (client.sent (asked more)) := by
  unfold reached Engine.progress
  rw [asked_append, sent_append, List.foldl_append]

/-- A call that asks for no markup is nothing to the engine. -/
lemma reached_of_other {call : Call} (h : call.subject? = none) (reply : Reply Result) :
    client.reached s warm (history ++ [(call, reply)]) = client.reached s warm history := by
  have hnone : asked [(call, reply)] = [] := List.filterMap_cons_none h
  rw [reached_append, hnone]
  rfl

/-- A call that does not pass the check is nothing to the engine. -/
lemma reached_of_refused {flag code : Text} {cause : Refusal}
    (h : client.check flag code = .error cause) (reply : Reply Result) :
    client.reached s warm (history ++ [(.highlight flag code, reply)]) =
      client.reached s warm history := by
  have hnone : client.sent (asked [(.highlight flag code, reply)]) = [] :=
    sent_cons_of_error h []
  rw [reached_append, hnone]
  rfl

/-- A call that passes the check takes the engine one request further. -/
lemma reached_of_ok {flag code : Text} (h : client.check flag code = .ok ()) (reply : Reply Result) :
    client.reached s warm (history ++ [(.highlight flag code, reply)]) =
      s.engine.advance (client.reached s warm history)
        ⟨client.rename flag, Text.unlines (Text.splitCode code)⟩ := by
  have hone : client.sent (asked [(.highlight flag code, reply)]) =
      [⟨client.rename flag, Text.unlines (Text.splitCode code)⟩] := sent_cons_of_ok h []
  rw [reached_append, hone]
  rfl

end Client

/-- Every call for markup came back with some, unless it was refused by the check, and no markup of
the engine has a line that is the terminator. -/
structure Smooth (client : Client) (s : Server Cache) (warm : Cache)
    (history : List (Call × Reply Result)) : Prop where
  replies : ∀ flag code reply, (Call.highlight flag code, reply) ∈ history →
    (∃ markup, reply = .value (.markup markup)) ∨ ∃ cause, reply = .failure (.refused cause)
  markups : ∀ markup ∈ (s.engine.replies warm (client.sent (asked history))).markups,
    s.config.terminator ∉ Text.pieces '\n' (Text.unifyBreaks markup)

/-- What was smooth so far was so before. -/
lemma Smooth.before {client : Client} {s : Server Cache} {warm : Cache}
    {history more : List (Call × Reply Result)} (h : Smooth client s warm (history ++ more)) :
    Smooth client s warm history := by
  refine ⟨fun flag code reply hmem => h.replies flag code reply (List.mem_append_left more hmem),
    fun markup hmarkup => h.markups markup ?_⟩
  rw [asked_append, client.sent_append]
  exact Engine.mem_markups_append hmarkup _

/-- Ending the session is no matter for how smoothly the calls went. -/
lemma Smooth.append_of_close {client : Client} {s : Server Cache} {warm : Cache}
    {history more : List (Call × Reply Result)} (h : Smooth client s warm history)
    (hmore : ∀ entry ∈ more, entry.1 = .close) :
    Smooth client s warm (history ++ more) := by
  have hnone : asked more = [] := by
    refine List.filterMap_eq_nil_iff.2 fun entry hentry => ?_
    rw [hmore entry hentry]
    rfl
  refine ⟨fun flag code reply hmem => ?_, ?_⟩
  · rcases List.mem_append.1 hmem with hmem | hmem
    · exact h.replies flag code reply hmem
    · exact nomatch hmore _ hmem
  · rw [asked_append, hnone, List.append_nil]
    exact h.markups

/-- The markup of the last call does not have a line that is the terminator either. -/
lemma Smooth.not_mem {client : Client} {s : Server Cache} {warm memory : Cache}
    {history : List (Call × Reply Result)} {flag code markup : Text} {reply : Reply Result}
    (h : Smooth client s warm (history ++ [(.highlight flag code, reply)]))
    (hreached : client.reached s warm history = ⟨memory, none⟩)
    (hcheck : client.check flag code = .ok ())
    (hmarkup : s.engine.markup memory (client.rename flag) (Text.unlines (Text.splitCode code)) =
      .ok markup) :
    s.config.terminator ∉ Text.pieces '\n' (Text.unifyBreaks markup) := by
  have hone : client.sent (asked [(.highlight flag code, reply)]) =
      [⟨client.rename flag, Text.unlines (Text.splitCode code)⟩] := Client.sent_cons_of_ok hcheck []
  refine h.markups markup ?_
  unfold Client.reached at hreached
  rw [asked_append, client.sent_append, hone]
  refine Engine.mem_markups_of_progress ?_ ?_
  · rw [hreached]
  · rw [hreached]
    exact hmarkup

/-! ## Blank lines -/

/-- A blank line ends the session, or it has the program write something or fail. -/
lemma CommandLine.Process.stdout_feed_blank {p : Process} (h : (p.feed []).1.status? = none) :
    (p.feed []).2.stdout ≠ [] := by
  cases p with
  | exited status => exact nomatch h
  | serving session =>
    obtain ⟨server, logging, memory, a⟩ := session
    have hstep : (Process.ofStep server logging (server.feed ⟨memory, a⟩ [])).status? = none := h
    show (server.feed ⟨memory, a⟩ []).trace.output ≠ []
    unfold Process.ofStep at hstep
    cases hpending : a.pending with
    | none =>
      have hfeed : a.feed [] = (a, some .sessionEnd) := by
        unfold Assembler.feed
        dsimp only [Assembler.Line.ofText]
        rw [hpending]
      rw [(server.feed_of_sessionEnd memory hfeed).1] at hstep
      exact nomatch hstep
    | some flag =>
      have hfeed : a.feed [] = (.fresh, some (.request ⟨flag, a.buffer.source⟩)) := by
        unfold Assembler.feed
        dsimp only [Assembler.Line.ofText]
        rw [hpending]
      obtain ⟨hending, -, houtput⟩ := server.feed_of_request memory hfeed
      rw [hending] at hstep
      rw [houtput]
      cases hmarkup : server.engine.markup memory flag a.buffer.source with
      | error cause =>
        rw [(Server.handle_of_error (r := ⟨flag, a.buffer.source⟩) hmarkup .fresh).1] at hstep
        exact nomatch hstep
      | ok markup =>
        rw [(Server.handle_of_ok (r := ⟨flag, a.buffer.source⟩) hmarkup .fresh).2.2]
        unfold answerBlock
        simp

namespace System

/-- The last line on its way to the program is blank, if there is one. -/
def EndsBlank (t : Text) : Prop :=
  ∀ line, (Text.lines (Text.unifyBreaks t)).getLast? = some line → line = []

/-- The last line of a request is blank. -/
lemma endsBlank_request {client : Client} {flag code : Text}
    (hcheck : client.check flag code = .ok ()) : EndsBlank (client.request flag code) := by
  intro line hline
  unfold Client.request at hline
  rw [lines_requestText (Client.check_eq_ok_iff.1 hcheck).1
    (Text.break_not_mem_of_mem_splitCode code), requestLines, List.getLast?_concat] at hline
  exact (Option.some.inj hline).symm

/-- The lines behind the first one end with a blank line if all of them do. -/
lemma EndsBlank.of_rawLines {t rest line : Text} (h : EndsBlank t)
    (hlines : Text.rawLines (Text.unifyBreaks t) = line :: Text.rawLines (Text.unifyBreaks rest)) :
    EndsBlank rest := by
  intro last hlast
  unfold EndsBlank Text.lines at h
  unfold Text.lines at hlast
  rw [hlines, List.map_cons] at h
  exact h last (by rw [List.getLast?_cons, hlast]; rfl)

/-- A program that has nothing to write, and does not exit, has read the last blank line. -/
lemma requests_of_silent {st : System} (hblank : EndsBlank (st.requests ++ st.activity.unsent))
    (hsilent : st.future.1 = []) (hserves : st.final.status? = none) :
    st.requests ++ st.activity.unsent = [] := by
  by_contra hne
  unfold EndsBlank at hblank
  unfold final future at *
  generalize hlines : Text.lines (Text.unifyBreaks (st.requests ++ st.activity.unsent)) = ls at *
  have hls : ls ≠ [] := by
    rintro rfl
    unfold Text.lines at hlines
    exact hne (Text.eq_nil_of_rawLines_unifyBreaks (List.map_eq_nil_iff.1 hlines))
  obtain ⟨front, last, rfl⟩ : ∃ front last, ls = front ++ [last] :=
    ⟨ls.dropLast, ls.getLast hls, (List.dropLast_append_getLast hls).symm⟩
  have hlast : last = [] := hblank last List.getLast?_concat
  subst hlast
  rw [Piped.feedLines_append, Piped.feedLines_cons] at hsilent hserves
  have hwritten := (List.append_eq_nil_iff.1 (List.append_eq_nil_iff.1 hsilent).2).1
  exact Process.stdout_feed_blank hserves hwritten

/-! ## In line -/

/-- The program waits for a declaration, and nothing is on its way but, unless it was read, the ready
line. -/
structure Quiet (s : Server Cache) (logging : Logging) (memory : Cache) (st : System) : Prop where
  process : st.process = Piped.serving s logging memory []
  requests : st.requests = []
  unread : received st.coming = if st.client.greeted then [] else [s.readyLine]

/-- A request is on its way or its answer is, and the client has read some lines of the answer. -/
structure Asked (s : Server Cache) (logging : Logging) (memory : Cache) (r : Request)
    (before : List Text) (st : System) : Prop where
  final : st.final = Piped.answered s logging memory r
  unread : before.reverse ++ received st.coming =
    received (Engine.written s.config.terminator (s.engine.markup memory r.language r.source))
  blank : EndsBlank (st.requests ++ st.activity.unsent)

/-- The blank line is all that is on its way to the program, which waits for a declaration, or the
program has read it. -/
def Parts (s : Server Cache) (logging : Logging) (memory : Cache) (st : System) : Prop :=
  (st.process = Piped.serving s logging memory [] ∧ st.requests ++ st.activity.unsent = ['\n']) ∨
    st.process = .exited 0

/-- What is on its way, by what the client is doing. -/
def Stands (client : Client) (s : Server Cache) (logging : Logging) (memory : Cache) (st : System) :
    Prop :=
  match st.activity with
  | .idle | .greeting _ => Quiet s logging memory st
  | .sending flag code _ =>
    Asked s logging memory ⟨client.rename flag, Text.unlines (Text.splitCode code)⟩ [] st
  | .reading flag code before =>
    Asked s logging memory ⟨client.rename flag, Text.unlines (Text.splitCode code)⟩ before st
  | .parting _ | .leaving => Parts s logging memory st
  | .gone =>
    st.process = .exited 0 ∧ st.history.getLast? = some (.close, .value (.status (some 0)))

/-- No request failed, and what is on its way is what the last call has led to. -/
def Aligned (client : Client) (s : Server Cache) (logging : Logging) (warm : Cache) (st : System) :
    Prop :=
  ∃ memory, client.reached s warm st.history = ⟨memory, none⟩ ∧ Stands client s logging memory st

section Aligned

variable {client : Client} {s : Server Cache} {logging : Logging} {warm memory : Cache}
  {st st' : System}

/-! ### What stands, by what the client is doing -/

lemma Stands.quiet (h : Stands client s logging memory st)
    (hdoing : st.activity = .idle ∨ ∃ call, st.activity = .greeting call) :
    Quiet s logging memory st := by
  unfold Stands at h
  rcases hdoing with hactivity | ⟨call, hactivity⟩ <;> rw [hactivity] at h <;> exact h

lemma Stands.asked_of_sending (h : Stands client s logging memory st) {flag code rest : Text}
    (hdoing : st.activity = .sending flag code rest) :
    Asked s logging memory ⟨client.rename flag, Text.unlines (Text.splitCode code)⟩ [] st := by
  unfold Stands at h
  rw [hdoing] at h
  exact h

lemma Stands.asked_of_reading (h : Stands client s logging memory st) {flag code : Text}
    {before : List Text} (hdoing : st.activity = .reading flag code before) :
    Asked s logging memory ⟨client.rename flag, Text.unlines (Text.splitCode code)⟩ before st := by
  unfold Stands at h
  rw [hdoing] at h
  exact h

lemma Stands.parts (h : Stands client s logging memory st)
    (hdoing : (∃ rest, st.activity = .parting rest) ∨ st.activity = .leaving) :
    Parts s logging memory st := by
  unfold Stands at h
  rcases hdoing with ⟨rest, hactivity⟩ | hactivity <;> rw [hactivity] at h <;> exact h

/-! ### Nothing or a request on its way -/

/-- Nothing changes for a program that is left alone. -/
lemma Quiet.of_same (h : Quiet s logging memory st) (hunsent : st.activity.unsent = [])
    (hunsent' : st'.activity.unsent = []) (hprocess : st'.process = st.process)
    (hrequests : st'.requests = st.requests) (htodo : st'.todo = st.todo)
    (houtlet : st'.outlet = st.outlet) (hclient : st'.client = st.client) :
    Quiet s logging memory st' := by
  have hall : st'.requests ++ st'.activity.unsent = st.requests ++ st.activity.unsent := by
    rw [hrequests, hunsent, hunsent']
  have hcoming := coming_congr (future_congr hprocess hall) htodo houtlet
  refine ⟨hprocess.trans h.process, hrequests.trans h.requests, ?_⟩
  rw [hcoming, hclient]
  exact h.unread

/-- A request that is about to be sent to a quiet program, by a client that has read everything, is all
that is on its way. -/
lemma Quiet.send (h : Quiet s logging memory st) (hclient : st.client = { client with greeted := true })
    (hunsent : st.activity.unsent = []) {flag code : Text} (hcheck : client.check flag code = .ok ()) :
    Asked s logging memory ⟨client.rename flag, Text.unlines (Text.splitCode code)⟩ []
      (st.send flag code) := by
  have hrequests := h.requests
  have hwhole : Text.Whole st.requests := .inl hrequests
  have hfinal : st.final = Piped.serving s logging memory [] := by
    unfold final future
    rw [hrequests, hunsent, ← h.process]
    rfl
  have hcoming : st.coming = [] := by
    have hunread := h.unread
    rw [hclient, if_pos rfl] at hunread
    exact Text.eq_nil_of_rawLines_unifyBreaks hunread
  have hrequest : st.client.request flag code = client.request flag code := by
    rw [hclient]
    rfl
  obtain ⟨hfuture, hsent⟩ := future_send hunsent hwhole flag code
  rw [hfinal, hrequest, feedLines_request hcheck] at hfuture hsent
  refine ⟨congrArg Prod.snd hfuture, ?_, ?_⟩
  · rw [hsent, hcoming]
    rfl
  · show EndsBlank (st.requests ++ st.client.request flag code)
    rw [hrequests, hrequest]
    exact endsBlank_request hcheck

/-! ### Moves of the client -/

/-- A call comes back while nothing is on its way. -/
lemma aligned_finish {call : Call} {reply : Reply Result}
    (hreached : client.reached s warm (st.history ++ [(call, reply)]) = ⟨memory, none⟩)
    (hquiet : Quiet s logging memory { st with activity := .idle }) :
    Aligned client s logging warm (st.finish call reply) :=
  ⟨memory, hreached, hquiet.of_same rfl rfl rfl rfl rfl rfl rfl⟩

/-- A call begins. -/
lemma Aligned.call (h : Aligned client s logging warm st) (htracks : Tracks client st)
    (hidle : st.activity = .idle) (call : Call) : Aligned client s logging warm (st.call call) := by
  obtain ⟨memory, hreached, hstands⟩ := h
  have hquiet := hstands.quiet (.inl hidle)
  have hunsent : st.activity.unsent = [] := by rw [hidle]; rfl
  have hrests : Quiet s logging memory { st with activity := .idle } :=
    hquiet.of_same hunsent rfl rfl rfl rfl rfl rfl
  have hwaits : ∀ call, Aligned client s logging warm { st with activity := .greeting call } :=
    fun call => ⟨memory, hreached, hquiet.of_same hunsent rfl rfl rfl rfl rfl rfl⟩
  cases call with
  | waitReady =>
    unfold System.call
    dsimp only
    split
    · exact aligned_finish ((client.reached_of_other rfl _).trans hreached) hrests
    · exact hwaits .waitReady
  | highlight flag code =>
    unfold System.call
    dsimp only
    split
    · rename_i hcheck
      rw [htracks.check_eq] at hcheck
      exact aligned_finish ((client.reached_of_refused hcheck _).trans hreached) hrests
    · rename_i hcheck
      rw [htracks.check_eq] at hcheck
      split
      · rename_i hgreeted
        have hclient : st.client = { client with greeted := true } := by
          rw [htracks.same, hgreeted]
        exact ⟨memory, hreached, hquiet.send hclient hunsent hcheck⟩
      · exact hwaits (.highlight flag code)
  | close =>
    unfold System.call
    dsimp only
    split
    · rename_i hstatus
      obtain ⟨status, hstatus⟩ := Option.isSome_iff_exists.1 hstatus
      exact nomatch hquiet.process.symm.trans (status?_eq_some_iff.1 hstatus).1
    · refine ⟨memory, hreached, .inl ⟨hquiet.process, ?_⟩⟩
      rw [hquiet.requests]
      rfl
  | returncode => exact aligned_finish ((client.reached_of_other rfl _).trans hreached) hrests

/-- The ready line is read. -/
lemma Aligned.greet (h : Aligned client s logging warm st) (hagrees : Agrees client s)
    (htracks : Tracks client st) {call : Call} (hactivity : st.activity = .greeting call)
    {line : Text} {next : System} (hread : st.readLine = some (line, next)) :
    Aligned client s logging warm (next.greet call line) := by
  obtain ⟨memory, hreached, hstands⟩ := h
  have hquiet := hstands.quiet (.inr ⟨call, hactivity⟩)
  have hfits := htracks.fits
  rw [hactivity] at hfits
  obtain ⟨hlines, -, rest, rfl⟩ := readLine_spec hread
  obtain ⟨rfl, hrest⟩ : s.readyLine = line ∧
      received (coming { st with outlet := { st.outlet with sent := rest } }) = [] := by
    have hunread := hquiet.unread
    rw [hlines, hfits.1, if_neg Bool.false_ne_true] at hunread
    obtain ⟨hline, hrest⟩ := List.cons.inj hunread
    exact ⟨hline.symm, hrest⟩
  have hgreet : st.client.greet s.readyLine = .ok { client with greeted := true } := by
    unfold Client.greet
    rw [Server.readyLine, Text.chomp_append_lf s.config.ready_oneLine, htracks.same]
    exact if_pos hagrees.ready.symm
  -- Behind the ready line there is nothing.
  have hgreeted : Quiet s logging memory { st with
      client := { client with greeted := true }
      activity := .idle
      outlet := { st.outlet with sent := rest } } := by
    refine ⟨hquiet.process, hquiet.requests, ?_⟩
    rw [if_pos rfl, ← hrest]
    refine congrArg received (coming_congr (future_congr rfl ?_) rfl rfl)
    show st.requests ++ [] = st.requests ++ st.activity.unsent
    rw [hactivity]
    rfl
  unfold System.greet
  dsimp only
  rw [hgreet]
  dsimp only
  cases call with
  | highlight flag code =>
    exact ⟨memory, hreached, hgreeted.send rfl rfl (hfits.2 flag code rfl)⟩
  | waitReady | close | returncode =>
    exact aligned_finish ((client.reached_of_other rfl _).trans hreached)
      (hgreeted.of_same rfl rfl rfl rfl rfl rfl rfl)

/-- The terminator of a block is the last line of it if no line of the markup is the terminator. -/
lemma eq_nil_of_block {before rest : List Text} {line markup : Text} (hagrees : Agrees client s)
    (hmarkup : s.config.terminator ∉ Text.pieces '\n' (Text.unifyBreaks markup))
    (hline : Text.chomp line = s.config.terminator)
    (h : before ++ line :: rest = received (answerBlock s.config.terminator markup)) : rest = [] := by
  by_contra hne
  rw [received_block hagrees.readable] at h
  -- A line with another one behind it belongs to the markup.
  have hdrop := congrArg List.dropLast h
  rw [List.dropLast_concat, List.dropLast_append_of_ne_nil (List.cons_ne_nil line rest),
    List.dropLast_cons_of_ne_nil hne] at hdrop
  have hmem : line ∈ received (markup ++ ['\n']) :=
    hdrop ▸ List.mem_append_right before List.mem_cons_self
  obtain ⟨piece, hpiece, rfl⟩ := Text.exists_of_mem_rawLines_append_lf hmem
  rw [Text.chomp_append_lf (Text.not_mem_of_mem_pieces hpiece)] at hline
  exact hmarkup (hline ▸ hpiece)

/-- A line that is not the terminator belongs to the answer. -/
lemma readOn_of_ne {line : Text} (h : Text.chomp line ≠ st.client.config.terminator)
    (flag code : Text) (before : List Text) :
    st.readOn flag code before line = { st with activity := .reading flag code (line :: before) } := by
  unfold System.readOn readAnswerLine
  rw [if_neg h]

/-- The terminator is the end of the answer. -/
lemma readOn_of_eq {line : Text} (h : Text.chomp line = st.client.config.terminator)
    (flag code : Text) (before : List Text) :
    st.readOn flag code before line =
      st.finish (.highlight flag code) (.value (.markup (markupOfLines before.reverse))) := by
  unfold System.readOn readAnswerLine
  rw [if_pos h]

/-- Nothing changes about a request by writing more of it. -/
lemma Asked.of_same {r : Request} {before : List Text} (h : Asked s logging memory r before st)
    (hall : st'.requests ++ st'.activity.unsent = st.requests ++ st.activity.unsent)
    (hprocess : st'.process = st.process) (htodo : st'.todo = st.todo)
    (houtlet : st'.outlet = st.outlet) : Asked s logging memory r before st' := by
  have hfuture := future_congr hprocess hall
  refine ⟨(congrArg Prod.snd hfuture).trans h.final, ?_, ?_⟩
  · rw [coming_congr hfuture htodo houtlet]
    exact h.unread
  · rw [hall]
    exact h.blank

/-- The end of an answer is read: the program wrote it when it had read the whole request. -/
lemma Asked.finished {r : Request} {before : List Text} (h : Asked s logging memory r before st)
    (hagrees : Agrees client s) (hgreeted : st.client.greeted = true)
    (hunsent : st.activity.unsent = []) {line : Text} {next : System}
    (hread : st.readLine = some (line, next)) (hline : Text.chomp line = s.config.terminator)
    (hmarkups : ∀ markup, s.engine.markup memory r.language r.source = .ok markup →
      s.config.terminator ∉ Text.pieces '\n' (Text.unifyBreaks markup)) :
    (∃ markup, s.engine.markup memory r.language r.source = .ok markup) ∧
      Quiet s logging (s.engine.registry.resolve memory r.language).2
        { next with activity := .idle } := by
  obtain ⟨hlines, -, rest, rfl⟩ := readLine_spec hread
  have hunread := h.unread
  have hfinal := h.final
  unfold Piped.answered at hfinal
  rw [hlines] at hunread
  cases hmarkup : s.engine.markup memory r.language r.source with
  | error cause =>
    -- Nothing is written over a request that fails.
    rw [hmarkup] at hunread
    have hnil : before.reverse ++ line :: _ = [] := hunread
    exact absurd (List.append_eq_nil_iff.1 hnil).2 (List.cons_ne_nil _ _)
  | ok markup =>
    rw [hmarkup] at hfinal hunread
    refine ⟨⟨markup, rfl⟩, ?_⟩
    have hrest := eq_nil_of_block hagrees (hmarkups markup hmarkup) hline hunread
    have hcoming : rest ++ st.outlet.held ++ st.todo.output ++ st.future.1 = [] :=
      Text.eq_nil_of_rawLines_unifyBreaks hrest
    have hserves : st.final.status? = none := by
      rw [hfinal]
      rfl
    have hall := requests_of_silent h.blank (List.append_eq_nil_iff.1 hcoming).2 hserves
    rw [hunsent, List.append_nil] at hall
    have hprocess : st.final = st.process := by
      unfold System.final future
      rw [hall, hunsent]
      rfl
    refine ⟨hprocess.symm.trans hfinal, hall, ?_⟩
    show received _ = if st.client.greeted then [] else [s.readyLine]
    rw [hgreeted, if_pos rfl, ← hrest]
    refine congrArg received (coming_congr (future_congr rfl ?_) rfl rfl)
    show st.requests ++ [] = st.requests ++ st.activity.unsent
    rw [hunsent]

/-- A line of an answer is read. -/
lemma Aligned.readOn (h : Aligned client s logging warm st) (hagrees : Agrees client s)
    (htracks : Tracks client st) {flag code : Text} {before : List Text}
    (hactivity : st.activity = .reading flag code before) {line : Text} {next : System}
    (hread : st.readLine = some (line, next))
    (hsmooth : Smooth client s warm (next.readOn flag code before line).history) :
    Aligned client s logging warm (next.readOn flag code before line) := by
  obtain ⟨memory, hreached, hstands⟩ := h
  have hasked := hstands.asked_of_reading hactivity
  obtain ⟨hgreeted, hcheck⟩ : st.client.greeted = true ∧ client.check flag code = .ok () := by
    have hfits := htracks.fits
    rw [hactivity] at hfits
    exact hfits
  have hunsent : st.activity.unsent = [] := by rw [hactivity]; rfl
  obtain ⟨hlines, -, rest, hnext⟩ := readLine_spec hread
  have hhistory : next.history = st.history := by rw [hnext]
  have hterminator : next.client.config.terminator = s.config.terminator := by
    rw [hnext, htracks.same]
    exact hagrees.terminator
  by_cases hline : Text.chomp line = s.config.terminator
  · -- The call comes back with markup, and the program waits for a declaration again.
    rw [readOn_of_eq (hline.trans hterminator.symm)] at hsmooth ⊢
    have hafter : Smooth client s warm (next.history ++ _) := hsmooth
    rw [hhistory] at hafter
    obtain ⟨⟨markup, hmarkup⟩, hquiet⟩ := hasked.finished hagrees hgreeted hunsent hread hline
      fun markup hmarkup => hafter.not_mem hreached hcheck hmarkup
    refine aligned_finish ?_ hquiet
    rw [hhistory, Client.reached_of_ok hcheck, hreached]
    unfold Engine.advance
    dsimp only
    rw [hmarkup]
  · -- The line moves from what is to come to what was read.
    rw [readOn_of_ne fun he => hline (he.trans hterminator)]
    refine ⟨memory, hhistory ▸ hreached, ?_⟩
    subst hnext
    have hsame : st.requests ++ [] = st.requests ++ st.activity.unsent := by rw [hunsent]
    have hfinal : final { st with
        activity := .reading flag code (line :: before)
        outlet := { st.outlet with sent := rest } } = st.final :=
      congrArg Prod.snd (future_congr rfl hsame)
    refine ⟨hfinal.trans hasked.final, ?_, ?_⟩
    · have hunread := hasked.unread
      rw [hlines] at hunread
      rw [List.reverse_cons, List.append_assoc, List.singleton_append, ← hunread]
      refine congrArg (fun rest => before.reverse ++ line :: rest) (congrArg received ?_)
      exact coming_congr (future_congr rfl hsame) rfl rfl
    · show EndsBlank (st.requests ++ [])
      rw [hsame]
      exact hasked.blank

/-! ### Moves of the program -/

/-- A move of the program is considered by what is on its way. -/
lemma Stands.imp (h : Stands client s logging memory st) (hactivity : st'.activity = st.activity)
    (hquiet : Quiet s logging memory st → Quiet s logging memory st')
    (hasked : ∀ r before, Asked s logging memory r before st → Asked s logging memory r before st')
    (hparts : Parts s logging memory st → Parts s logging memory st')
    (hgone : st.process = .exited 0 → st'.process = .exited 0 ∧ st'.history = st.history) :
    Stands client s logging memory st' := by
  unfold Stands at h ⊢
  rw [hactivity]
  cases hdoing : st.activity with
  | idle | greeting =>
    rw [hdoing] at h
    exact hquiet h
  | sending | reading =>
    rw [hdoing] at h
    exact hasked _ _ h
  | parting | leaving =>
    rw [hdoing] at h
    exact hparts h
  | gone =>
    rw [hdoing] at h
    obtain ⟨hprocess, hhistory⟩ := hgone h.1
    exact ⟨hprocess, (congrArg _ hhistory).trans h.2⟩

/-- What the program does, without reading, leaves everything on its way. -/
lemma Stands.of_same (h : Stands client s logging memory st) (hprocess : st'.process = st.process)
    (hrequests : st'.requests = st.requests) (hactivity : st'.activity = st.activity)
    (hcoming : st'.coming = st.coming) (hclient : st'.client = st.client)
    (hhistory : st'.history = st.history) : Stands client s logging memory st' := by
  have hall : st'.requests ++ st'.activity.unsent = st.requests ++ st.activity.unsent := by
    rw [hrequests, hactivity]
  have hfinal : st'.final = st.final := congrArg Prod.snd (future_congr hprocess hall)
  refine h.imp hactivity ?_ ?_ ?_ fun hexited => ⟨hprocess.trans hexited, hhistory⟩
  · intro hquiet
    refine ⟨hprocess.trans hquiet.process, hrequests.trans hquiet.requests, ?_⟩
    rw [hcoming, hclient]
    exact hquiet.unread
  · intro r before hasked
    refine ⟨hfinal.trans hasked.final, ?_, ?_⟩
    · rw [hcoming]
      exact hasked.unread
    · rw [hall]
      exact hasked.blank
  · unfold Parts
    rw [hprocess, hall]
    exact id

/-- A program that reads a line does what was to come of it. -/
lemma Stands.readRequest (h : Stands client s logging memory st) (htracks : Tracks client st)
    {session : Session} {line rest : Text} (htodo : st.todo = [])
    (hprocess : st.process = .serving session)
    (hnext : Text.nextLine? st.inputClosed st.requests = some (line, rest)) :
    Stands client s logging memory (st.readRequest session line rest) := by
  have hclosed := htracks.unsent_of_closed
  have hnone : st.requests ≠ [] := by
    intro hnil
    rw [hnil] at hnext
    exact nomatch hnext
  refine h.imp rfl ?_ ?_ ?_ fun hexited => nomatch hprocess.symm.trans hexited
  · exact fun hquiet => absurd hquiet.requests hnone
  · intro r before hasked
    refine ⟨?_, ?_, ?_⟩
    · exact (congrArg Prod.snd (future_readRequest hprocess hnext hclosed)).symm.trans hasked.final
    · rw [coming_readRequest htodo hprocess hnext hclosed]
      exact hasked.unread
    · exact hasked.blank.of_rawLines (Text.rawLines_of_nextLine? hnext hclosed)
  · rintro (⟨hserving, hall⟩ | hexited)
    · -- The only line on its way is blank, and the program waits for a declaration.
      obtain ⟨hnil, -⟩ | ⟨hrequests, -⟩ := List.append_eq_singleton_iff.1 hall
      · exact absurd hnil hnone
      rw [hrequests] at hnext
      obtain ⟨rfl, -⟩ := Prod.mk.inj (Option.some.inj hnext)
      refine .inr ?_
      show (Process.feed (Text.stripTerminator ['\n']) (.serving session)).1 = _
      rw [← hprocess, hserving]
      exact feed_goodbye.1
    · exact nomatch hprocess.symm.trans hexited

/-- A program whose input was closed has read the blank line before it finds the end. -/
lemma Stands.not_readEnd (h : Stands client s logging memory st) (htracks : Tracks client st)
    {session : Session} (hprocess : st.process = .serving session) (hclosed : st.inputClosed = true)
    (hrequests : st.requests = []) : False := by
  have hunsent := htracks.unsent_of_closed hclosed
  have hleft : st.activity.isLeft = true := htracks.closed.symm.trans hclosed
  unfold Stands at h
  cases hactivity : st.activity with
  | leaving =>
    rw [hactivity] at h
    rcases h with ⟨-, hall⟩ | hexited
    · rw [hrequests, hunsent] at hall
      exact nomatch hall
    · exact nomatch hprocess.symm.trans hexited
  | gone =>
    rw [hactivity] at h
    exact nomatch hprocess.symm.trans h.1
  | _ =>
    rw [hactivity] at hleft
    exact nomatch hleft

/-! ### All moves -/

/-- A move adds to the history or leaves it as it is. -/
lemma exists_history_of_move (hmove : Move st st') : ∃ more, st'.history = st.history ++ more := by
  have hsame : ∃ more, st.history = st.history ++ more := ⟨[], (List.append_nil _).symm⟩
  cases hmove with
  | call call hidle =>
    unfold System.call
    split
    · split
      · exact ⟨_, rfl⟩
      · exact hsame
    · split
      · exact ⟨_, rfl⟩
      · split <;> exact hsame
    · split <;> exact hsame
    · exact ⟨_, rfl⟩
  | greet call line next hactivity hread =>
    obtain ⟨-, -, rest, rfl⟩ := readLine_spec hread
    unfold System.greet
    split
    · exact ⟨_, rfl⟩
    · split
      · exact hsame
      · exact ⟨_, rfl⟩
  | ungreeted | lose | depart => exact ⟨_, rfl⟩
  | readOn flag code before line next hactivity hread =>
    obtain ⟨-, -, rest, rfl⟩ := readLine_spec hread
    unfold System.readOn
    split
    · exact hsame
    · exact ⟨_, rfl⟩
  | put | sent | putBlank | hangUp | perform | readRequest | readEnd | spill => exact hsame

/-- A call that finds the program gone is not smooth. -/
lemma not_smooth_lose {flag code : Text} {status : Int}
    (h : Smooth client s warm (st.lose flag code status).history) : False := by
  rcases h.replies flag code _ (List.mem_append_right _ List.mem_cons_self) with
    ⟨markup, hmarkup⟩ | ⟨cause, hcause⟩
  · exact nomatch hmarkup
  · have hfailure := Reply.failure.inj hcause
    unfold Failure.ofExit at hfailure
    split at hfailure <;> exact nomatch hfailure

/-- As long as the calls go smoothly, every move leaves everything in line. -/
theorem aligned_move (hagrees : Agrees client s) (htracks : Tracks client st)
    (h : Aligned client s logging warm st) (hsmooth : Smooth client s warm st'.history)
    (hmove : Move st st') : Aligned client s logging warm st' := by
  cases hmove with
  | call call hidle => exact h.call htracks hidle call
  | greet call line next hactivity hread => exact h.greet hagrees htracks hactivity hread
  | readOn flag code before line next hactivity hread =>
    exact h.readOn hagrees htracks hactivity hread hsmooth
  | ungreeted call status hactivity hstatus =>
    -- A program that the client has asked for nothing yet runs.
    obtain ⟨memory, hreached, hstands⟩ := h
    have hserving := (hstands.quiet (.inr ⟨call, hactivity⟩)).process
    exact nomatch hserving.symm.trans (status?_eq_some_iff.1 hstatus).1
  | put flag code c rest hactivity hstatus =>
    obtain ⟨memory, hreached, hstands⟩ := h
    refine ⟨memory, hreached, (hstands.asked_of_sending hactivity).of_same ?_ rfl rfl rfl⟩
    rw [hactivity]
    exact List.append_assoc _ _ _
  | sent flag code hactivity =>
    obtain ⟨memory, hreached, hstands⟩ := h
    refine ⟨memory, hreached, (hstands.asked_of_sending hactivity).of_same ?_ rfl rfl rfl⟩
    rw [hactivity]
    rfl
  | lose flag code status hsubject hstatus => exact (not_smooth_lose hsmooth).elim
  | putBlank c rest hactivity hstatus =>
    obtain ⟨memory, hreached, hstands⟩ := h
    refine ⟨memory, hreached, ?_⟩
    refine (hstands.parts (.inl ⟨_, hactivity⟩)).imp (fun hserving => ⟨hserving.1, ?_⟩) id
    rw [← hserving.2, hactivity]
    exact List.append_assoc _ _ _
  | hangUp rest hactivity hdone =>
    obtain ⟨memory, hreached, hstands⟩ := h
    refine ⟨memory, hreached, ?_⟩
    refine (hstands.parts (.inl ⟨_, hactivity⟩)).imp (fun hserving => ⟨hserving.1, ?_⟩) id
    rcases hdone with rfl | hstatus
    · rw [← hserving.2, hactivity]
      rfl
    · obtain ⟨status, hstatus⟩ := Option.isSome_iff_exists.1 hstatus
      exact nomatch hserving.1.symm.trans (status?_eq_some_iff.1 hstatus).1
  | depart status hactivity hstatus =>
    -- A program that was sent the blank line has exited with status 0.
    obtain ⟨memory, hreached, hstands⟩ := h
    have hexited := (status?_eq_some_iff.1 hstatus).1
    rcases hstands.parts (.inr hactivity) with ⟨hserving, -⟩ | hzero
    · exact nomatch hserving.symm.trans hexited
    · obtain rfl := Process.exited.inj (hzero.symm.trans hexited)
      refine ⟨memory, ?_, hzero, List.getLast?_concat⟩
      exact (client.reached_of_other rfl _).trans hreached
  | perform e rest htodo =>
    obtain ⟨memory, hreached, hstands⟩ := h
    exact ⟨memory, hreached, hstands.of_same rfl rfl rfl (coming_perform htodo) rfl rfl⟩
  | readRequest session line rest htodo hprocess hnext =>
    obtain ⟨memory, hreached, hstands⟩ := h
    exact ⟨memory, hreached, hstands.readRequest htracks htodo hprocess hnext⟩
  | readEnd session htodo hprocess hclosed hrequests =>
    obtain ⟨memory, hreached, hstands⟩ := h
    exact (hstands.not_readEnd htracks hprocess hclosed hrequests).elim
  | spill c rest hheld =>
    obtain ⟨memory, hreached, hstands⟩ := h
    exact ⟨memory, hreached, hstands.of_same rfl rfl rfl (coming_spill hheld) rfl rfl⟩

/-- A client that has read nothing and a program that opens a session are in line. -/
lemma aligned_launch {there : Installation} {words : List Text}
    (hplan : plan words = .ok (.serve s.config logging))
    (hserver : Server.configured there s.config = .ok s) (hopened : (s.start []).ending = none)
    (hgreeted : client.greeted = false) (hready : received s.readyLine = [s.readyLine]) :
    Aligned client s logging (s.engine.registry.remember [] s.config.aliases.keys)
      (launch there words client) := by
  obtain ⟨hprocess, -, hcoming⟩ := launch_of_opened hplan hserver hopened client
  refine ⟨_, rfl, hprocess, rfl, ?_⟩
  show received _ = if client.greeted then [] else [s.readyLine]
  rw [hcoming, hready, hgreeted]
  rfl

/-! ## Goodbye -/

/-- The blank line is all that the program has yet to read, and no language is declared, or the program
has exited with status 0. -/
def EndsWell (st : System) : Prop :=
  match st.process with
  | .serving session =>
    session.state.assembler.pending = none ∧ st.requests ++ st.activity.unsent = ['\n']
  | .exited status => status = 0

/-- The session was ended, the program has exited with status 0, and the client was told so. -/
def SaidGoodbye (st : System) : Prop :=
  st.activity = .gone ∧ st.process = .exited 0 ∧
    st.history.getLast? = some (.close, .value (.status (some 0)))

/-- A session that is being ended in line ends well. -/
lemma Aligned.endsWell (h : Aligned client s logging warm st)
    (hclosing : st.activity.isClosing = true) : EndsWell st := by
  obtain ⟨memory, -, hstands⟩ := h
  have hparts : Parts s logging memory st → EndsWell st := by
    unfold EndsWell
    rintro (⟨hserving, hall⟩ | hexited)
    · rw [hserving]
      exact ⟨rfl, hall⟩
    · rw [hexited]
  unfold Stands at hstands
  cases hactivity : st.activity with
  | parting | leaving =>
    rw [hactivity] at hstands
    exact hparts hstands
  | gone =>
    rw [hactivity] at hstands
    exact hparts (.inr hstands.1)
  | idle | greeting | sending | reading =>
    rw [hactivity] at hclosing
    exact nomatch hclosing

/-- A client that ends the session goes on with that, and adds nothing else to the history. -/
lemma closing_move (hclosing : st.activity.isClosing = true) (hmove : Move st st') :
    st'.activity.isClosing = true ∧
      ∃ more : List (Call × Reply Result),
        (∀ entry ∈ more, entry.1 = .close) ∧ st'.history = st.history ++ more := by
  have hnone : ∃ more : List (Call × Reply Result),
      (∀ entry ∈ more, entry.1 = .close) ∧ st.history = st.history ++ more :=
    ⟨[], fun entry hentry => absurd hentry List.not_mem_nil, (List.append_nil _).symm⟩
  cases hmove with
  | call call hactivity | greet call line next hactivity | ungreeted call status hactivity
  | put flag code c rest hactivity | sent flag code hactivity
  | readOn flag code before line next hactivity =>
    rw [hactivity] at hclosing
    exact nomatch hclosing
  | lose flag code status hsubject =>
    cases hactivity : st.activity with
    | sending | reading =>
      rw [hactivity] at hclosing
      exact nomatch hclosing
    | _ =>
      rw [hactivity] at hsubject
      exact nomatch hsubject
  | putBlank | hangUp => exact ⟨rfl, hnone⟩
  | depart status hactivity hstatus =>
    refine ⟨rfl, _, fun entry hentry => ?_, rfl⟩
    rw [List.mem_singleton.1 hentry]
  | perform | readRequest | readEnd | spill => exact ⟨hclosing, hnone⟩

/-- A client that keeps to the order of things stays in line with the program as long as the calls go
smoothly. -/
lemma aligned_of_smooth_move (hagrees : Agrees client s)
    (h : Tracks client st ∧ (Smooth client s warm st.history → Aligned client s logging warm st))
    (hmove : Move st st') :
    Tracks client st' ∧ (Smooth client s warm st'.history → Aligned client s logging warm st') := by
  refine ⟨tracks_move h.1 hmove, fun hsmooth => ?_⟩
  obtain ⟨more, hmore⟩ := exists_history_of_move hmove
  have hbefore : Smooth client s warm st.history := by
    rw [hmore] at hsmooth
    exact hsmooth.before
  exact aligned_move hagrees h.1 (h.2 hbefore) hsmooth hmove

/-- Once a session is being ended in line, the client is told that the program has exited with
status 0, whatever moves are made. -/
lemma inevitably_saidGoodbye (hagrees : Agrees client s) (hsound : Sound client s logging st)
    (haligned : Aligned client s logging warm st) (hsmooth : Smooth client s warm st.history)
    (hclosing : st.activity.isClosing = true) : Inevitably SaidGoodbye st := by
  have hmove : ∀ {st st'}, (Tracks client st ∧ Smooth client s warm st.history ∧
      Aligned client s logging warm st ∧ st.activity.isClosing = true) → Move st st' →
      (Tracks client st' ∧ Smooth client s warm st'.history ∧
        Aligned client s logging warm st' ∧ st'.activity.isClosing = true) := by
    rintro st st' ⟨htracks, hsmooth, haligned, hclosing⟩ hmove
    obtain ⟨hcloses, more, hmore, hhistory⟩ := closing_move hclosing hmove
    have hafter : Smooth client s warm st'.history := hhistory ▸ hsmooth.append_of_close hmore
    exact ⟨tracks_move htracks hmove, hafter, aligned_move hagrees htracks haligned hafter hmove,
      hcloses⟩
  have hrests := inevitably_rests hagrees hmove hsound ⟨hsound.tracks, hsmooth, haligned, hclosing⟩
  refine hrests.imp ?_
  rintro last ⟨hresting, -, -, ⟨memory, -, hstands⟩, hcloses⟩
  unfold Stands at hstands
  cases hactivity : last.activity with
  | gone =>
    rw [hactivity] at hstands
    exact ⟨hactivity, hstands⟩
  | idle =>
    rw [hactivity] at hcloses
    exact nomatch hcloses
  | _ =>
    rw [hactivity] at hresting
    exact nomatch hresting

end Aligned

/-- A client that expects the default markers and the program, started with any words, never wait for
each other, whatever calls are made and however their moves are interleaved, and every call comes back.
If the program opened its session, every call for markup came back with some or was refused by the
check, and no markup had a line that is the terminator, then a client that ends the session has the
program read a blank line while no language is declared, so that it exits with status 0. -/
theorem no_deadlock_and_goodbye (there : Installation) (words : List Text) (client : Client)
    (hgreeted : client.greeted = false) (hready : client.config.ready = Config.default.ready)
    (hterminator : client.config.terminator = Config.default.terminator) {actions : List Action}
    {st : System} (hrun : (launch there words client).after actions = some st) :
    ¬ (st.ClientWaits ∧ st.ServerWaits) ∧
    Inevitably (fun last => last.activity.isResting = true) st ∧
    ∀ (s : Server Cache) (logging : Logging), plan words = .ok (.serve s.config logging) →
      Server.configured there s.config = .ok s → (s.start []).ending = none →
      Smooth client s (s.engine.registry.remember [] s.config.aliases.keys) st.history →
      st.activity.isClosing = true →
      EndsWell st ∧ Inevitably SaidGoodbye st := by
  obtain ⟨s, logging, hagrees, hlaunch⟩ := exists_sound_launch there words hready hterminator
  have hsound := invariant_after (sound_move hagrees) hlaunch hrun
  refine ⟨hsound.not_waits, ?_, ?_⟩
  · have hrests := inevitably_rests hagrees (P := fun _ => True) (fun _ _ => trivial) hsound trivial
    exact hrests.imp fun _ hlast => hlast.1
  · intro s logging hplan hserver hopened hsmooth hclosing
    obtain ⟨hagrees, hline⟩ := agrees_of_plan hplan hready hterminator
    have hlaunch := sound_of_opened hplan hserver hopened client
    have hfirst : Aligned client s logging _ (launch there words client) :=
      aligned_launch hplan hserver hopened hgreeted hline
    obtain ⟨htracks, haligned⟩ := invariant_after (aligned_of_smooth_move hagrees)
      ⟨hlaunch.tracks, fun _ => hfirst⟩ hrun
    exact ⟨(haligned hsmooth).endsWell hclosing, inevitably_saidGoodbye hagrees
      (invariant_after (sound_move hagrees) hlaunch hrun) (haligned hsmooth) hsmooth hclosing⟩

/-- A piece of code is highlighted, and the client has just begun to end the session. -/
theorem no_deadlock_and_goodbye_textOnly :
    let client : Client := { config := .default }
    let actions : List Action :=
      .call (.highlight "plain".toList "a".toList) :: List.replicate 9 .server ++
        List.replicate 12 .client ++ List.replicate 7 .server ++ List.replicate 3 .client ++
        [.call .close]
    ∃ st, (launch .textOnly [] client).after actions = some st ∧
      st.activity = .parting ['\n'] ∧
      st.history = [(.highlight "plain".toList "a".toList, .value (.markup "a\n".toList))] ∧
      ¬ (st.ClientWaits ∧ st.ServerWaits) ∧
      Inevitably (fun last => last.activity.isResting = true) st ∧
      EndsWell st ∧ Inevitably SaidGoodbye st := by
  intro client actions
  have hstate : ((launch .textOnly [] client).after actions).map
      (fun st => (st.activity, st.history)) =
        some (.parting ['\n'],
          [(.highlight "plain".toList "a".toList, .value (.markup "a\n".toList))]) := by
    decide +kernel
  obtain ⟨st, hrun, hst⟩ := Option.map_eq_some_iff.1 hstate
  obtain ⟨hactivity, hhistory⟩ := Prod.mk.inj hst
  obtain ⟨hwaits, hrests, hcloses⟩ :=
    no_deadlock_and_goodbye .textOnly [] client rfl rfl rfl hrun
  let s := Server.ofCatalogue .textOnly .default
  have hopened : (s.start []).ending = none :=
    (s.start_of_neverFails [] (Registry.neverFails_ofCatalogue Installation.rated_textOnly)).1
  have hsmooth : Smooth client s (s.engine.registry.remember [] s.config.aliases.keys) st.history := by
    rw [hhistory]
    constructor
    · intro flag code reply hmem
      obtain ⟨-, rfl⟩ := Prod.mk.inj (List.mem_singleton.1 hmem)
      exact .inl ⟨_, rfl⟩
    · decide +kernel
  have hclosing : st.activity.isClosing = true := by rw [hactivity]; rfl
  exact ⟨st, hrun, hactivity, hhistory, hwaits, hrests,
    hcloses s ⟨[.own], 30⟩ plan_nil (Server.configured_eq rfl) hopened hsmooth hclosing⟩

end System
end LineHighlight
