import LineHighlight.Client.Piped
import LineHighlight.Proofs.Client.Answers
import LineHighlight.Proofs.Request.RoundTrip
import LineHighlight.Proofs.Server.Replies

/-!
# A client and a piped server

One call of a client whose peer is the program itself. A connection is in step (`InStep`) if the
server waits for a declaration and the client has nothing to read but, at first, the ready line. Then
the server takes exactly the request of a call (`send_requestText`), and the call comes back with
what the client reads of the block that answers it (`highlight_of_ok`), or with the failure that the
exit status of the server stands for (`highlight_of_error`).
-/

namespace LineHighlight

namespace Piped

open CommandLine

variable {s : Server Cache} {logging : Logging} {memory : Cache}

/-- A process that serves a session in which some lines of a segment were read. -/
def serving (s : Server Cache) (logging : Logging) (memory : Cache) (seg : Segment) : Process :=
  .serving ⟨s, logging, ⟨memory, .ofSegment seg⟩⟩

/-- The process after a request. -/
def answered (s : Server Cache) (logging : Logging) (memory : Cache) (r : Request) : Process :=
  match s.engine.markup memory r.language r.source with
  | .ok _ => serving s logging (s.engine.registry.resolve memory r.language).2 []
  | .error cause => .exited (exitStatus (.ofFailure cause))

/-- Lines are handed over one by one. -/
lemma feedLines_cons (p : Process) (l : Text) (rest : List Text) :
    feedLines p (l :: rest) =
      ((p.feed l).2.stdout ++ (feedLines (p.feed l).1 rest).1, (feedLines (p.feed l).1 rest).2) :=
  rfl

/-- Lines that are not blank make the unfinished segment longer, and nothing is written. -/
lemma feedLines_of_not_mem {ls : List Text} (h : [] ∉ ls) (seg : Segment) (more : List Text) :
    feedLines (serving s logging memory seg) (ls ++ more) =
      feedLines (serving s logging memory (seg ++ ls)) more := by
  induction ls generalizing seg with
  | nil => rw [List.nil_append, List.append_nil]
  | cons l ls ih =>
    have hl : l ≠ [] := fun he => h (he ▸ List.mem_cons_self)
    obtain ⟨hending, hstate, houtput⟩ := s.feed_of_none memory (Assembler.feed_ofSegment seg hl)
    have hafter : ((serving s logging memory seg).feed l).1 =
        serving s logging memory (seg ++ [l]) := by
      show Process.ofStep s logging (s.feed ⟨memory, .ofSegment seg⟩ l) = _
      unfold Process.ofStep
      rw [hending, hstate]
      rfl
    have hwritten : ((serving s logging memory seg).feed l).2.stdout = [] := houtput
    rw [List.cons_append, feedLines_cons, hafter, hwritten, List.nil_append,
      ih (fun hmem => h (List.mem_cons_of_mem l hmem)), List.append_assoc]
    rfl

/-- A blank line after a segment that stands for a request has it answered. -/
lemma feedLines_blank {seg : Segment} {r : Request} (h : seg.request? = some r) :
    feedLines (serving s logging memory seg) [[]] =
      (Engine.written s.config.terminator (s.engine.markup memory r.language r.source),
        answered s logging memory r) := by
  obtain ⟨hending, hstate, houtput⟩ := s.feed_of_request memory (Assembler.feed_ofSegment_blank h)
  have hprocess : ((serving s logging memory seg).feed []).1 = answered s logging memory r ∧
      ((serving s logging memory seg).feed []).2.stdout =
        Engine.written s.config.terminator (s.engine.markup memory r.language r.source) := by
    show Process.ofStep s logging (s.feed ⟨memory, .ofSegment seg⟩ []) = _ ∧
      (s.feed ⟨memory, .ofSegment seg⟩ []).trace.output = _
    unfold Process.ofStep answered
    cases hmarkup : s.engine.markup memory r.language r.source with
    | ok markup =>
      obtain ⟨hending', hstate', houtput'⟩ := Server.handle_of_ok hmarkup .fresh
      rw [hending, hending', hstate, hstate', houtput, houtput']
      exact ⟨rfl, rfl⟩
    | error cause =>
      obtain ⟨hending', hstate', houtput'⟩ := Server.handle_of_error hmarkup .fresh
      rw [hending, hending', houtput, houtput']
      exact ⟨rfl, rfl⟩
  rw [feedLines_cons, hprocess.1, hprocess.2, feedLines, List.append_nil]

/-- A server that runs is sent a text line by line. -/
lemma send_serving (seg : Segment) (t : Text) :
    Peer.send (⟨serving s logging memory seg⟩ : Piped) t =
      let (written, after) :=
        feedLines (serving s logging memory seg) (Text.lines (Text.unifyBreaks t))
      some (written, ⟨after⟩) := rfl

/-- A server that waits for a declaration takes a request as a whole and answers it. -/
theorem send_requestText (s : Server Cache) (logging : Logging) (memory : Cache) {flag : Text}
    (hflag : isSendable flag = true) {ls : List Text} (hls : ∀ l ∈ ls, '\n' ∉ l ∧ '\r' ∉ l) :
    Peer.send (⟨serving s logging memory []⟩ : Piped) (requestText flag ls) =
      some (Engine.written s.config.terminator (s.engine.markup memory flag (Text.unlines ls)),
        ⟨answered s logging memory ⟨flag, Text.unlines ls⟩⟩) := by
  obtain ⟨-, hcode, -, -⟩ := isSendable_iff.1 hflag
  have hrequest := Segment.request?_declaration_code hcode ls
  rw [← List.nil_append (flag :: _)] at hrequest
  rw [send_serving, lines_requestText hflag hls, requestLines, feedLines_of_not_mem (blank_not_mem hflag ls),
    feedLines_blank hrequest]

end Piped

/-! ## Calls -/

namespace Connection

open CommandLine

/-- The pipes are open, and the client has some lines to read, behind the ready line unless that was
read before. -/
structure Attached {σ π : Type} (client : Client) (s : Server σ) (peer : π) (unread : List Text)
    (c : Connection π) : Prop where
  client : c.client = { client with greeted := c.client.greeted }
  peer : c.peer = peer
  inputOpen : c.inputClosed = false
  outputOpen : c.outputClosed = false
  inbox : c.inbox = if c.client.greeted then unread else s.readyLine :: unread

/-- The server waits for a declaration, the pipes are open, and the client has nothing to read but,
unless it was read before, the ready line. -/
structure InStep (client : Client) (s : Server Cache) (logging : Logging) (memory : Cache)
    (c : Connection Piped) : Prop where
  client : c.client = { client with greeted := c.client.greeted }
  peer : c.peer = ⟨Piped.serving s logging memory []⟩
  inputOpen : c.inputClosed = false
  outputOpen : c.outputClosed = false
  inbox : c.inbox = if c.client.greeted then [] else [s.readyLine]

/-- How a call comes back when the server has exited over its request. -/
def failureOf (flag : Text) : AnswerFailure → Failure
  | .unknownLanguage _ => .answer (.unknownLanguage flag)
  | .engine _ => .protocol (.exited engineFailedStatus)

variable {client : Client} {s : Server Cache} {logging : Logging} {memory : Cache}
  {c : Connection Piped}

lemma InStep.attached (h : InStep client s logging memory c) :
    Attached client s (⟨Piped.serving s logging memory []⟩ : Piped) [] c :=
  ⟨h.client, h.peer, h.inputOpen, h.outputOpen, h.inbox⟩

section Attached

variable {σ π : Type} [Peer π] {t : Server σ} {peer : π} {unread : List Text} {d : Connection π}

/-- The connection of a client that has read the ready line. -/
def onceGreeted (client : Client) (peer : π) (unread : List Text) : Connection π :=
  { client := { client with greeted := true }, peer := peer, inbox := unread }

/-- A client that is attached waits for the ready line without failure. -/
lemma waitReady_of_attached (h : Attached client t peer unread d)
    (hready : client.config.ready = t.config.ready) :
    d.waitReady.reply = .value () ∧ d.waitReady.connection = onceGreeted client peer unread := by
  obtain ⟨conn, peer', inbox, inClosed, outClosed⟩ := d
  obtain ⟨hclient, rfl, rfl, rfl, hinbox⟩ := h
  obtain ⟨isGreeted, rfl⟩ : ∃ isGreeted, conn = { client with greeted := isGreeted } := ⟨_, hclient⟩
  dsimp only at hinbox
  unfold waitReady onceGreeted
  cases isGreeted with
  | true =>
    rw [if_pos rfl] at hinbox ⊢
    rw [hinbox]
    exact ⟨rfl, rfl⟩
  | false =>
    rw [if_neg Bool.false_ne_true] at hinbox ⊢
    have hgreet : Client.greet { client with greeted := false } t.readyLine =
        .ok { client with greeted := true } := by
      unfold Client.greet Server.readyLine
      rw [Text.chomp_append_lf t.config.ready_oneLine]
      exact if_pos hready.symm
    rw [if_neg Bool.false_ne_true, hinbox]
    dsimp only
    rw [hgreet]
    exact ⟨rfl, rfl⟩

/-- A call that passes the check sends its request and reads the answer to it. -/
lemma highlight_of_attached (h : Attached client t peer unread d)
    (hready : client.config.ready = t.config.ready) {flag code : Text}
    (hcheck : client.check flag code = .ok ()) :
    d.highlight flag code =
      (onceGreeted client peer unread).exchange (client.rename flag) (client.request flag code)
        d.waitReady.notes := by
  obtain ⟨hreply, hconnection⟩ := waitReady_of_attached h hready
  have hsame : d.client.check flag code = .ok () := by
    rw [h.client]
    exact hcheck
  unfold highlight
  rw [hsame]
  dsimp only
  rw [hreply, hconnection]
  dsimp only
  rw [h.client]
  rfl

end Attached

/-- The request of a call that passes the check is sent as a whole, and what the server writes comes
behind what the client did not read yet. -/
lemma exchange_serving {flag code : Text} (hcheck : client.check flag code = .ok ())
    (unread : List Text) (notes : List Note) :
    let r : Request := ⟨client.rename flag, Text.unlines (Text.splitCode code)⟩
    (onceGreeted client (⟨Piped.serving s logging memory []⟩ : Piped) unread).exchange
        (client.rename flag) (client.request flag code) notes =
      (onceGreeted client (⟨Piped.answered s logging memory r⟩ : Piped)
        (unread ++ received (Engine.written s.config.terminator
          (s.engine.markup memory r.language r.source)))).readMarkup (client.rename flag) notes := by
  intro r
  have hsend := Piped.send_requestText s logging memory (Client.check_eq_ok_iff.1 hcheck).1
    (Text.break_not_mem_of_mem_splitCode code)
  unfold exchange onceGreeted Client.request
  rw [if_neg Bool.false_ne_true, hsend]

/-- A call of a client in step reads what the server writes for its request. -/
lemma highlight_of_inStep (h : InStep client s logging memory c)
    (hready : client.config.ready = s.config.ready) {flag code : Text}
    (hcheck : client.check flag code = .ok ()) :
    let r : Request := ⟨client.rename flag, Text.unlines (Text.splitCode code)⟩
    c.highlight flag code =
      (onceGreeted client (⟨Piped.answered s logging memory r⟩ : Piped)
        (received (Engine.written s.config.terminator
          (s.engine.markup memory r.language r.source)))).readMarkup (client.rename flag)
        c.waitReady.notes := by
  intro r
  rw [highlight_of_attached h.attached hready hcheck, exchange_serving hcheck, List.nil_append]

/-- A call whose request has markup comes back with what is read of the block for it, and leaves the
rest of the block behind. -/
theorem highlight_of_ok (h : InStep client s logging memory c)
    (hready : client.config.ready = s.config.ready) {flag code markup : Text}
    (hcheck : client.check flag code = .ok ())
    (hmarkup : s.engine.markup memory (client.rename flag) (Text.unlines (Text.splitCode code)) =
      .ok markup) {read : Text} {rest : List Text}
    (hread : readAnswer client.config.terminator []
      (received (answerBlock s.config.terminator markup)) = (some read, rest)) :
    (c.highlight flag code).reply = .value read ∧
      (c.highlight flag code).connection.inbox = rest ∧
      (rest = [] → InStep client s logging
        (s.engine.registry.resolve memory (client.rename flag)).2
        (c.highlight flag code).connection) := by
  rw [highlight_of_inStep h hready hcheck]
  unfold readMarkup onceGreeted Piped.answered
  rw [hmarkup]
  unfold Engine.written
  dsimp only
  rw [hread]
  refine ⟨rfl, rfl, fun hrest => ?_⟩
  exact ⟨rfl, rfl, rfl, rfl, hrest⟩

/-- A call whose request fails comes back with the failure that the exit status stands for. -/
theorem highlight_of_error (h : InStep client s logging memory c)
    (hready : client.config.ready = s.config.ready) {flag code : Text} {cause : AnswerFailure}
    (hcheck : client.check flag code = .ok ())
    (hmarkup : s.engine.markup memory (client.rename flag) (Text.unlines (Text.splitCode code)) =
      .error cause) :
    (c.highlight flag code).reply = .failure (failureOf (client.rename flag) cause) := by
  rw [highlight_of_inStep h hready hcheck]
  unfold readMarkup onceGreeted Piped.answered
  rw [hmarkup]
  cases cause <;> rfl

end Connection
end LineHighlight
