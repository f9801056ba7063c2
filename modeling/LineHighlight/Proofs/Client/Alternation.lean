import LineHighlight.Proofs.Client.Turns

/-!
# Calls as interleavings

A call on a `Connection` is made in one go: the program answers at once what it is sent. That is one of
the interleavings of the client and the program, in which the client writes all of its request, the
program does all that it can, and the client reads (`comesBack_call`, `leads_close`). So what holds of
all interleavings holds of calls on a connection: on the connection to a program that was just started
no call stalls (`leads_replies_launched`).
-/

namespace LineHighlight

open CommandLine Connection

/-- The call waits for a line that never comes. -/
def Reply.isStalled {α : Type} : Reply α → Bool
  | stalled => true
  | value _ | failure _ => false

namespace System

variable {st st' : System}

/-! ## Calls -/

/-- The connection and the system have come to the same point: the program has done all that it can, and
the client has the same to read. -/
structure Mirrors (c : Connection Piped) (st : System) : Prop where
  client : st.client = c.client
  process : st.process = c.peer.process
  todo : st.todo = []
  held : st.outlet.held = []
  inbox : received st.outlet.sent = c.inbox
  whole : Text.Whole st.outlet.sent
  requests : st.process.status? = none → st.requests = []
  inputOpen : st.inputClosed = false
  connectionOpen : c.inputClosed = false ∧ c.outputClosed = false

namespace Mirrors

variable {c : Connection Piped}

/-- It does not matter what the client is doing and which calls have come back. -/
lemma of_same (h : Mirrors c st) (activity : Activity) (history : List (Call × Reply Result)) :
    Mirrors c { st with activity := activity, history := history } :=
  ⟨h.client, h.process, h.todo, h.held, h.inbox, h.whole, h.requests, h.inputOpen, h.connectionOpen⟩

lemma status?_eq (h : Mirrors c st) : st.status? = Peer.status? c.peer := by
  rw [status?_of_settled h.todo h.held, h.process]
  rfl

/-- A program that runs waits for a line. -/
lemma serverWaits (h : Mirrors c st) (hserves : st.process.status? = none) : st.ServerWaits := by
  refine ⟨hserves, h.todo, ?_⟩
  rw [h.requests hserves]
  rfl

/-- The client waits for the ready line as on the connection. -/
lemma leads_greeting (h : Mirrors c st) (hgreeted : c.client.greeted = false) (call : Call) :
    (c.waitReady.reply = .stalled ∧ ClientWaits { st with activity := .greeting call } ∧
      ServerWaits { st with activity := .greeting call }) ∨
    (∃ failure st', c.waitReady.reply = .failure failure ∧ st'.history = st.history ∧
      Mirrors c.waitReady.connection st' ∧
      Leads { st with activity := .greeting call } (st'.finish call (.failure failure))) ∨
    ∃ st', c.waitReady.reply = .value () ∧ st'.history = st.history ∧
      Mirrors c.waitReady.connection st' ∧
      Leads { st with activity := .greeting call }
        (match call with
        | .highlight flag code => st'.send flag code
        | _ => st'.finish call (.value .nothing)) := by
  let waiting : System := { st with activity := .greeting call }
  have hwaiting : Mirrors c waiting := h.of_same (.greeting call) st.history
  have hungreeted : ¬ c.client.greeted = true := fun hg => Bool.false_ne_true (hgreeted.symm.trans hg)
  have hopen : ¬ c.outputClosed = true :=
    fun ho => Bool.false_ne_true (h.connectionOpen.2.symm.trans ho)
  unfold waitReady
  rw [if_neg hungreeted, if_neg hopen]
  cases hinbox : c.inbox with
  | nil =>
    have hnone : waiting.readLine = none := readLine_eq_none (hwaiting.inbox.trans hinbox)
    dsimp only
    cases hstatus : Peer.status? c.peer with
    | none =>
      have hended : Peer.isEnded c.peer = false := congrArg Option.isSome hstatus
      have hserves : waiting.process.status? = none := (congrArg _ hwaiting.process).trans hstatus
      rw [hended, if_neg Bool.false_ne_true]
      exact .inl ⟨rfl, ⟨rfl, hnone⟩, hwaiting.serverWaits hserves⟩
    | some status =>
      have hended : Peer.isEnded c.peer = true := congrArg Option.isSome hstatus
      rw [if_pos hended]
      refine .inr (.inl ⟨_, st, rfl, rfl, h, .client ?_⟩)
      show waiting.clientStep = _
      unfold clientStep
      dsimp only [waiting]
      rw [hnone, hwaiting.status?_eq, hstatus]
      rfl
  | cons line rest =>
    obtain ⟨sent, hline, hrest, hsuffix⟩ :=
      exists_readLine (hwaiting.inbox.trans hinbox) hwaiting.whole
    have hread : ∀ before after : Client, before = after →
        Mirrors { c with inbox := rest, client := after }
          { st with outlet := { st.outlet with sent := sent }, client := before } := fun _ _ hsame =>
      ⟨hsame, h.process, h.todo, h.held, hrest, hsuffix, h.requests, h.inputOpen, h.connectionOpen⟩
    have hstep : waiting.clientStep =
        some (greet { waiting with outlet := { st.outlet with sent := sent } } call line) := by
      unfold clientStep
      dsimp only [waiting] at hline ⊢
      rw [hline]
    have hsame : st.client.greet line = c.client.greet line := by rw [h.client]
    unfold greet at hstep
    dsimp only [waiting] at hstep ⊢
    rw [hsame] at hstep
    cases hgreet : c.client.greet line with
    | error cause =>
      rw [hgreet] at hstep
      exact .inr (.inl ⟨_, { st with outlet := { st.outlet with sent := sent } }, rfl, rfl,
        hread _ _ h.client, .client hstep⟩)
    | ok client =>
      rw [hgreet] at hstep
      exact .inr (.inr ⟨{ st with outlet := { st.outlet with sent := sent }, client := client },
        rfl, rfl, hread _ _ rfl, by cases call <;> exact .client hstep⟩)

/-- The call comes back with the reply that it has on the connection, and both are at one point again;
or the client and the program wait for each other. -/
def ComesBack (st : System) (history : List (Call × Reply Result)) (call : Call)
    (reply : Reply Result) (d : Connection Piped) : Prop :=
  ∃ st', Leads st st' ∧
    (reply.isStalled = true ∧ st'.ClientWaits ∧ st'.ServerWaits ∨
      reply.isStalled = false ∧ st'.history = history ++ [(call, reply)] ∧ st'.activity = .idle ∧
        Mirrors d st')

variable {history : List (Call × Reply Result)} {call : Call} {reply : Reply Result}

lemma ComesBack.of_leads (hleads : Leads st st') (h : ComesBack st' history call reply c) :
    ComesBack st history call reply c := by
  obtain ⟨last, hlast, hdone⟩ := h
  exact ⟨last, hleads.trans hlast, hdone⟩

lemma comesBack_of_finish (h : Mirrors c st') (hreply : reply.isStalled = false)
    (hhistory : st'.history = history) (hleads : Leads st (st'.finish call reply)) :
    ComesBack st history call reply c := by
  refine ⟨_, hleads, .inr ⟨hreply, ?_, rfl, h.of_same .idle _⟩⟩
  rw [← hhistory]
  rfl

/-- The client reads what there is, and the call comes back as on the connection. -/
lemma comesBack_of_reading (h : Mirrors c st) {flag code : Text}
    (hactivity : st.activity = .reading flag code []) (notes : List Note) :
    let done := c.readMarkup (c.client.rename flag) notes
    ComesBack st st.history (.highlight flag code) (done.reply.map .markup) done.connection := by
  intro done
  obtain ⟨sent, last, hsent, hwhole, hleads⟩ := leads_read st hactivity h.whole
  have hterminator : st.client.config.terminator = c.client.config.terminator := by rw [h.client]
  rw [h.inbox, hterminator] at hsent hleads
  let read : System := { st with outlet := { st.outlet with sent := sent } }
  have hdone : done = c.readMarkup (c.client.rename flag) notes := rfl
  unfold readMarkup at hdone
  generalize hfound : readAnswer c.client.config.terminator [] c.inbox = answer
    at hsent hleads hdone
  obtain ⟨found, rest⟩ := answer
  have hread : Mirrors { c with inbox := rest } read :=
    ⟨h.client, h.process, h.todo, h.held, hsent, hwhole, h.requests, h.inputOpen, h.connectionOpen⟩
  cases found with
  | some markup =>
    rw [hdone]
    exact hread.comesBack_of_finish rfl rfl hleads
  | none =>
    -- The client has read everything there was.
    let waiting : System := { read with activity := .reading flag code last }
    have hwaiting : Mirrors { c with inbox := rest } waiting := hread.of_same _ _
    have hrest : rest = [] := by
      have hnone := readAnswer_none (congrArg Prod.fst hfound)
      rw [hfound] at hnone
      exact hnone
    have hline : waiting.readLine = none := readLine_eq_none (hsent.trans hrest)
    have hstatus : waiting.status? = Peer.status? c.peer := hwaiting.status?_eq
    dsimp only at hdone hleads
    cases hexit : Peer.status? c.peer with
    | none =>
      have hended : Peer.isEnded c.peer = false := congrArg Option.isSome hexit
      have hserves : waiting.process.status? = none := (congrArg _ h.process).trans hexit
      rw [hended, if_neg Bool.false_ne_true] at hdone
      rw [hdone]
      exact ⟨waiting, hleads, .inl ⟨rfl, ⟨rfl, hline⟩, hwaiting.serverWaits hserves⟩⟩
    | some status =>
      have hended : Peer.isEnded c.peer = true := congrArg Option.isSome hexit
      have hpeer : c.peer = ⟨.exited status⟩ := congrArg Piped.mk (eq_exited_of_status? hexit)
      have hstep : waiting.clientStep = some (read.lose flag code status) := by
        unfold clientStep
        dsimp only [waiting] at hline hstatus ⊢
        rw [hline, hstatus, hexit]
        rfl
      rw [if_pos hended, explain_of_exited (c := { c with inbox := rest }) hpeer] at hdone
      have hreply : Reply.failure (.ofExit (read.client.rename flag) status) =
          done.reply.map Result.markup := by
        rw [hdone, show read.client = c.client from h.client]
        rfl
      have hlast := hleads.trans (.client hstep)
      unfold lose at hlast
      rw [hreply] at hlast
      rw [show done.connection = { c with inbox := rest } from congrArg Called.connection hdone]
      exact hread.comesBack_of_finish (hreply ▸ rfl) rfl hlast

lemma request_ne_nil (client : Client) (flag code : Text) : client.request flag code ≠ [] := by
  unfold Client.request requestText
  rw [Text.unlines_append]
  exact List.append_ne_nil_of_right_ne_nil _ (List.cons_ne_nil _ _)

/-- A program that has exited takes no request. -/
lemma comesBack_send_of_exited (h : Mirrors c st) {status : Int}
    (hstatus : Peer.status? c.peer = some status) (flag code : Text) (notes : List Note) :
    let done := c.exchange (c.client.rename flag) (c.client.request flag code) notes
    ComesBack (st.send flag code) st.history (.highlight flag code) (done.reply.map .markup)
      done.connection := by
  intro done
  have hpeer : c.peer = ⟨.exited status⟩ := congrArg Piped.mk (eq_exited_of_status? hstatus)
  have hdone : done = ⟨.failure (.ofExit (c.client.rename flag) status), c, notes⟩ :=
    (exchange_of_exited hpeer h.connectionOpen.1 _ _ notes).trans (explain_of_exited hpeer _ notes)
  obtain ⟨first, rest, hrequest⟩ := List.exists_cons_of_ne_nil (request_ne_nil st.client flag code)
  have hstep : (st.send flag code).clientStep = some (st.lose flag code status) := by
    have hseen : (st.send flag code).status? = some status := h.status?_eq.trans hstatus
    unfold clientStep
    rw [hseen]
    unfold send
    dsimp only
    rw [hrequest]
    rfl
  have hlast := Leads.client hstep
  unfold lose at hlast
  rw [h.client] at hlast
  rw [hdone]
  exact h.comesBack_of_finish rfl rfl hlast

/-- A program that runs reads the request, and the client comes to read what the program wrote. -/
lemma leads_send (h : Mirrors c st) (hserves : Peer.status? c.peer = none) (flag code : Text) :
    let fed := Piped.feedLines c.peer.process
      (Text.lines (Text.unifyBreaks (c.client.request flag code)))
    ∃ st', Leads (st.send flag code) st' ∧ st'.activity = .reading flag code [] ∧
      st'.history = st.history ∧
      Mirrors { c with peer := ⟨fed.2⟩, inbox := c.inbox ++ received fed.1 } st' := by
  intro fed
  have hprocess : st.process.status? = none := (congrArg _ h.process).trans hserves
  let sent : System :=
    { st with
      activity := .reading flag code []
      requests := c.client.request flag code }
  have hput : Leads (st.send flag code) sent := by
    have hrequests : st.requests ++ st.client.request flag code = c.client.request flag code := by
      rw [h.requests hprocess, h.client, List.nil_append]
    have hall := leads_put (st.send flag code) rfl hprocess
    dsimp only [send] at hall
    rw [hrequests] at hall
    exact hall
  -- The program takes its turn when the whole request is on its way.
  obtain ⟨rest, hrest, hserve⟩ :=
    leads_serve sent h.todo h.held (whole_request c.client flag code)
  have hfed : Piped.feedLines sent.process (Text.lines (Text.unifyBreaks sent.requests)) = fed := by
    rw [show sent.process = c.peer.process from h.process]
  rw [hfed] at hrest hserve
  refine ⟨_, hput.trans hserve, rfl, rfl, h.client, rfl, h.todo, rfl, ?_, ?_, hrest, h.inputOpen,
    h.connectionOpen⟩
  · rw [← h.inbox]
    exact Text.rawLines_append_of_whole h.whole fed.1
  · exact h.whole.append (Piped.whole_feedLines _ _)

/-- A program that runs reads all lines that it is sent. -/
lemma send_of_serves {p : Piped} (hserves : Peer.status? p = none) (t : Text) :
    let fed := Piped.feedLines p.process (Text.lines (Text.unifyBreaks t))
    Peer.send p t = some (fed.1, ⟨fed.2⟩) := by
  have hrunning : ¬ (Peer.status? p).isSome = true := by
    rw [hserves]
    exact Bool.false_ne_true
  exact if_neg hrunning

/-- A program that runs is sent a request, and what it writes comes behind what the client did not read
yet. -/
lemma exchange_of_serves {c : Connection Piped} (hopen : c.inputClosed = false)
    (hserves : Peer.status? c.peer = none) (flag request : Text) (notes : List Note) :
    let fed := Piped.feedLines c.peer.process (Text.lines (Text.unifyBreaks request))
    c.exchange flag request notes =
      { c with peer := Piped.mk fed.2, inbox := c.inbox ++ received fed.1 }.readMarkup flag notes := by
  have hclosed : ¬ c.inputClosed = true := fun h => Bool.false_ne_true (hopen.symm.trans h)
  unfold exchange
  rw [if_neg hclosed, send_of_serves hserves]

/-- A call for markup that has to send its request comes back as on the connection. -/
lemma comesBack_send (h : Mirrors c st) (flag code : Text) (notes : List Note) :
    let done := c.exchange (c.client.rename flag) (c.client.request flag code) notes
    ComesBack (st.send flag code) st.history (.highlight flag code) (done.reply.map .markup)
      done.connection := by
  cases hstatus : Peer.status? c.peer with
  | some status => exact h.comesBack_send_of_exited hstatus flag code notes
  | none =>
    obtain ⟨st', hleads, hactivity, hhistory, hmirrors⟩ := h.leads_send hstatus flag code
    rw [exchange_of_serves h.connectionOpen.1 hstatus, ← hhistory]
    exact (hmirrors.comesBack_of_reading hactivity notes).of_leads hleads

/-- A call for the ready line comes back as on the connection. -/
lemma comesBack_waitReady (h : Mirrors c st) :
    ComesBack (st.call .waitReady) st.history .waitReady (c.waitReady.reply.map fun _ => .nothing)
      c.waitReady.connection := by
  have hgreeted : st.client.greeted = c.client.greeted := by rw [h.client]
  unfold System.call
  dsimp only
  rw [hgreeted]
  cases hearlier : c.client.greeted with
  | true =>
    rw [if_pos rfl, waitReady_of_greeted hearlier]
    exact h.comesBack_of_finish rfl rfl (.refl _)
  | false =>
    rw [if_neg Bool.false_ne_true]
    obtain ⟨hreply, hwaits⟩ | ⟨failure, st', hreply, hhistory, hmirrors, hleads⟩ |
      ⟨st', hreply, hhistory, hmirrors, hleads⟩ := h.leads_greeting hearlier .waitReady
    · rw [hreply]
      exact ⟨_, .refl _, .inl ⟨rfl, hwaits⟩⟩
    · rw [hreply]
      exact hmirrors.comesBack_of_finish rfl hhistory hleads
    · rw [hreply]
      exact hmirrors.comesBack_of_finish rfl hhistory hleads

/-- A call for markup comes back as on the connection. -/
lemma comesBack_highlight (h : Mirrors c st) (flag code : Text) :
    let done := c.highlight flag code
    ComesBack (st.call (.highlight flag code)) st.history (.highlight flag code)
      (done.reply.map .markup) done.connection := by
  have hclient : st.client.greeted = c.client.greeted ∧
      st.client.check flag code = c.client.check flag code := by
    rw [h.client]
    exact ⟨rfl, rfl⟩
  unfold System.call Connection.highlight
  dsimp only
  rw [hclient.1, hclient.2]
  cases c.client.check flag code with
  | error cause => exact h.comesBack_of_finish rfl rfl (.refl _)
  | ok _ =>
    dsimp only
    cases hearlier : c.client.greeted with
    | true =>
      rw [if_pos rfl, waitReady_of_greeted hearlier]
      exact h.comesBack_send flag code []
    | false =>
      rw [if_neg Bool.false_ne_true]
      obtain ⟨hreply, hwaits⟩ | ⟨failure, st', hreply, hhistory, hmirrors, hleads⟩ |
        ⟨st', hreply, hhistory, hmirrors, hleads⟩ := h.leads_greeting hearlier (.highlight flag code)
      · rw [hreply]
        exact ⟨_, .refl _, .inl ⟨rfl, hwaits⟩⟩
      · rw [hreply]
        exact hmirrors.comesBack_of_finish rfl hhistory hleads
      · have hsent := hmirrors.comesBack_send flag code c.waitReady.notes
        rw [client_waitReady c, hhistory] at hsent
        rw [hreply]
        exact hsent.of_leads hleads

/-- A call that does not end the session comes back as on the connection. -/
theorem comesBack_call (h : Mirrors c st) (hstays : call ≠ .close) :
    ComesBack (st.call call) st.history call (c.call call).reply (c.call call).connection := by
  cases call with
  | close => exact absurd rfl hstays
  | waitReady => exact h.comesBack_waitReady
  | highlight flag code => exact h.comesBack_highlight flag code
  | returncode =>
    have hreply : (c.call .returncode).reply = .value (.status st.status?) := by
      rw [h.status?_eq]
      rfl
    rw [hreply]
    exact h.comesBack_of_finish rfl rfl (.refl _)

/-- A program whose input is closed exits once it has read everything, and the client is told how. -/
lemma leads_depart (st : System) (hactivity : st.activity = .leaving) (hclosed : st.inputClosed = true)
    (htodo : st.todo = []) (hheld : st.outlet.held = [])
    (hrequests : st.process.status? = none → st.requests = []) :
    ∃ (status : Int) (st' : System), st.process.closeInput.1.status? = some status ∧
      st'.history = st.history ∧ Leads st (st'.depart status) := by
  have hdepart : ∀ {last : System} {status : Int}, last.activity = .leaving →
      last.status? = some status → Leads last (last.depart status) := by
    intro last status hleaving hstatus
    refine .client ?_
    unfold clientStep
    rw [hleaving]
    dsimp only
    rw [hstatus]
    rfl
  cases hprocess : st.process with
  | exited status =>
    have hstatus : st.status? = some status := status?_eq_some_iff.2 ⟨hprocess, htodo, hheld⟩
    exact ⟨status, st, rfl, rfl, hdepart hactivity hstatus⟩
  | serving session =>
    have hempty : st.requests = [] := hrequests (by rw [hprocess]; rfl)
    have hstep : st.serverStep = some (st.readEnd session) := by
      unfold serverStep
      rw [htodo, hprocess, hempty, hclosed]
      rfl
    have hflushed : ((st.readEnd session).todo.outlet (st.readEnd session).outlet).held = [] :=
      (Trace.settled_ofNotes _).flushed _ hheld
    let last : System :=
      { st.readEnd session with
        todo := []
        outlet := (st.readEnd session).todo.outlet (st.readEnd session).outlet }
    have hstatus : last.status? = some (exitStatus .inputClosed) :=
      status?_eq_some_iff.2 ⟨rfl, rfl, hflushed⟩
    exact ⟨_, last, rfl, rfl,
      ((Leads.server hstep).trans (leads_perform _)).trans (hdepart hactivity hstatus)⟩

/-- The session is being ended: the program has done all that it can, and its input is closed. -/
structure Leaving (c : Connection Piped) (st : System) : Prop where
  activity : st.activity = .leaving
  inputClosed : st.inputClosed = true
  todo : st.todo = []
  held : st.outlet.held = []
  requests : st.process.status? = none → st.requests = []
  process : st.process = c.peer.process
  inputOpen : c.inputClosed = false

/-- The client writes the blank line to a program that runs, and closes its input. -/
lemma leads_part (st : System) (hserves : st.process.status? = none) :
    Leads { st with activity := .parting ['\n'] }
      { st with
        activity := .leaving
        requests := st.requests ++ ['\n']
        inputClosed := true } := by
  let parting : System := { st with activity := .parting ['\n'] }
  have hstatus : parting.status? = none := status?_of_serves hserves
  have hput : parting.clientStep = some (parting.put '\n' (.parting [])) := by
    unfold clientStep
    rw [hstatus]
  have hhang : (parting.put '\n' (.parting [])).clientStep =
      some (parting.put '\n' (.parting [])).hangUp := rfl
  exact (Leads.client hput).trans (.client hhang)

/-- A program that runs is sent a blank line before its input is closed. -/
lemma leads_goodbye (h : Mirrors c st) :
    ∃ st', Leads (st.call .close) st' ∧ st'.history = st.history ∧ Leaving c.sayGoodbye st' := by
  have hstatus : st.status? = Peer.status? c.peer := h.status?_eq
  unfold System.call sayGoodbye
  dsimp only
  rw [hstatus]
  cases hexit : Peer.status? c.peer with
  | some status =>
    have hnot : st.process.status? ≠ none := by
      rw [h.process]
      exact fun hnone => nomatch hnone.symm.trans hexit
    exact ⟨_, .refl _, rfl, rfl, rfl, h.todo, h.held, fun hnone => absurd hnone hnot, h.process,
      h.connectionOpen.1⟩
  | none =>
    have hserves : st.process.status? = none := (congrArg _ h.process).trans hexit
    let leaving : System :=
      { st with activity := .leaving, requests := ['\n'], inputClosed := true }
    have hpart : Leads { st with activity := .parting ['\n'] } leaving := by
      have hrequests : st.requests ++ ['\n'] = ['\n'] := by
        rw [h.requests hserves]
        rfl
      have hall := leads_part st hserves
      rw [hrequests] at hall
      exact hall
    obtain ⟨rest, hrest, hserve⟩ := leads_serve leaving h.todo h.held (Text.whole_append_lf [])
    have hfed : Piped.feedLines leaving.process (Text.lines (Text.unifyBreaks leaving.requests)) =
        Piped.feedLines c.peer.process (Text.lines (Text.unifyBreaks ['\n'])) := by
      rw [show leaving.process = c.peer.process from h.process]
    rw [hfed] at hrest hserve
    rw [send_of_serves hexit]
    exact ⟨_, hpart.trans hserve, rfl, rfl, rfl, h.todo, rfl, hrest, rfl, h.connectionOpen.1⟩

/-- On the connection, a program whose input is closed exits, too. -/
lemma reply_closeInput (hopen : c.inputClosed = false) {status : Int}
    (hexits : c.peer.process.closeInput.1.status? = some status) :
    c.closeInput.awaitExit.reply = .value status := by
  have hclosed : c.closeInput.peer = ⟨c.peer.process.closeInput.1⟩ := by
    unfold closeInput
    rw [hopen]
    rfl
  have hawait : Peer.await c.closeInput.peer = (some status, c.closeInput.peer) := by
    rw [hclosed, ← hexits]
    rfl
  unfold awaitExit
  rw [hawait]

/-- A call that ends the session comes back as on the connection. -/
theorem leads_close (h : Mirrors c st) :
    ∃ st' status, Leads (st.call .close) st' ∧ (c.call .close).reply = .value (.status (some status)) ∧
      st'.history = st.history ++ [(.close, (c.call .close).reply)] ∧ st'.activity = .gone := by
  obtain ⟨last, hleads, hhistory, hleaving⟩ := h.leads_goodbye
  obtain ⟨status, st', hexits, hsame, hdeparts⟩ := leads_depart last hleaving.activity
    hleaving.inputClosed hleaving.todo hleaving.held hleaving.requests
  rw [hleaving.process] at hexits
  have hreply : (c.call .close).reply = .value (.status (some status)) := by
    unfold Connection.call Connection.close
    dsimp only
    rw [h.connectionOpen.1, Bool.false_and, if_neg Bool.false_ne_true]
    dsimp only
    rw [reply_closeInput hleaving.inputOpen hexits]
    rfl
  refine ⟨_, status, hleads.trans hdeparts, hreply, ?_, rfl⟩
  rw [hreply, ← hhistory, ← hsame]
  rfl

/-! ## Runs -/

/-- What the program is about to write at first is what it writes at its start. -/
lemma output_todo_launch (there : Installation) (words : List Text) (client : Client) :
    (launch there words client).todo.output = (Process.launch there words).2.stdout := by
  have hwrite : ∀ t : Text, Trace.output [.write t] = t := List.append_nil
  unfold launch
  dsimp only
  split
  · rename_i config logging hplan
    cases hserver : Server.configured there config with
    | error cause =>
      unfold Process.launch
      rw [hplan]
      dsimp only
      rw [hserver]
      rfl
    | ok s =>
      unfold Process.launch
      rw [hplan]
      dsimp only
      rw [hserver]
  · exact hwrite _

/-- A client and the program come to the point at which the connection starts. -/
lemma leads_launched (there : Installation) (words : List Text) (client : Client) :
    ∃ st, Leads (launch there words client) st ∧ st.activity = .idle ∧ st.history = [] ∧
      Mirrors (launched there words client) st := by
  let first := launch there words client
  let opened : System := { first with todo := [], outlet := first.todo.outlet first.outlet }
  -- What a program that exits at once has written is not flushed: its buffer runs over.
  have hall : opened.outlet.sent ++ opened.outlet.held = (Process.launch there words).2.stdout := by
    refine (Trace.sent_append_held {} first.todo).trans ?_
    exact output_todo_launch there words client
  have hleads := (leads_perform first).trans (leads_spill opened)
  refine ⟨_, hleads, rfl, rfl, rfl, rfl, rfl, rfl, ?_, ?_, fun _ => rfl, rfl, rfl, rfl⟩
  · exact congrArg received hall
  · show Text.Whole (opened.outlet.sent ++ opened.outlet.held)
    rw [hall]
    exact Process.whole_launch there words

end Mirrors

end System

namespace Connection

/-- The replies to calls that are made one after another. -/
def replies {π : Type} [Peer π] (c : Connection π) : List Call → List (Reply Result)
  | [] => []
  | call :: rest => (c.call call).reply :: (c.call call).connection.replies rest

end Connection

namespace System

variable {client : Client} {s : Server Cache} {logging : Logging} {c : Connection Piped}
  {st st' : System}

lemma Sound.of_leads (hagrees : Agrees client s) (h : Sound client s logging st)
    (hleads : Leads st st') : Sound client s logging st' := by
  obtain ⟨actions, hrun⟩ := hleads
  exact invariant_after (sound_move hagrees) h hrun

/-- From one point, calls on the connection have the replies that they have in one of the interleavings,
and none of them stalls. -/
lemma leads_replies (hagrees : Agrees client s) {calls : List Call}
    (hlast : .close ∉ calls.dropLast) (hmirrors : Mirrors c st) (hidle : st.activity = .idle)
    (hsound : Sound client s logging st) :
    .stalled ∉ c.replies calls ∧
      ∃ st', Leads st st' ∧ st'.history = st.history ++ calls.zip (c.replies calls) := by
  -- Connection and system are at one point after each call, unless that ends the session.
  induction calls generalizing c st with
  | nil => exact ⟨List.not_mem_nil, st, .refl st, (List.append_nil _).symm⟩
  | cons call rest ih =>
    have hcall : Leads st (st.call call) := .of_act (show st.act (.call call) = _ from if_pos hidle)
    by_cases hcloses : call = .close
    · -- Nothing comes behind the call that ends the session.
      obtain rfl : rest = [] := by
        by_contra hmore
        rw [List.dropLast_cons_of_ne_nil hmore, hcloses] at hlast
        exact hlast List.mem_cons_self
      subst hcloses
      obtain ⟨st', status, hleads, hreply, hhistory, -⟩ := hmirrors.leads_close
      refine ⟨fun hstalled => ?_, st', hcall.trans hleads, hhistory⟩
      rw [replies, replies, hreply] at hstalled
      cases List.mem_singleton.1 hstalled
    · obtain ⟨st', hleads, hcame⟩ := hmirrors.comesBack_call hcloses
      have hturn := hcall.trans hleads
      have hafter := hsound.of_leads hagrees hturn
      obtain ⟨-, hwaits⟩ | ⟨hreply, hhistory, hback, hmirrors'⟩ := hcame
      · -- A call that stalls would have the client and the program wait for each other.
        exact absurd hwaits hafter.not_waits
      · have hrest : .close ∉ rest.dropLast := by
          intro hmem
          cases rest with
          | nil => cases hmem
          | cons next more => exact hlast (List.mem_cons_of_mem call hmem)
        obtain ⟨hreplies, last, hmore, hlater⟩ := ih hrest hmirrors' hback hafter
        refine ⟨fun hstalled => ?_, last, hturn.trans hmore, ?_⟩
        · refine (List.mem_cons.1 hstalled).elim (fun he => ?_) hreplies
          rw [← he] at hreply
          cases hreply
        · rw [hlater, hhistory, List.append_assoc]
          rfl

/-- A client that expects the default markers makes calls of the program, started with any words, and
ends the session with the last one, if at all. Then no call stalls, and the replies are those of one of
the interleavings of the client and the program. -/
theorem leads_replies_launched (there : Installation) (words : List Text) (client : Client)
    (hready : client.config.ready = Config.default.ready)
    (hterminator : client.config.terminator = Config.default.terminator) (calls : List Call)
    (hlast : .close ∉ calls.dropLast) :
    let replies := (launched there words client).replies calls
    .stalled ∉ replies ∧
      ∃ st, Leads (launch there words client) st ∧ st.history = calls.zip replies := by
  intro replies
  obtain ⟨s, logging, hagrees, hlaunch⟩ := exists_sound_launch there words hready hterminator
  obtain ⟨opened, hleads, hidle, hhistory, hmirrors⟩ := Mirrors.leads_launched there words client
  obtain ⟨hstalled, st, hmore, hst⟩ := leads_replies hagrees hlast hmirrors hidle
    (hlaunch.of_leads hagrees hleads)
  refine ⟨hstalled, st, hleads.trans hmore, ?_⟩
  rw [hst, hhistory]
  rfl

/-- A call for markup and the end of the session. -/
example :
    (launched .textOnly [] { config := .default }).replies
        [.highlight "plain".toList "a".toList, .close] =
      [.value (.markup "a\n".toList), .value (.status (some 0))] := by
  decide +kernel

end System
end LineHighlight
