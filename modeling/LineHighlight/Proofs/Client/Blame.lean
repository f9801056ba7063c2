import LineHighlight.Proofs.Client.Framing
import LineHighlight.Proofs.Client.Launch
import LineHighlight.Proofs.Server.Progress

/-!
# Whom a client blames

A server exits with status 1 over a request whose language it does not know, and a client that finds
its server gone with this status blames the language of the call that it is in. That is right for the
call whose request was the end of the server. The server stays gone, though, and so every later call
that passes the check blames its own language too, which the server may well know
(`answer_of_blames`, `unknownLanguage_truthful_iff`).
-/

namespace LineHighlight

/-! ## Processes on their way -/

namespace Piped

open CommandLine

/-- The process of a server whose engine has come to some point: it waits for a declaration, or it has
exited over a request. -/
def standing (s : Server Cache) (logging : Logging) (p : Progress Cache) : Process :=
  match p.failure with
  | none => serving s logging p.memory []
  | some cause => .exited (exitStatus (.ofFailure cause))

/-- A server that waits has come one request further when it has answered it. -/
lemma answered_eq_standing (s : Server Cache) (logging : Logging) (memory : Cache) (r : Request) :
    answered s logging memory r = standing s logging (s.engine.advance ⟨memory, none⟩ r) := by
  unfold answered standing Engine.advance
  dsimp only
  cases s.engine.markup memory r.language r.source <;> rfl

/-- A server has exited with status 1 only over an unknown language. -/
lemma exists_of_status_standing {s : Server Cache} {logging : Logging} {p : Progress Cache}
    (h : (standing s logging p).status? = some 1) :
    ∃ other, p.failure = some (.unknownLanguage other) := by
  unfold standing at h
  cases hfailure : p.failure with
  | none =>
    rw [hfailure] at h
    exact nomatch h
  | some cause =>
    rw [hfailure] at h
    cases cause with
    | unknownLanguage other => exact ⟨other, rfl⟩
    | engine cause =>
      have hstatus : some engineFailedStatus = some 1 := h
      exact absurd hstatus (by decide)

end Piped

/-! ## Calls that blame a language -/

/-- The call comes back with the failure that blames a language. -/
def Called.Blames {π α : Type} (done : Called π α) (language : Text) : Prop :=
  done.reply = .failure (.answer (.unknownLanguage language))

namespace Client

/-- The call passes the check. -/
def accepts (client : Client) (call : Text × Text) : Bool := (client.check call.1 call.2).isOk

/-- The requests that a client sends for some calls: those of the calls that pass the check. -/
def sent (client : Client) (calls : List (Text × Text)) : List Request :=
  client.requests (calls.filter client.accepts)

lemma sent_cons_of_ok {client : Client} {flag code : Text}
    (h : client.check flag code = .ok ()) (calls : List (Text × Text)) :
    client.sent ((flag, code) :: calls) =
      ⟨client.rename flag, Text.unlines (Text.splitCode code)⟩ :: client.sent calls := by
  have hok : client.accepts (flag, code) = true := by
    rw [accepts, h]
    rfl
  unfold sent
  rw [List.filter_cons_of_pos hok]
  rfl

lemma sent_cons_of_error {client : Client} {flag code : Text} {cause : Refusal}
    (h : client.check flag code = .error cause) (calls : List (Text × Text)) :
    client.sent ((flag, code) :: calls) = client.sent calls := by
  have hrefused : ¬ client.accepts (flag, code) = true := by
    rw [accepts, h]
    exact Bool.false_ne_true
  unfold sent
  rw [List.filter_cons_of_neg hrefused]

end Client

namespace Connection

open CommandLine

/-- A peer that exits with status 1 is told of as an unknown language, with any other status as a
breach of protocol. -/
lemma explain_of_exit {π α : Type} [Peer π] {c : Connection π} {status : Int} {peer : π}
    (h : Peer.await c.peer = (some status, peer)) (flag : Text) (notes : List Note) :
    (c.explain flag notes : Called π α) =
      ⟨.failure (if status = 1 then .answer (.unknownLanguage flag) else .protocol (.exited status)),
        { c with peer := peer }, notes⟩ := by
  unfold explain
  rw [h]
  dsimp only
  split
  · rename_i hnone
    exact nomatch hnone
  · rename_i hone
    rw [if_pos (Option.some.inj hone)]
  · rename_i n hn hsome
    have hstatus : status = n := Option.some.inj hsome
    rw [hstatus, if_neg hn]

/-- The same for the program, if it has exited before. -/
lemma explain_of_exited {α : Type} {c : Connection Piped} {status : Int}
    (h : c.peer = ⟨.exited status⟩) (flag : Text) (notes : List Note) :
    (c.explain flag notes : Called Piped α) =
      ⟨.failure (if status = 1 then .answer (.unknownLanguage flag) else .protocol (.exited status)),
        c, notes⟩ := by
  have hexit : Peer.await c.peer = (some status, c.peer) := by
    rw [h]
    rfl
  exact explain_of_exit hexit flag notes

/-- The output of the program has ended only if it has exited. -/
lemma exists_of_isEnded {peer : Piped} (h : Peer.isEnded peer = true) :
    ∃ status, peer = ⟨.exited status⟩ := by
  obtain ⟨process⟩ := peer
  cases process with
  | serving session => exact nomatch h
  | exited status => exact ⟨status, rfl⟩

/-- Reading an answer leaves everything but the inbox as it is. If it blames a language, it is that of
the call, and the server has exited with status 1. -/
lemma readMarkup_blames (c : Connection Piped) (flag : Text) (notes : List Note) :
    (∃ rest, (c.readMarkup flag notes).connection = { c with inbox := rest }) ∧
      ∀ language, (c.readMarkup flag notes).Blames language →
        language = flag ∧ c.peer.process.status? = some 1 := by
  unfold readMarkup Called.Blames
  obtain ⟨found, rest⟩ := readAnswer c.client.config.terminator [] c.inbox
  cases found with
  | some markup => exact ⟨⟨rest, rfl⟩, fun _ h => nomatch h⟩
  | none =>
    dsimp only
    by_cases hended : Peer.isEnded c.peer = true
    · obtain ⟨status, hpeer⟩ := exists_of_isEnded hended
      rw [if_pos hended, explain_of_exited (c := { c with inbox := rest }) hpeer]
      refine ⟨⟨rest, rfl⟩, fun language h => ?_⟩
      have hfailure := Reply.failure.inj h
      split at hfailure
      · rename_i hstatus
        have hlanguage := AnswerFailure.unknownLanguage.inj (Failure.answer.inj hfailure)
        rw [hpeer, hstatus]
        exact ⟨hlanguage.symm, rfl⟩
      · exact nomatch hfailure
    · -- The server still runs, so that the call waits for the rest of the answer.
      rw [if_neg hended]
      exact ⟨⟨rest, rfl⟩, fun _ h => nomatch h⟩

/-- A call to a server that has exited, with the pipes open, sends nothing and tells of its exit. -/
lemma exchange_of_exited {c : Connection Piped} {status : Int} (h : c.peer = ⟨.exited status⟩)
    (hopen : c.inputClosed = false) (flag request : Text) (notes : List Note) :
    c.exchange flag request notes = c.explain flag notes := by
  have hsend : Peer.send c.peer request = none := by
    rw [h]
    rfl
  unfold exchange
  rw [hopen, if_neg Bool.false_ne_true, hsend]

/-! ## One call -/

/-- A client that is attached to a server whose engine has come to some point. -/
def Follows (client : Client) (s : Server Cache) (logging : Logging) (p : Progress Cache)
    (c : Connection Piped) : Prop :=
  ∃ unread, Attached client s (⟨Piped.standing s logging p⟩ : Piped) unread c

variable {client : Client} {s : Server Cache} {logging : Logging} {p : Progress Cache}
  {c : Connection Piped}

/-- A client that has read the ready line is attached. -/
lemma follows_onceGreeted (client : Client) (s : Server Cache) (logging : Logging)
    (p : Progress Cache) (unread : List Text) :
    Follows client s logging p (onceGreeted client ⟨Piped.standing s logging p⟩ unread) :=
  ⟨unread, rfl, rfl, rfl, rfl, rfl⟩

/-- A call that passes the check while the server waits takes the server one request further. If it
blames a language, it is its own, and the server has exited over an unknown language. -/
lemma highlight_of_waiting (h : Follows client s logging p c)
    (hready : client.config.ready = s.config.ready) (hp : p.failure = none) {flag code : Text}
    (hcheck : client.check flag code = .ok ()) :
    let after := s.engine.advance p ⟨client.rename flag, Text.unlines (Text.splitCode code)⟩
    Follows client s logging after (c.highlight flag code).connection ∧
      ∀ language, (c.highlight flag code).Blames language →
        language = client.rename flag ∧ ∃ other, after.failure = some (.unknownLanguage other) := by
  intro after
  obtain ⟨unread, hattached⟩ := h
  obtain ⟨memory, failure⟩ := p
  dsimp only at hp
  subst hp
  -- The server takes the request, and the client reads while the server waits or is gone.
  have hcall : c.highlight flag code = _ :=
    (highlight_of_attached hattached hready hcheck).trans (exchange_serving hcheck unread _)
  rw [hcall, Piped.answered_eq_standing]
  obtain ⟨⟨rest, hconnection⟩, hblames⟩ := readMarkup_blames
    (onceGreeted client (⟨Piped.standing s logging after⟩ : Piped)
      (unread ++ received (Engine.written s.config.terminator
        (s.engine.markup memory (client.rename flag) (Text.unlines (Text.splitCode code))))))
    (client.rename flag) c.waitReady.notes
  refine ⟨?_, fun language hlanguage => ?_⟩
  · rw [hconnection]
    exact follows_onceGreeted client s logging after rest
  · obtain ⟨hflag, hstatus⟩ := hblames language hlanguage
    exact ⟨hflag, Piped.exists_of_status_standing hstatus⟩

/-- A call that passes the check once the server is gone comes back with the failure that the exit
status stands for, whatever its language. -/
lemma highlight_of_gone (h : Follows client s logging p c)
    (hready : client.config.ready = s.config.ready) {cause : AnswerFailure}
    (hp : p.failure = some cause) {flag code : Text} (hcheck : client.check flag code = .ok ()) :
    Follows client s logging p (c.highlight flag code).connection ∧
      (c.highlight flag code).reply = .failure (failureOf (client.rename flag) cause) := by
  obtain ⟨unread, hattached⟩ := h
  have hpeer : (onceGreeted client (⟨Piped.standing s logging p⟩ : Piped) unread).peer =
      ⟨.exited (exitStatus (.ofFailure cause))⟩ := by
    show (⟨Piped.standing s logging p⟩ : Piped) = _
    rw [Piped.standing, hp]
  rw [highlight_of_attached hattached hready hcheck, exchange_of_exited hpeer rfl,
    explain_of_exited hpeer]
  refine ⟨follows_onceGreeted client s logging p unread, ?_⟩
  cases cause <;> rfl

/-- A call that passes the check takes the server one request further, if it is not gone. -/
theorem follows_highlight (h : Follows client s logging p c)
    (hready : client.config.ready = s.config.ready) {flag code : Text}
    (hcheck : client.check flag code = .ok ()) :
    Follows client s logging
      (s.engine.advance p ⟨client.rename flag, Text.unlines (Text.splitCode code)⟩)
      (c.highlight flag code).connection := by
  cases hp : p.failure with
  | none => exact (highlight_of_waiting h hready hp hcheck).1
  | some cause =>
    rw [Engine.advance_of_failure hp]
    exact (highlight_of_gone h hready hp hcheck).1

/-- A call that does not pass the check changes nothing and blames nobody. -/
lemma highlight_of_refused {π : Type} [Peer π] {d : Connection π}
    (hclient : d.client = { client with greeted := d.client.greeted }) {flag code : Text}
    {cause : Refusal} (hcheck : client.check flag code = .error cause) :
    (d.highlight flag code).connection = d ∧
      (d.highlight flag code).reply = .failure (.refused cause) := by
  have hsame : d.client.check flag code = .error cause := by
    rw [hclient]
    exact hcheck
  unfold highlight
  rw [hsame]
  exact ⟨rfl, rfl⟩

/-! ## Runs of calls -/

/-- The call with some number is made when the server has taken the requests of the calls before it.
The induction is on the calls. -/
lemma exists_follows_of_getElem? (hready : client.config.ready = s.config.ready)
    {calls : List (Text × Text)} (h : Follows client s logging p c) {i : Nat} {flag code : Text}
    (hcall : calls[i]? = some (flag, code)) :
    ∃ before : Connection Piped,
      Follows client s logging (s.engine.progress p (client.sent (calls.take i))) before ∧
        (c.highlights calls)[i]? = some (before.highlight flag code) := by
  induction calls generalizing i p c with
  | nil => exact nomatch hcall
  | cons call rest ih =>
    obtain ⟨first, source⟩ := call
    cases i with
    | zero =>
      obtain ⟨rfl, rfl⟩ := Prod.mk.inj (Option.some.inj hcall)
      exact ⟨c, h, rfl⟩
    | succ i =>
      have hrest : rest[i]? = some (flag, code) := hcall
      have hrun : (c.highlights ((first, source) :: rest))[i + 1]? =
          ((c.highlight first source).connection.highlights rest)[i]? := rfl
      rw [hrun, List.take_succ_cons]
      cases hcheck : client.check first source with
      | error cause =>
        -- Nothing is sent, and the connection is as it was.
        obtain ⟨unread, hattached⟩ := h
        rw [Client.sent_cons_of_error hcheck, (highlight_of_refused hattached.client hcheck).1]
        exact ih ⟨unread, hattached⟩ hrest
      | ok _ =>
        rw [Client.sent_cons_of_ok hcheck]
        exact ih (follows_highlight h hready hcheck) hrest

/-- A call that blames a language blames its own. The server has no scope for it, or an unknown
language was the end of the server before. -/
theorem answer_of_blames (hready : client.config.ready = s.config.ready)
    (h : Follows client s logging p c) {calls : List (Text × Text)} {i : Nat}
    {done : Called Piped Text} (hdone : (c.highlights calls)[i]? = some done) {language : Text}
    (hblames : done.Blames language) :
    let before := s.engine.progress p (client.sent (calls.take i))
    ∃ flag code, calls[i]? = some (flag, code) ∧ client.check flag code = .ok () ∧
      language = client.rename flag ∧
      (s.engine.registry.answer before.memory language = .ok none ∨
        ∃ other, before.failure = some (.unknownLanguage other)) := by
  intro before
  have hlt : i < calls.length := by
    obtain ⟨hi, -⟩ := List.getElem?_eq_some_iff.1 hdone
    rw [length_highlights] at hi
    exact hi
  obtain ⟨flag, code, hcall⟩ : ∃ flag code, calls[i]? = some (flag, code) :=
    ⟨calls[i].1, calls[i].2, List.getElem?_eq_getElem hlt⟩
  obtain ⟨d, hd, hmade⟩ := exists_follows_of_getElem? hready h hcall
  have hsame : done = d.highlight flag code := Option.some.inj (hdone.symm.trans hmade)
  rw [hsame] at hblames
  cases hcheck : client.check flag code with
  | error cause =>
    obtain ⟨unread, hattached⟩ := hd
    have hreply := (highlight_of_refused hattached.client hcheck).2
    exact nomatch hblames.symm.trans hreply
  | ok _ =>
    cases hp : before.failure with
    | none =>
      -- The server has exited over the request of this very call.
      obtain ⟨rfl, other, hother⟩ := (highlight_of_waiting hd hready hp hcheck).2 language hblames
      exact ⟨flag, code, hcall, hcheck, rfl, .inl (Engine.answer_of_advance hp hother)⟩
    | some cause =>
      have hreply := hblames.symm.trans (highlight_of_gone hd hready hp hcheck).2
      cases cause with
      | unknownLanguage other =>
        have hlanguage : language = client.rename flag :=
          AnswerFailure.unknownLanguage.inj (Failure.answer.inj (Reply.failure.inj hreply))
        exact ⟨flag, code, hcall, hcheck, hlanguage, .inr ⟨other, rfl⟩⟩
      | engine cause => exact nomatch hreply

/-! ## Programs that open no session -/

/-- To wait for the ready line leaves the peer as it is and blames no language. -/
lemma waitReady_peer {π : Type} [Peer π] (d : Connection π) :
    d.waitReady.connection.peer = d.peer ∧
      ∀ cause, d.waitReady.reply ≠ .failure (.answer cause) := by
  unfold waitReady
  split
  · exact ⟨rfl, nofun⟩
  · split
    · exact ⟨rfl, nofun⟩
    · split
      · split <;> exact ⟨rfl, nofun⟩
      · dsimp only
        split <;> exact ⟨rfl, nofun⟩

/-- A call of a client that is not greeted sends nothing and blames no language. -/
lemma highlight_of_waitReady_ne {π : Type} [Peer π] {d : Connection π}
    (h : d.waitReady.reply ≠ .value ()) (flag code : Text) :
    ((d.highlight flag code).connection = d ∨
        (d.highlight flag code).connection = d.waitReady.connection) ∧
      ∀ language, ¬ (d.highlight flag code).Blames language := by
  obtain ⟨-, hanswer⟩ := waitReady_peer d
  unfold highlight Called.Blames
  split
  · exact ⟨.inl rfl, fun _ => nofun⟩
  · dsimp only
    cases hreply : d.waitReady.reply with
    | value done => exact absurd hreply h
    | failure cause =>
      refine ⟨.inr rfl, fun language hblames => ?_⟩
      rw [Reply.failure.inj hblames] at hreply
      exact hanswer _ hreply
    | stalled => exact ⟨.inr rfl, fun _ => nofun⟩

/-- A client that no line greets stays so, and its calls blame no language. -/
lemma highlight_of_ungreetable {π : Type} [Peer π] {d : Connection π} (h : Ungreetable d)
    (flag code : Text) :
    Ungreetable (d.highlight flag code).connection ∧
      ∀ language, ¬ (d.highlight flag code).Blames language := by
  obtain ⟨hwaited, hafter⟩ := waitReady_of_ungreetable h
  obtain ⟨hsame | hsame, hblames⟩ := highlight_of_waitReady_ne hwaited flag code
  · rw [hsame]
    exact ⟨h, hblames⟩
  · rw [hsame]
    exact ⟨hafter, hblames⟩

/-- No call of a client that no line greets blames a language. -/
lemma not_blames_of_ungreetable {π : Type} [Peer π] {d : Connection π} (h : Ungreetable d)
    (calls : List (Text × Text)) :
    ∀ done ∈ d.highlights calls, ∀ language, ¬ done.Blames language :=
  forall_mem_highlights (P := Ungreetable) (Q := fun done => ∀ language, ¬ done.Blames language)
    (fun _ flag code hd => highlight_of_ungreetable hd flag code) h calls

/-- What is asked of a program that has exited with any status but 1 blames no language. -/
lemma exchange_of_status_ne {d : Connection Piped} {status : Int} (hstatus : status ≠ 1)
    (h : d.peer = ⟨.exited status⟩) (flag request : Text) (notes : List Note) :
    (d.exchange flag request notes).connection = d ∧
      ∀ language, ¬ (d.exchange flag request notes).Blames language := by
  cases hopen : d.inputClosed with
  | true =>
    unfold exchange
    rw [hopen]
    exact ⟨rfl, fun _ => nofun⟩
  | false =>
    rw [exchange_of_exited h hopen, explain_of_exited h, if_neg hstatus]
    exact ⟨rfl, fun _ => nofun⟩

/-- A program that has exited with any status but 1 stays so, and calls to it blame no language. -/
lemma highlight_of_status_ne {d : Connection Piped} {status : Int} (hstatus : status ≠ 1)
    (h : d.peer = ⟨.exited status⟩) (flag code : Text) :
    (d.highlight flag code).connection.peer = ⟨.exited status⟩ ∧
      ∀ language, ¬ (d.highlight flag code).Blames language := by
  have hpeer : d.waitReady.connection.peer = ⟨.exited status⟩ := (waitReady_peer d).1.trans h
  by_cases hwaited : d.waitReady.reply = .value ()
  · unfold highlight
    split
    · exact ⟨h, fun _ => nofun⟩
    · dsimp only
      rw [hwaited]
      dsimp only
      obtain ⟨hsame, hblames⟩ := exchange_of_status_ne hstatus hpeer (d.client.rename flag)
        (d.client.request flag code) d.waitReady.notes
      rw [hsame]
      exact ⟨hpeer, hblames⟩
  · obtain ⟨hsame | hsame, hblames⟩ := highlight_of_waitReady_ne hwaited flag code
    · rw [hsame]
      exact ⟨h, hblames⟩
    · rw [hsame]
      exact ⟨hpeer, hblames⟩

/-- No call to a program that has exited with any status but 1 blames a language. -/
lemma not_blames_of_status_ne {d : Connection Piped} {status : Int} (hstatus : status ≠ 1)
    (h : d.peer = ⟨.exited status⟩) (calls : List (Text × Text)) :
    ∀ done ∈ d.highlights calls, ∀ language, ¬ done.Blames language :=
  forall_mem_highlights (P := fun d => d.peer = ⟨.exited status⟩)
    (Q := fun done => ∀ language, ¬ done.Blames language)
    (fun _ flag code hd => highlight_of_status_ne hstatus hd flag code) h calls

/-- A program that exits with status 1 at its start has written nothing. -/
lemma opening_of_status {there : Installation} {words : List Text}
    (h : (Piped.launch there words).1.process.status? = some 1) :
    (Piped.launch there words).2 = [] := by
  have hne : ∀ status : Int, status ≠ 1 → some status = some 1 → False :=
    fun _ hstatus hsome => hstatus (Option.some.inj hsome)
  unfold Piped.launch Process.launch at h ⊢
  cases hplan : plan words with
  | error halt =>
    rw [hplan] at h
    cases halt with
    | refused cause => exact (hne usageStatus (by decide) h).elim
    | crash cause => rfl
  | ok planned =>
    rw [hplan] at h
    cases planned with
    | help => exact (hne 0 (by decide) h).elim
    | version => exact (hne 0 (by decide) h).elim
    | listLanguages => exact (hne 0 (by decide) h).elim
    | fail logging => exact (hne engineFailedStatus (by decide) h).elim
    | serve config logging =>
      dsimp only at h ⊢
      cases hserver : Server.configured there config with
      | error cause => rfl
      | ok s =>
        rw [hserver] at h
        dsimp only at h ⊢
        cases hending : (s.start []).ending with
        | none =>
          rw [Process.ofStep, hending] at h
          exact nomatch h
        | some ending => exact Server.output_start_of_some hending

/-- A client of a program that has exited at its start blames no language. -/
lemma not_blames_of_isEnded {there : Installation} {words : List Text}
    (hclient : client.greeted = false) (hended : Peer.isEnded (Piped.launch there words).1 = true)
    (calls : List (Text × Text)) :
    ∀ done ∈ (launched there words client).highlights calls, ∀ language, ¬ done.Blames language := by
  obtain ⟨status, hlaunch⟩ := exists_of_isEnded hended
  by_cases hone : status = 1
  · -- Nothing was written that the client could take for the ready line.
    have hstatus : (Piped.launch there words).1.process.status? = some 1 := by
      rw [hlaunch, hone]
      rfl
    have hinbox : (launched there words client).inbox = [] := by
      show received (Piped.launch there words).2 = []
      rw [opening_of_status hstatus]
      rfl
    have hungreetable : Ungreetable (launched there words client) := by
      refine ⟨hclient, fun line hline => ?_⟩
      rw [hinbox] at hline
      exact absurd hline List.not_mem_nil
    exact not_blames_of_ungreetable hungreetable calls
  · have hpeer : (launched there words client).peer = ⟨.exited status⟩ := hlaunch
    exact not_blames_of_status_ne hone hpeer calls

/-! ## Who is to blame -/

/-- A client that expects another ready line than that of its server blames no language. -/
lemma not_blames_of_ready_ne {memory : Cache} (h : InStep client s logging memory c)
    (hgreeted : c.client.greeted = false) (hready : client.config.ready ≠ s.config.ready)
    (calls : List (Text × Text)) :
    ∀ done ∈ c.highlights calls, ∀ language, ¬ done.Blames language := by
  have hungreetable : Ungreetable c := by
    refine ⟨hgreeted, fun line hline => ?_⟩
    rw [h.inbox, hgreeted, if_neg Bool.false_ne_true, List.mem_singleton] at hline
    rw [hline, Server.readyLine, Text.chomp_append_lf s.config.ready_oneLine, h.client]
    exact hready.symm
  exact not_blames_of_ungreetable hungreetable calls

/-- A run of a client that is attached blames only languages without a scope exactly if no call that
passes the check asks for another one after an unknown language was the end of the server. -/
lemma truthful_iff_of_follows (hready : client.config.ready = s.config.ready)
    (h : Follows client s logging p c) (calls : List (Text × Text)) :
    let before := fun i => s.engine.progress p (client.sent (calls.take i))
    (∀ i done language, (c.highlights calls)[i]? = some done → done.Blames language →
        s.engine.registry.answer (before i).memory language = .ok none) ↔
      ∀ i flag code other, calls[i]? = some (flag, code) → client.check flag code = .ok () →
        (before i).failure = some (.unknownLanguage other) →
        s.engine.registry.answer (before i).memory (client.rename flag) = .ok none := by
  intro before
  constructor
  · intro htruthful i flag code other hcall hcheck hgone
    obtain ⟨d, hd, hmade⟩ := exists_follows_of_getElem? hready h hcall
    exact htruthful i _ _ hmade (highlight_of_gone hd hready hgone hcheck).2
  · intro hknown i done language hdone hblames
    obtain ⟨flag, code, hcall, hcheck, rfl, hanswer | ⟨other, hgone⟩⟩ :=
      answer_of_blames hready h hdone hblames
    · exact hanswer
    · exact hknown i flag code other hcall hcheck hgone

/-- A client whose server is the program, started with any words, makes calls one after another and
goes on after those that fail. If the program opens a session and the client expects its ready line,
no language with a scope is blamed exactly if no call that passes the check asks for one after an
unknown language was the end of the server. A client that expects another line, or a program that
opens no session, leads to no blame at all. -/
theorem unknownLanguage_truthful_iff (there : Installation) (words : List Text) (settings : Config)
    (renames : Table) (calls : List (Text × Text)) :
    let client : Client := { config := settings, renames := renames }
    let run := (launched there words client).highlights calls
    (∀ (s : Server Cache) (logging : Logging), plan words = .ok (.serve s.config logging) →
      Server.configured there s.config = .ok s → (s.start []).ending = none →
      let warm := s.engine.registry.remember [] s.config.aliases.keys
      let before := fun i => s.engine.progress ⟨warm, none⟩ (client.sent (calls.take i))
      ((∀ i done language, run[i]? = some done → done.Blames language →
          s.engine.registry.answer (before i).memory language = .ok none) ↔
        (settings.ready = s.config.ready →
          ∀ i flag code other, calls[i]? = some (flag, code) → client.check flag code = .ok () →
            (before i).failure = some (.unknownLanguage other) →
            s.engine.registry.answer (before i).memory (client.rename flag) = .ok none))) ∧
    (Peer.isEnded (Piped.launch there words).1 = true →
      ∀ done ∈ run, ∀ language, ¬ done.Blames language) := by
  intro client run
  constructor
  · intro s logging hplan hserver hopened warm before
    have hstep : InStep client s logging warm (launched there words client) :=
      inStep_of_opened hplan hserver hopened rfl
    by_cases hready : settings.ready = s.config.ready
    · have hfollows : Follows client s logging ⟨warm, none⟩ (launched there words client) :=
        ⟨[], hstep.attached⟩
      rw [forall_prop_of_true hready]
      exact truthful_iff_of_follows hready hfollows calls
    · -- Both sides hold: nobody is blamed, and the right side does not ask for anything.
      have hnone := not_blames_of_ready_ne hstep rfl hready calls
      refine ⟨fun _ hsame => absurd hsame hready, fun _ i done language hdone hblames => ?_⟩
      exact absurd hblames (hnone done (List.mem_of_getElem? hdone) language)
  · intro hended
    exact not_blames_of_isEnded rfl hended calls

/-- A language that nobody knows is blamed rightly also when the server is gone, and a call that does
not pass the check blames none. -/
theorem unknownLanguage_textOnly_truthful :
    let client : Client := { config := .default }
    let calls := [("nope".toList, "a".toList), ("plain".toList, "\x04".toList),
      ("nada".toList, "b".toList)]
    let run := (launched .textOnly [] client).highlights calls
    let s := Server.ofCatalogue .textOnly .default
    let warm := s.engine.registry.remember [] s.config.aliases.keys
    run.map (·.reply) =
        [.failure (.answer (.unknownLanguage "nope".toList)),
          .failure (.refused (.terminatorInCode "\x04".toList)),
          .failure (.answer (.unknownLanguage "nada".toList))] ∧
      ∀ i done language, run[i]? = some done → done.Blames language →
        s.engine.registry.answer
          (s.engine.progress ⟨warm, none⟩ (client.sent (calls.take i))).memory language =
            .ok none := by
  intro client calls run s warm
  have hopened : (s.start []).ending = none :=
    (s.start_of_neverFails [] (Registry.neverFails_ofCatalogue Installation.rated_textOnly)).1
  have htruthful := (unknownLanguage_truthful_iff .textOnly [] .default .empty calls).1 s
    ⟨[.own], 30⟩ plan_nil (Server.configured_eq rfl) hopened
  refine ⟨by decide +kernel, htruthful.2 fun _ i flag code other hcall hcheck hgone => ?_⟩
  match i with
  | 0 => exact nomatch hgone
  | 1 =>
    obtain ⟨rfl, rfl⟩ := Prod.mk.inj (Option.some.inj hcall)
    have hrefused : (client.check "plain".toList "\x04".toList).isOk = false := by decide +kernel
    rw [hcheck] at hrefused
    exact nomatch hrefused
  | 2 =>
    obtain ⟨rfl, rfl⟩ := Prod.mk.inj (Option.some.inj hcall)
    exact Registry.answer_of_supports (eq_ok_of_toOption (by decide +kernel))
  | i + 3 => exact nomatch hcall

/-- After an unknown language a language that the server knows, and would know on a fresh start, is
blamed. -/
theorem known_language_blamed :
    let client : Client := { config := .default }
    let calls := [("nope".toList, "a".toList), ("plain".toList, "a".toList)]
    let registry := (Engine.ofCatalogue .textOnly .default).registry
    let warm := registry.remember [] Config.default.aliases.keys
    ((launched .textOnly [] client).highlights calls).map (·.reply) =
        [.failure (.answer (.unknownLanguage "nope".toList)),
          .failure (.answer (.unknownLanguage "plain".toList))] ∧
      registry.supports (registry.remember warm ["nope".toList]) "plain".toList = .ok true ∧
      registry.supports [] "plain".toList = .ok true := by
  intro client calls registry warm
  exact ⟨by decide +kernel, eq_ok_of_toOption (by decide +kernel),
    eq_ok_of_toOption (by decide +kernel)⟩

end Connection
end LineHighlight
