import LineHighlight.Client.Basic
import LineHighlight.Client.Peer
import LineHighlight.Log.Note

/-!
# Connections

A client together with its peer and the lines on the way from the peer to the client. The calls that
a user of the client can make are here.
-/

namespace LineHighlight

/-! ## Replies -/

/-- How a call comes back. -/
inductive Reply (α : Type) where
  | value (a : α)
  | failure (f : Failure)
  /-- It waits for a line that never comes. -/
  | stalled
  deriving DecidableEq, Repr

/-- The reply with `f` applied to its value. -/
def Reply.map {α β : Type} (f : α → β) : Reply α → Reply β
  | .value a => .value (f a)
  | .failure e => .failure e
  | .stalled => .stalled

/-- A client, its peer, the lines that the peer wrote and the client did not read yet, and which ends
of the pipes the client has closed. -/
structure Connection (π : Type) where
  client : Client
  peer : π
  inbox : List Text
  inputClosed : Bool := false
  outputClosed : Bool := false

/-- What a call comes to. -/
structure Called (π α : Type) where
  reply : Reply α
  connection : Connection π
  notes : List Note := []

namespace Connection

variable {π : Type} [Peer π]

/-- The command that starts a server with the given interpreter and further arguments. -/
def defaultCommand (interpreter : Text) (extra : List Text) : List Text :=
  interpreter :: "-m".toList :: "hlserve".toList :: extra

/-- The lines of a text on its way to the client, where any kind of line break ends a line. -/
def received (t : Text) : List Text := Text.rawLines (Text.unifyBreaks t)

/-- A client connected to a peer that has written `opening` so far. -/
def connect (client : Client) (peer : π) (opening : Text) : Connection π :=
  { client := client, peer := peer, inbox := received opening }

/-! ## The two failure paths -/

/-- Finds out why the peer is gone: status 1 tells of an unknown language, any other status breaks
the protocol. -/
def explain {α : Type} (c : Connection π) (flag : Text) (notes : List Note) : Called π α :=
  let (status, peer) := Peer.await c.peer
  let failure : Failure := match status with
    | none => .timedOut (Peer.command c.peer)
    | some 1 => .answer (.unknownLanguage flag)
    | some n => .protocol (.exited n)
  ⟨.failure failure, { c with peer := peer }, notes⟩

/-! ## Calls -/

/-- Waits for the ready line, unless it was read before. -/
def waitReady (c : Connection π) : Called π Unit :=
  if c.client.greeted then ⟨.value (), c, []⟩
  else if c.outputClosed then ⟨.failure (.refused .closedPipe), c, []⟩
  else
    match c.inbox with
    | [] =>
      if Peer.isEnded c.peer then ⟨.failure (.protocol .exitedBeforeReady), c, []⟩
      else ⟨.stalled, c, []⟩
    | line :: rest =>
      let c := { c with inbox := rest }
      match c.client.greet line with
      | .ok client => ⟨.value (), { c with client := client }, [.connected]⟩
      | .error cause => ⟨.failure (.protocol cause), c, []⟩

/-- Reads the answer to a request that was sent. -/
def readMarkup (c : Connection π) (flag : Text) (notes : List Note) : Called π Text :=
  match readAnswer c.client.config.terminator [] c.inbox with
  | (some markup, rest) => ⟨.value markup, { c with inbox := rest }, notes⟩
  | (none, rest) =>
    let c := { c with inbox := rest }
    if Peer.isEnded c.peer then c.explain flag notes else ⟨.stalled, c, notes⟩

/-- Sends a text and reads the answer to it. -/
def exchange (c : Connection π) (flag request : Text) (notes : List Note) : Called π Text :=
  if c.inputClosed then ⟨.failure (.refused .closedPipe), c, notes⟩
  else
    match Peer.send c.peer request with
    | none => c.explain flag notes
    | some (answer, peer) =>
      { c with peer := peer, inbox := c.inbox ++ received answer }.readMarkup flag notes

/-- Has code highlighted as the language of a flag. -/
def highlight (c : Connection π) (flag code : Text) : Called π Text :=
  match c.client.check flag code with
  | .error cause => ⟨.failure (.refused cause), c, []⟩
  | .ok () =>
    let waited := c.waitReady
    match waited.reply with
    | .value () =>
      waited.connection.exchange (c.client.rename flag) (c.client.request flag code) waited.notes
    | .failure f => ⟨.failure f, waited.connection, waited.notes⟩
    | .stalled => ⟨.stalled, waited.connection, waited.notes⟩

/-- Asks a peer that still runs to end the session, by a blank line. A broken pipe is no matter. -/
def sayGoodbye (c : Connection π) : Connection π :=
  if (Peer.status? c.peer).isSome then c
  else
    match Peer.send c.peer ['\n'] with
    | none => c
    | some (answer, peer) => { c with peer := peer, inbox := c.inbox ++ received answer }

/-- Closes the peer's input, unless that is closed. -/
def closeInput (c : Connection π) : Connection π :=
  if c.inputClosed then c
  else
    let (answer, peer) := Peer.closeInput c.peer
    { c with peer := peer, inbox := c.inbox ++ received answer, inputClosed := true }

/-- Waits for the peer's exit, and kills it if it does not exit in time. -/
def awaitExit (c : Connection π) : Called π Int :=
  match Peer.await c.peer with
  | (some status, peer) => ⟨.value status, { c with peer := peer }, []⟩
  | (none, peer) =>
    match Peer.await (Peer.kill peer) with
    | (some status, peer) => ⟨.value status, { c with peer := peer }, [.killed]⟩
    | (none, peer) => ⟨.stalled, { c with peer := peer }, [.killed]⟩

/-- Ends the session and waits for the peer's exit. -/
def close (c : Connection π) : Called π Int :=
  -- Only a peer that still runs is sent a blank line, and only that needs the pipe.
  if c.inputClosed && (Peer.status? c.peer).isNone then ⟨.failure (.refused .closedPipe), c, []⟩
  else
    let done := c.sayGoodbye.closeInput.awaitExit
    { done with connection := { done.connection with outputClosed := true } }

/-! ## Calls as data -/

/-- A call that a user of a client can make. -/
inductive Call where
  | waitReady
  | highlight (flag code : Text)
  | close
  /-- Asks for the exit status. -/
  | returncode
  deriving DecidableEq, Repr

/-- What a call gives back. -/
inductive Result where
  | nothing
  | markup (t : Text)
  | status (s : Option Int)
  deriving DecidableEq, Repr

/-- Makes a call. -/
def call (c : Connection π) : Call → Called π Result
  | .waitReady =>
    let done := c.waitReady
    ⟨done.reply.map fun _ => .nothing, done.connection, done.notes⟩
  | .highlight flag code =>
    let done := c.highlight flag code
    ⟨done.reply.map .markup, done.connection, done.notes⟩
  | .close =>
    let done := c.close
    ⟨done.reply.map fun s => .status (some s), done.connection, done.notes⟩
  | .returncode => ⟨.value (.status (Peer.status? c.peer)), c, []⟩

end Connection
end LineHighlight
