import LineHighlight.Answer

/-!
# The server

A session over lines of input. The server announces that it is ready, then reads line after line and
answers each request as soon as its last line is read, until the session ends. One step of the
session is `Server.feed`; `Server.run` makes the steps of a whole input.
-/

namespace LineHighlight

/-! ## Input -/

/-- The lines that a server will be handed, each with its terminator, and whether reading on after
them is interrupted instead of reaching the end of the input. -/
structure Input where
  lines : List Text
  interrupted : Bool := false
  deriving DecidableEq, Repr

namespace Input

/-- The input that holds a text. -/
def ofText (t : Text) : Input := { lines := Text.rawLines t }

/-- The input of which the read with the given number, counted from zero, is interrupted. -/
def interruptAt (i : Input) (index : Nat) : Input :=
  if index ≤ i.lines.length then ⟨i.lines.take index, true⟩ else i

end Input

/-! ## Sessions -/

/-- Why a session is over. -/
inductive Ending where
  /-- The engine failed on a grammar to be loaded ahead; no line was read. -/
  | notOpened (cause : EngineFailure)
  /-- A blank line came while no language was declared. -/
  | sessionEnd
  | inputClosed
  | unknownLanguage (flag : Text)
  | engineFailed (cause : EngineFailure)
  | interrupted
  deriving DecidableEq, Repr

/-- The exit status of a session that ended in the regular way or by an unknown language. -/
def Ending.status? : Ending → Option Nat
  | sessionEnd | inputClosed => some 0
  | unknownLanguage _ => some 1
  | notOpened _ | engineFailed _ | interrupted => none

/-- Settings and an engine. -/
structure Server (σ : Type) where
  config : Config
  engine : Engine σ

namespace Server

variable {σ : Type}

/-- What a session has come to: the memory of the registry and the request in the making. -/
structure State (σ : Type) where
  memory : σ
  assembler : Assembler

/-- The line that tells that the server is ready. -/
def readyLine (s : Server σ) : Text := s.config.ready ++ ['\n']

/-- What opening a session or a line leads to; the session goes on if there is no ending. -/
structure Step (σ : Type) where
  state : State σ
  trace : Trace
  ending : Option Ending

/-- Opens a session: the grammars behind the aliases are loaded and the ready line is written. -/
def start (s : Server σ) (memory : σ) : Step σ :=
  let warm := s.engine.registry.preload memory s.config.aliases.keys
  let state : State σ := ⟨warm.memory, .fresh⟩
  let notes := Trace.ofNotes warm.notes
  match warm.found with
  | .error cause => ⟨state, notes, some (.notOpened cause)⟩
  | .ok found =>
    let opening :=
      [.log (.preloaded found), .write s.readyLine, .flush, .log (.ready s.engine.name)]
    ⟨state, notes ++ opening, none⟩

/-- Answers a finished request. -/
def handle (s : Server σ) (memory : σ) (assembler : Assembler) (r : Request) : Step σ :=
  -- The registry remembers a flag also if the request fails.
  let answer := s.engine.answer s.config.terminator memory r
  let state : State σ := ⟨answer.memory, assembler⟩
  match answer.result with
  | .ok _ => ⟨state, answer.trace, none⟩
  | .error (.unknownLanguage flag) =>
    ⟨state, answer.trace ++ [.log (.unknownLanguage flag)], some (.unknownLanguage flag)⟩
  | .error (.engine cause) => ⟨state, answer.trace, some (.engineFailed cause)⟩

/-- Takes in a line given without its terminator. -/
def feed (s : Server σ) (state : State σ) (line : Text) : Step σ :=
  let notes := Trace.ofNotes (state.assembler.notes line)
  match state.assembler.feed line with
  | (after, none) => ⟨{ state with assembler := after }, notes, none⟩
  | (after, some .sessionEnd) =>
    ⟨{ state with assembler := after }, notes ++ [.log .sessionEnded], some .sessionEnd⟩
  | (after, some (.request r)) =>
    let step := s.handle state.memory after r
    { step with trace := notes ++ step.trace }

/-- What is logged when the input ends. -/
def closingNotes (state : State σ) : List Note :=
  match state.assembler.pending with
  | some flag => [.unfinalized flag, .inputClosed]
  | none => [.inputClosed]

/-! ## Whole runs -/

/-- A session that is over. -/
structure Run (σ : Type) where
  state : State σ
  trace : Trace
  ending : Ending
  unread : List Text

/-- The session on the rest of the input. -/
def serve (s : Server σ) (state : State σ) (interrupted : Bool) : List Text → Run σ
  | [] =>
    if interrupted then ⟨state, [.read], .interrupted, []⟩
    else ⟨state, .read :: Trace.ofNotes (closingNotes state), .inputClosed, []⟩
  | line :: rest =>
    let step := s.feed state (Text.stripTerminator line)
    match step.ending with
    | some ending => ⟨step.state, .read :: step.trace, ending, rest⟩
    | none =>
      let more := s.serve step.state interrupted rest
      { more with trace := .read :: step.trace ++ more.trace }

/-- A whole session on an input. -/
def run (s : Server σ) (memory : σ) (input : Input) : Run σ :=
  let opening := s.start memory
  match opening.ending with
  | some ending => ⟨opening.state, opening.trace, ending, input.lines⟩
  | none =>
    let session := s.serve opening.state input.interrupted input.lines
    { session with trace := opening.trace ++ session.trace }

end Server

/-- The server that the settings choose. -/
def Server.configured (there : Installation) (config : Config) :
    Except ConfigFailure (Server Cache) :=
  (Engine.configured there config).map fun engine => ⟨config, engine⟩

end LineHighlight
