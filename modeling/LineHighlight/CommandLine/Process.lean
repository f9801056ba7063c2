import LineHighlight.CommandLine.Plan
import LineHighlight.Server
import LineHighlight.Text.Utf8

/-!
# The program as a process

The program started with some words, step by step: what it writes to its two streams at each line of
input, and how it exits. `CommandLine.run` is the program on a whole input.
-/

namespace LineHighlight.CommandLine

/-! ## Exit statuses -/

/-- The exit status when the words of the command line are refused. -/
def usageStatus : Int := 2

/-- The exit status when an engine is not installed. -/
def notStartedStatus : Int := 2

/-- The exit status when an engine fails. -/
def engineFailedStatus : Int := 3

/-- The exit status when a session is over. -/
def exitStatus : Ending → Int
  | .sessionEnd | .inputClosed => 0
  | .unknownLanguage _ => 1
  | .notOpened _ | .engineFailed _ => engineFailedStatus
  | .interrupted => 130

/-- What is logged after a session is over. -/
def endingNotes : Ending → List Note
  | .notOpened _ | .engineFailed _ => [.engineFailed]
  | _ => []

/-! ## Step by step -/

/-- A session that runs in a process. -/
structure Session where
  server : Server Cache
  logging : Logging
  state : Server.State Cache

/-- A process that waits for input or has exited. -/
inductive Process where
  | serving (session : Session)
  | exited (status : Int)

/-- What a process writes in one go: output, usage texts, log records. The latter two go to the error
stream. -/
structure Written where
  stdout : Text := []
  usage : Text := []
  notes : List Note := []
  deriving DecidableEq, Repr

/-- The text for the error stream, each log record at the given time. -/
def Written.stderr (time : Text) (w : Written) : Text := w.usage ++ w.notes.flatMap (Note.render time)

/-- The languages, each on a line of its own, if the output can express them. -/
def listing (output : Repertoire) (languages : List Text) : Except Crash Text :=
  match languages.find? fun name => !name.all output.holds with
  | some name => .error (.unencodable name)
  | none => .ok (Text.unlines languages)

namespace Process

/-- The exit status of a process that has exited. -/
def status? : Process → Option Int
  | serving _ => none
  | exited status => some status

/-- The process after a step of its session. -/
def ofStep (server : Server Cache) (logging : Logging) (step : Server.Step Cache) : Process :=
  match step.ending with
  | some ending => .exited (exitStatus ending)
  | none => .serving ⟨server, logging, step.state⟩

/-- What a process logs at a step of its session. -/
def notesOf (step : Server.Step Cache) : List Note :=
  step.trace.notes ++ (step.ending.map endingNotes).getD []

/-- Starts the program with an output that can express everything. -/
def launch (there : Installation) (words : List Text) : Process × Written :=
  match plan words with
  | .error (.refused cause) => (.exited usageStatus, { usage := cause.report })
  | .error (.crash _) => (.exited Crash.status, { usage := Text.unlines [traceLine] })
  | .ok .help => (.exited 0, { stdout := helpPage })
  | .ok .version => (.exited 0, { stdout := versionLine })
  | .ok .listLanguages => (.exited 0, { stdout := Text.unlines there.catalogue.languages })
  | .ok (.fail logging) =>
    (.exited engineFailedStatus, { notes := [.engineFailed].filter logging.passes })
  | .ok (.serve config logging) =>
    match Server.configured there config with
    | .error cause =>
      (.exited notStartedStatus, { notes := [.notStarted cause].filter logging.passes })
    | .ok server =>
      let step := server.start []
      (ofStep server logging step,
        { stdout := step.trace.output
          notes := (.engineLoaded server.engine.name :: notesOf step).filter logging.passes })

/-- Hands a line without its terminator to a process. One that has exited takes no notice. -/
def feed (line : Text) : Process → Process × Written
  | exited status => (.exited status, {})
  | serving s =>
    let step := s.server.feed s.state line
    (ofStep s.server s.logging step,
      { stdout := step.trace.output, notes := (notesOf step).filter s.logging.passes })

/-- Tells a process that no more input will come. -/
def closeInput : Process → Process × Written
  | exited status => (.exited status, {})
  | serving s =>
    (.exited (exitStatus .inputClosed),
      { notes := (Server.closingNotes s.state).filter s.logging.passes })

end Process

/-! ## Whole runs -/

/-- What is seen of a program that has exited. -/
structure Report extends Written where
  status : Int
  deriving DecidableEq, Repr

/-- Serves a session to its end. -/
def serveSession (there : Installation) (config : Config) (logging : Logging) (input : Input) :
    Report :=
  match Server.configured there config with
  | .error cause =>
    { status := notStartedStatus, notes := [.notStarted cause].filter logging.passes }
  | .ok server =>
    let session := server.run [] input
    let notes := .engineLoaded server.engine.name :: session.trace.notes
    { status := exitStatus session.ending
      stdout := session.trace.output
      notes := (notes ++ endingNotes session.ending).filter logging.passes }

/-- The program on a whole input, and the settings that are current after it. Its output is limited
to a repertoire until it begins to serve a session. -/
def run (there : Installation) (output : Repertoire) (words : List Text) (input : Input)
    (context : Context) : Except Crash Report × Context :=
  match plan words with
  | .error (.refused cause) => (.ok { status := usageStatus, usage := cause.report }, context)
  | .error (.crash cause) => (.error cause, context)
  | .ok .help => (.ok { status := 0, stdout := helpPage }, context)
  | .ok .version => (.ok { status := 0, stdout := versionLine }, context)
  | .ok .listLanguages =>
    ((listing output there.catalogue.languages).map fun t => { status := 0, stdout := t }, context)
  | .ok (.fail logging) =>
    (.ok { status := engineFailedStatus, notes := [.engineFailed].filter logging.passes }, context)
  | .ok (.serve config logging) =>
    context.within config fun inner => (.ok (serveSession there config logging input), inner)

/-- The input that bytes stand for: UTF-8 whose lines end as those of the stream do. -/
def inputOfBytes (ends : Text.LineEnds) (bytes : List UInt8) : Input :=
  Input.ofText (ends.read (Text.Utf8.decode bytes))

end LineHighlight.CommandLine
