import LineHighlight.Log.Level

/-!
# Log records

Everything that is ever logged, as data. Level, logger and wording of a record follow from what it
records.
-/

namespace LineHighlight

/-- The part of the program that writes a record. -/
inductive Logger where
  | assembler
  | client
  | commandLine
  | dispatch
  | engine
  | registry
  | server
  deriving DecidableEq, Repr

namespace Logger

/-- The name that all loggers are below. -/
def root : Text := "hlserve".toList

/-- The full name of a logger: names that are not below the root are put there. -/
def qualify (name : Text) : Text :=
  if name = root ∨ (root ++ ['.']) <+: name then name else root ++ '.' :: name

/-- The name of a logger. -/
def name : Logger → Text
  | assembler => "hlserve.protocol.assembler".toList
  | client => "hlserve.client".toList
  | commandLine => "hlserve.cli".toList
  | dispatch => "hlserve.dispatcher".toList
  | engine => "hlserve.highlighting".toList
  | registry => "hlserve.registry".toList
  | server => "hlserve.server".toList

end Logger

/-- The line that stands for the trace of the calls that led to a failure. -/
def traceLine : Text := "<traceback>".toList

/-- One log record. -/
inductive Note where
  /-- Lines collected for a flag are dropped because another flag is declared. -/
  | discarded (lines : Nat) (flag : Text)
  | declared (flag : Text)
  | unresolved (flag : Text)
  | resolved (flag name : Text)
  /-- The outside service failed on a flag instead of answering. -/
  | rejected (flag : Text)
  | highlighted (lines : Nat) (name : Text) (chars : Nat)
  | engineLoaded (name : Text)
  | preloaded (grammars : Nat)
  | ready (engine : Text)
  | sessionEnded
  | unknownLanguage (flag : Text)
  /-- The input ended in the middle of a request. -/
  | unfinalized (flag : Text)
  | inputClosed
  | notStarted (cause : ConfigFailure)
  | engineFailed
  | starting (command : List Text)
  | connected
  | killed
  deriving DecidableEq, Repr

namespace Note

/-- How severe a record is. -/
def level : Note → Level
  | ready _ | sessionEnded | inputClosed => .info
  | killed => .warning
  | unknownLanguage _ | notStarted _ | engineFailed => .error
  | _ => .debug

/-- Who writes a record. -/
def logger : Note → Logger
  | discarded .. | declared _ => .assembler
  | unresolved _ | resolved .. | rejected _ => .registry
  | highlighted .. => .dispatch
  | engineLoaded _ => .engine
  | preloaded _ | ready _ | sessionEnded | unknownLanguage _ | unfinalized _ | inputClosed =>
    .server
  | notStarted _ | engineFailed => .commandLine
  | starting _ | connected | killed => .client

/-- The wording of a record. -/
def message : Note → Text
  | discarded lines flag =>
    "Discarding ".toList ++ Text.ofNat lines ++ " unfinalized line(s) for ".toList
      ++ Text.quoted flag
  | declared flag => "Language declared: ".toList ++ Text.quoted flag
  | unresolved flag => "No grammar for flag ".toList ++ Text.quoted flag
  | resolved flag name => "Resolved ".toList ++ Text.quoted flag ++ " to ".toList ++ name
  | rejected flag => "Rosettes rejected flag ".toList ++ Text.quoted flag
  | highlighted lines name chars =>
    "Highlighted ".toList ++ Text.ofNat lines ++ " line(s) as ".toList ++ name ++ " (".toList
      ++ Text.ofNat chars ++ " chars)".toList
  | engineLoaded name => "Loaded ".toList ++ name ++ " engine".toList
  | preloaded grammars => "Preloaded ".toList ++ Text.ofNat grammars ++ " grammars".toList
  | ready engine => "Ready (".toList ++ engine ++ " engine)".toList
  | sessionEnded => "Session ended by blank line".toList
  | unknownLanguage flag => (AnswerFailure.unknownLanguage flag).message
  | unfinalized flag => "Input closed with ".toList ++ Text.quoted flag ++ " unfinalized".toList
  | inputClosed => "Input closed".toList
  | notStarted cause => cause.message
  | engineFailed => "Highlighting engine failed".toList
  | starting command => "Starting highlight server: ".toList ++ Text.quotedList command
  | connected => "Highlight server ready".toList
  | killed => "Highlight server did not exit, killing it".toList

/-- The record is followed by a trace of the calls that led to it. -/
def hasTrace : Note → Bool
  | rejected _ | engineFailed => true
  | _ => false

/-- The record as written to the error stream at the given time. -/
def render (time : Text) (n : Note) : Text :=
  time ++ ' ' :: n.level.name ++ ' ' :: n.logger.name ++ ": ".toList ++ n.message ++ ['\n']
    ++ if n.hasTrace then traceLine ++ ['\n'] else []

end Note
end LineHighlight
