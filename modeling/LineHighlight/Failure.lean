import LineHighlight.Text.Points

/-!
# Failures

Why something was refused or could not be done. Each constructor is one cause; `message` words it.
-/

namespace LineHighlight

/-! ## Settings -/

/-- Why settings are refused. -/
inductive ConfigFailure where
  /-- No engine has this name. -/
  | unknownEngine (name : Text)
  /-- The outside service is chosen but not installed. -/
  | serviceMissing
  /-- The ready line or the terminator holds a line feed. -/
  | markerNotOneLine
  /-- The terminator is the empty line. -/
  | emptyTerminator
  /-- An alias is not of the form `FLAG=NAME` with both sides present. -/
  | malformedAlias (entry : Text)
  deriving DecidableEq, Repr

/-- The names of the engines, in alphabetical order. -/
def engineNames : List Text := ["pygments".toList, "rosettes".toList]

/-- The wording of a refusal of settings. -/
def ConfigFailure.message : ConfigFailure → Text
  | unknownEngine name =>
    "unknown engine ".toList ++ Text.quoted name ++ "; expected one of ".toList
      ++ Text.quotedList engineNames
  | serviceMissing => "the rosettes engine needs Rosettes: pip install hlserve[rosettes]".toList
  | markerNotOneLine => "protocol markers must fit on a single line".toList
  | emptyTerminator => "block terminator must not be empty".toList
  | malformedAlias entry => "alias must look like FLAG=NAME, got ".toList ++ Text.quoted entry

/-! ## The other side of the connection -/

/-- How the other side broke the line protocol. -/
inductive ProtocolFailure where
  /-- Its output ended before the ready line. -/
  | exitedBeforeReady
  /-- Its first line was not the ready line. -/
  | unexpectedGreeting (line : Text)
  /-- It exited with this status before the terminator. -/
  | exited (status : Int)
  deriving DecidableEq, Repr

namespace ProtocolFailure

/-- The line at fault, if there is one. -/
def line? : ProtocolFailure → Option Text
  | unexpectedGreeting line => some line
  | _ => none

/-- What happened, without the line at fault. -/
def summary : ProtocolFailure → Text
  | exitedBeforeReady => "server exited before becoming ready".toList
  | unexpectedGreeting _ => "expected ready line from server".toList
  | exited status => "highlight server exited with status ".toList ++ Text.ofInt status

/-- A summary followed by the line at fault, if there is one. -/
def withLine (summary : Text) : Option Text → Text
  | none => summary
  | some line => summary ++ " (got ".toList ++ Text.quoted line ++ [')']

/-- The wording of a breach of protocol. -/
def message (f : ProtocolFailure) : Text := withLine f.summary f.line?

end ProtocolFailure

/-! ## Arguments -/

/-- Why a call is refused. -/
inductive Refusal where
  /-- The flag cannot stand on a declaration line. -/
  | invalidFlag (flag : Points)
  /-- A code line is the terminator and would end the answer early. -/
  | terminatorInCode (terminator : Text)
  /-- No log level has this name. -/
  | unknownLevel (name : Text)
  /-- No kind of token has this name. -/
  | unknownKind (name : Text)
  /-- The pipe was closed before. -/
  | closedPipe
  /-- The pipe has no bytes for a surrogate in the request. -/
  | unencodable (request : Points)
  deriving DecidableEq, Repr

/-- The wording of a refused call. -/
def Refusal.message : Refusal → Text
  | invalidFlag flag => "invalid language flag: ".toList ++ flag.quoted
  | terminatorInCode terminator =>
    "code line equals the block terminator ".toList ++ Text.quoted terminator
  | unknownLevel name => "unknown log level: ".toList ++ Text.quoted name
  | unknownKind name => "'_TokenType' object has no attribute '".toList ++ name ++ ['\'']
  | closedPipe => "I/O operation on closed file.".toList
  | unencodable request =>
    Text.unencodable "utf-8".toList "surrogates not allowed".toList CodePoint.isChar
      CodePoint.escapeCode request

/-! ## Answers -/

/-- Why an engine made nothing of a flag or a source text. -/
inductive EngineFailure where
  /-- It says so in its own words. -/
  | raised (message : Text)
  /-- An entry that matches a file name has a priority that no half point can be added to. -/
  | priorityTooLarge
  /-- It works with lexers and was given a scope that is only a name. -/
  | noLexer
  /-- It works with names and was given a scope that is a lexer. -/
  | noName
  deriving DecidableEq, Repr

/-- The wording of an engine's failure. -/
def EngineFailure.message : EngineFailure → Text
  | raised message => message
  | priorityTooLarge => "int too large to convert to float".toList
  | noLexer => "'str' object is not callable".toList
  | noName => "can only concatenate str (not \"LexerMeta\") to str".toList

/-- Why a request has no answer. -/
inductive AnswerFailure where
  /-- No grammar is known for this flag. -/
  | unknownLanguage (flag : Text)
  | engine (cause : EngineFailure)
  deriving DecidableEq, Repr

/-- The wording of a failure to answer. -/
def AnswerFailure.message : AnswerFailure → Text
  | unknownLanguage flag => "no grammar scope for language ".toList ++ Text.quoted flag
  | engine cause => cause.message

/-! ## All failures -/

/-- Why an operation has no result. -/
inductive Failure where
  | config (cause : ConfigFailure)
  | answer (cause : AnswerFailure)
  | protocol (cause : ProtocolFailure)
  | refused (cause : Refusal)
  /-- The process that this command started did not exit in time. -/
  | timedOut (command : List Text)
  deriving DecidableEq, Repr

/-- The wording of a failure. -/
def Failure.message : Failure → Text
  | config cause => cause.message
  | answer cause => cause.message
  | protocol cause => cause.message
  | refused cause => cause.message
  | timedOut command =>
    "Command ".toList.append (['\''] ++ Text.quotedList command ++ ['\''])
      ++ " timed out after 10.0 seconds".toList

/-- The wording of a failure that is described in several parts. -/
def messageOfParts : List Text → Text
  | [] => []
  | [part] => part
  | parts => '(' :: Text.join ", ".toList (parts.map Text.quoted) ++ [')']

end LineHighlight
