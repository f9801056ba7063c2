import LineHighlight.Config.Basic
import LineHighlight.Request.Assembler

/-!
# The client's side of the protocol

What a client writes for a request, and what it makes of the lines that it reads. Nothing here
depends on who is at the other end.
-/

namespace LineHighlight

/-! ## Requests -/

/-- A flag can stand on a declaration line: it is not empty, does not begin like a code line and has
no line break. -/
def isSendable (flag : Text) : Bool :=
  flag ≠ [] && flag.head? ≠ some codeMarker && !flag.contains '\n' && !flag.contains '\r'

/-- The text that asks for some code lines to be highlighted: a declaration line, the code lines
behind their markers, a blank line. -/
def requestText (flag : Text) (code : List Text) : Text :=
  Text.unlines (flag :: code.map (codeMarker :: ·) ++ [[]])

namespace Points

/-- A flag that need not be text can stand on a declaration line. -/
def isSendable (flag : Points) : Bool :=
  flag ≠ [] && flag.head? ≠ some (.char codeMarker) && !flag.contains (.char '\n') &&
    !flag.contains (.char '\r')

/-- The string that asks for some code lines to be highlighted, of which none need be text. -/
def request (flag : Points) (code : List Points) : Points :=
  unlines (flag :: code.map (CodePoint.char codeMarker :: ·) ++ [[]])

end Points

/-- A client that knows the markers to expect and the flags to rename. -/
structure Client where
  config : Config
  renames : Table := .empty
  /-- The ready line was read. -/
  greeted : Bool := false
  deriving DecidableEq

namespace Client

/-- The flag that is sent for a flag. -/
def rename (c : Client) (flag : Text) : Text := (c.renames.get? flag).getD flag

/-- Checks a request before anything is sent: the flag must be sendable, and no code line may be the
terminator, which would end the answer early. -/
def check (c : Client) (flag code : Text) : Except Refusal Unit :=
  if !isSendable (c.rename flag) then .error (.invalidFlag (.ofText (c.rename flag)))
  else if c.config.terminator ∈ Text.splitCode code then
    .error (.terminatorInCode c.config.terminator)
  else .ok ()

/-- The text that is sent for a request. -/
def request (c : Client) (flag code : Text) : Text :=
  requestText (c.rename flag) (Text.splitCode code)

/-! ## Greeting -/

/-- Takes in the first line that the other side wrote. -/
def greet (c : Client) (line : Text) : Except ProtocolFailure Client :=
  if Text.chomp line = c.config.ready then .ok { c with greeted := true }
  else .error (.unexpectedGreeting line)

end Client

/-! ## Answers -/

/-- The markup that some lines before a terminator hold: the text before the last line feed, which
belongs to the framing. -/
def markupOfLines (lines : List Text) : Text := Text.dropLastIf '\n' lines.flatten

/-- Takes in one line of an answer of which `before`, the newest first, was read already: either more
lines follow, or the answer is complete. -/
def readAnswerLine (terminator : Text) (before : List Text) (line : Text) : List Text ⊕ Text :=
  if Text.chomp line = terminator then .inr (markupOfLines before.reverse)
  else .inl (line :: before)

/-- Reads lines up to the end of an answer; gives the markup, if the end was there, and the lines
behind it. -/
def readAnswer (terminator : Text) (before : List Text) : List Text → Option Text × List Text
  | [] => (none, [])
  | line :: rest =>
    match readAnswerLine terminator before line with
    | .inl before => readAnswer terminator before rest
    | .inr markup => (some markup, rest)

end LineHighlight
