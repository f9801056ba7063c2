import LineHighlight.Log.Note

/-!
# Logging setup

The handlers attached to the root logger and its threshold. Configuring replaces the handlers that
earlier calls installed and leaves all others alone.
-/

namespace LineHighlight

/-- A handler attached to the root logger. -/
inductive Handler where
  /-- Installed here; writes to the error stream. -/
  | own
  /-- Somebody else's, told apart by a number. -/
  | foreign (id : Nat)
  deriving DecidableEq, Repr

/-- The handlers in the order of their attachment, and the threshold of the root logger. -/
structure Logging where
  handlers : List Handler := []
  threshold : Int := 0
  deriving DecidableEq, Repr

namespace Logging

/-- Installs one handler of our own with the given threshold. -/
def install (l : Logging) (severity : Int) : Logging :=
  ⟨l.handlers.filter (· ≠ .own) ++ [.own], severity⟩

/-- Installs one handler of our own unless the threshold is not known. -/
def configure (l : Logging) (choice : LevelChoice) : Except Refusal Logging :=
  choice.check.map l.install

/-- The setup after a call, which is the old one if the call is refused. -/
def afterConfigure (l : Logging) (choice : LevelChoice) : Logging :=
  match l.configure choice with
  | .ok l => l
  | .error _ => l

/-- The threshold in force: zero leaves it to the logger above, which lets warnings through. -/
def effective (l : Logging) : Int := if l.threshold = 0 then Level.warning.severity else l.threshold

/-- The record passes the threshold in force. -/
def passes (l : Logging) (n : Note) : Bool := l.effective ≤ n.level.severity

end Logging
end LineHighlight
