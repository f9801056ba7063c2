import LineHighlight.Text.Basic

/-!
# Peers

A peer is a process at the other end of two pipes. It writes something at its start, something in
answer to each text it is sent, and something when its input is closed; between these moments its
output does not grow. So all that a client can read at a moment is a finite text.
-/

namespace LineHighlight

/-- A process at the other end of two pipes. -/
class Peer (π : Type) where
  /-- The command that started it. -/
  command : π → List Text
  /-- Its exit status, if it is known to have exited. -/
  status? : π → Option Int
  /-- Its output has ended, so that reading on finds the end and does not wait. -/
  isEnded : π → Bool
  /-- Sends it a text; gives what it writes in answer, or nothing if the pipe is broken. -/
  send : π → Text → Option (Text × π)
  /-- Closes its input; gives what it writes then. -/
  closeInput : π → Text × π
  /-- Waits for its exit; gives no status if it does not exit in time. -/
  await : π → Option Int × π
  /-- Makes it exit. -/
  kill : π → π

end LineHighlight
