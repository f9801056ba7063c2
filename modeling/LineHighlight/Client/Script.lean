import LineHighlight.Client.Peer

/-!
# Scripted peers

A peer of which everything is laid down beforehand: what it writes, how it exits, and when its input
breaks. It records what it is sent.
-/

namespace LineHighlight

/-- A process that plays a script. All its output is there from the start. -/
structure Script where
  command : List Text := ["server".toList]
  /-- The status it exits with. -/
  status : Int := 0
  /-- It is known to have exited. -/
  exited : Bool := false
  /-- It does not exit by itself. -/
  hangs : Bool := false
  /-- From the text with this number on, counted from zero, its input is broken. -/
  brokenAt : Option Nat := none
  /-- The texts it was sent, the newest first. -/
  sent : List Text := []
  deriving DecidableEq, Repr

namespace Script

/-- The pipe to the process is broken. -/
def isBroken (s : Script) : Bool :=
  match s.brokenAt with
  | some n => n ≤ s.sent.length
  | none => false

instance : Peer Script where
  command s := s.command
  status? s := if s.exited then some s.status else none
  isEnded _ := true
  send s t := if s.isBroken then none else some ([], { s with sent := t :: s.sent })
  closeInput s := ([], s)
  await s :=
    if s.hangs && !s.exited then (none, s) else (some s.status, { s with exited := true })
  kill s := { s with exited := true, status := -9 }

end Script
end LineHighlight
