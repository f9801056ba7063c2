import LineHighlight.Log.Note

/-!
# Traces

What a server does, in the order in which it does it. Everything that can be observed of a run, the
text written, the number of flushes and the log, is read off its trace.
-/

namespace LineHighlight

/-- One thing that a server does. -/
inductive Event where
  /-- Asks for another line of input. -/
  | read
  | log (n : Note)
  | write (t : Text)
  | flush
  deriving DecidableEq, Repr

/-- What a server does, first things first. -/
abbrev Trace := List Event

namespace Trace

/-- The text written. -/
def output : Trace → Text
  | [] => []
  | .write t :: rest => t ++ output rest
  | _ :: rest => output rest

/-- The number of flushes. -/
def flushes (trace : Trace) : Nat := trace.count .flush

/-- The log. -/
def notes : Trace → List Note
  | [] => []
  | .log n :: rest => n :: notes rest
  | _ :: rest => notes rest

/-- The trace of logging some records. -/
def ofNotes (ns : List Note) : Trace := ns.map .log

@[simp] theorem output_append (s t : Trace) : output (s ++ t) = output s ++ output t := by
  induction s with
  | nil => rfl
  | cons e rest ih => cases e <;> simp [output, ih]

@[simp] theorem notes_append (s t : Trace) : notes (s ++ t) = notes s ++ notes t := by
  induction s with
  | nil => rfl
  | cons e rest ih => cases e <;> simp [notes, ih]

@[simp] theorem flushes_append (s t : Trace) : flushes (s ++ t) = flushes s + flushes t := by
  simp [flushes]

@[simp] theorem output_ofNotes (ns : List Note) : output (ofNotes ns) = [] := by
  induction ns with
  | nil => rfl
  | cons n rest ih => simpa [ofNotes, output] using ih

@[simp] theorem notes_ofNotes (ns : List Note) : notes (ofNotes ns) = ns := by
  induction ns with
  | nil => rfl
  | cons n rest ih => simpa [ofNotes, notes] using ih

end Trace
end LineHighlight
