import LineHighlight.Request.Assembler

/-!
# Several assemblers

Assemblers hold their state in records that may be shared: a new assembler gets a record of its own
or works on that of another one. Steps act on the assembler that is selected.
-/

namespace LineHighlight

/-- The records, the record that each assembler works on, and the selected assembler. -/
structure Bench where
  records : List Assembler := [.fresh]
  owners : List Nat := [0]
  selected : Nat := 0
  deriving DecidableEq, Repr

namespace Bench

/-- The record of the selected assembler. -/
def slot (b : Bench) : Nat := b.owners.getD b.selected 0

/-- The state of the selected assembler. -/
def current (b : Bench) : Assembler := b.records.getD b.slot .fresh

/-- Gives the selected assembler a new state, which all that share its record see. -/
def put (b : Bench) (a : Assembler) : Bench := { b with records := b.records.set b.slot a }

/-- A new assembler on a record of its own, selected. -/
def create (b : Bench) : Bench :=
  ⟨b.records ++ [.fresh], b.owners ++ [b.records.length], b.owners.length⟩

/-- A new assembler on the record of the selected one, selected. -/
def share (b : Bench) : Bench := ⟨b.records, b.owners ++ [b.slot], b.owners.length⟩

/-- Selects an assembler by the order of creation. -/
def select (b : Bench) (index : Nat) : Bench := { b with selected := index }

/-- A step on a bench. -/
inductive Action where
  | feed (line : Text)
  /-- Reads lines up to so many outcomes, or all of them. -/
  | feedLines (lines : List Text) (count : Option Nat)
  | reset
  | share
  | create
  | select (index : Nat)
  deriving DecidableEq, Repr

/-- What a step shows beside the state of the selected assembler. -/
inductive Shown where
  | nothing
  | outcome (o : Option Outcome)
  | reading (r : Assembler.Reading)
  deriving DecidableEq, Repr

/-- The bench after a step, what the step shows, and what it logs. -/
def act (b : Bench) : Action → Bench × Shown × List Note
  | .feed line =>
    let (after, outcome) := b.current.feed line
    (b.put after, .outcome outcome, b.current.notes line)
  | .feedLines ls count =>
    let reading := match count with
      | some n => b.current.take n ls
      | none => b.current.takeAll ls
    (b.put reading.assembler, .reading reading, reading.notes)
  | .reset => (b.put b.current.reset, .nothing, [])
  | .share => (b.share, .nothing, [])
  | .create => (b.create, .nothing, [])
  | .select index => (b.select index, .nothing, [])

end Bench
end LineHighlight
