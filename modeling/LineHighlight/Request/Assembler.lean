import LineHighlight.Log.Note
import LineHighlight.Request.Buffer

/-!
# From lines to requests

Lines are told apart by their first character. A line that does not begin with a TAB declares a
language and drops what was collected for the one before; a line that does is a code line, collected
whether or not a language is declared; an empty line finishes the request in the making, or ends
the session if there is none.

`Assembler.feed` is the rule for one line, `Assembler.take` the lazy reading of a list of lines.
-/

namespace LineHighlight

/-- What stands before each code line. -/
def codeMarker : Char := '\t'

/-- A finished request. -/
structure Request where
  language : Text
  source : Text
  deriving DecidableEq, Repr

/-- The number of code lines of a request. -/
def Request.lineCount (r : Request) : Nat := r.source.count '\n'

/-- What an empty line leads to. -/
inductive Outcome where
  | request (r : Request)
  | sessionEnd
  deriving DecidableEq, Repr

/-- The request in the making: the declared language, if any, and the code lines since. -/
structure Assembler where
  pending : Option Text := none
  buffer : Buffer := {}
  deriving DecidableEq, Repr

namespace Assembler

/-- The assembler that has read nothing. -/
def fresh : Assembler := {}

/-! ## One line -/

/-- The kinds of lines. -/
inductive Line where
  | declaration (flag : Text)
  | code (line : Text)
  | blank
  deriving DecidableEq, Repr

/-- The kind of a line. -/
def Line.ofText : Text → Line
  | [] => .blank
  | c :: rest => if c = codeMarker then .code rest else .declaration (c :: rest)

/-- No language is declared. -/
def isIdle (a : Assembler) : Bool := a.pending.isNone

/-- The assembler after a line, and the outcome if the line leads to one. -/
def feed (a : Assembler) (line : Text) : Assembler × Option Outcome :=
  match Line.ofText line with
  | .declaration flag => (⟨some flag, {}⟩, none)
  | .code rest => (⟨a.pending, a.buffer.append rest⟩, none)
  | .blank =>
    match a.pending with
    | some flag => (fresh, some (.request ⟨flag, a.buffer.source⟩))
    -- Code lines without a language stay where they are until a declaration drops them.
    | none => (a, some .sessionEnd)

/-- What is logged about a line. -/
def notes (a : Assembler) (line : Text) : List Note :=
  match Line.ofText line with
  | .declaration flag =>
    match a.pending with
    | some old =>
      if a.buffer.size = 0 then [.declared flag]
      else [.discarded a.buffer.size old, .declared flag]
    | none => [.declared flag]
  | _ => []

/-- Drops the declared language and the collected lines. -/
def reset (_ : Assembler) : Assembler := fresh

/-! ## Many lines -/

/-- The assembler after some lines. -/
def feedAll (a : Assembler) : List Text → Assembler
  | [] => a
  | line :: rest => (a.feed line).1.feedAll rest

/-- What is logged about some lines. -/
def notesOfAll (a : Assembler) : List Text → List Note
  | [] => []
  | line :: rest => a.notes line ++ (a.feed line).1.notesOfAll rest

/-- What was reached by reading lines up to an outcome. -/
structure Reading where
  outcomes : List Outcome
  assembler : Assembler
  notes : List Note
  unread : List Text
  deriving DecidableEq, Repr

/-- Reads lines up to the first outcome. -/
def next (a : Assembler) : List Text → Option Outcome × Assembler × List Note × List Text
  | [] => (none, a, [], [])
  | line :: rest =>
    match a.feed line with
    | (after, some outcome) => (some outcome, after, a.notes line, rest)
    | (after, none) =>
      let (outcome, last, notes, unread) := after.next rest
      (outcome, last, a.notes line ++ notes, unread)

/-- Reads lines up to the `count`-th outcome, and not beyond the end of the session. -/
def take (a : Assembler) : Nat → List Text → Reading
  | 0, ls => ⟨[], a, [], ls⟩
  | count + 1, ls =>
    match a.next ls with
    | (none, after, notes, unread) => ⟨[], after, notes, unread⟩
    | (some .sessionEnd, after, notes, unread) => ⟨[.sessionEnd], after, notes, unread⟩
    | (some (.request r), after, notes, unread) =>
      let more := after.take count unread
      ⟨.request r :: more.outcomes, more.assembler, notes ++ more.notes, more.unread⟩

/-- Reads lines up to the end of the session, or all of them. Each outcome takes a line, so there is
room for all outcomes and for the search that finds no further one. -/
def takeAll (a : Assembler) (ls : List Text) : Reading := a.take (ls.length + 1) ls

end Assembler
end LineHighlight
