import LineHighlight.Failure

/-!
# Log levels

Levels are numbers, a few of which have names. A name may be written in any letter case.
-/

namespace LineHighlight

/-- The levels of the records that are written here. -/
inductive Level where
  | debug
  | info
  | warning
  | error
  deriving DecidableEq, Repr

namespace Level

/-- The weight of a level. -/
def severity : Level → Int
  | debug => 10
  | info => 20
  | warning => 30
  | error => 40

/-- The name of a level. -/
def name : Level → Text
  | debug => "DEBUG".toList
  | info => "INFO".toList
  | warning => "WARNING".toList
  | error => "ERROR".toList

/-- The named thresholds. -/
def named : List (Text × Int) :=
  [("CRITICAL".toList, 50), ("FATAL".toList, 50), ("ERROR".toList, 40), ("WARN".toList, 30),
   ("WARNING".toList, 30), ("INFO".toList, 20), ("DEBUG".toList, 10), ("NOTSET".toList, 0)]

/-- The upper-case form of a character, where that is a letter from A to Z. Two letters outside
ASCII, dotless i and long s, have such a form. -/
def upperLetter (c : Char) : Char :=
  if c = '\u0131' then 'I' else if c = '\u017F' then 'S' else c.toUpper

/-- The threshold of a name in any letter case. -/
def ofName? (n : Text) : Option Int := named.lookup (n.map upperLetter)

end Level

/-- A threshold as a caller gives it. -/
inductive LevelChoice where
  | named (name : Text)
  | numeric (severity : Int)
  deriving DecidableEq, Repr

/-- The threshold that a caller means. -/
def LevelChoice.check : LevelChoice → Except Refusal Int
  | named name =>
    match Level.ofName? name with
    | some severity => .ok severity
    | none => .error (.unknownLevel name)
  | numeric severity => .ok severity

end LineHighlight
