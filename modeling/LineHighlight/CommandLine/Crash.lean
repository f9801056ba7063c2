import LineHighlight.CommandLine.Options

/-!
# Crashes

Two things break the program off before it can choose an exit status: a value that the options took
but lost, and a text that the output cannot express.
-/

namespace LineHighlight.CommandLine

/-- The characters that an output can express. -/
inductive Repertoire where
  | ascii
  | unicode
  deriving DecidableEq, Repr

/-- The repertoire holds the character. -/
def Repertoire.holds : Repertoire → Char → Bool
  | ascii, c => c.toNat < 0x80
  | unicode, _ => true

/-- Why the program breaks off. -/
inductive Crash where
  /-- The value of an option was two hyphens, which are dropped, and no value is left. -/
  | lostValue (o : Switch)
  /-- The text has characters outside of ASCII, and the output has room for no others. -/
  | unencodable (t : Text)
  deriving DecidableEq, Repr

/-- The wording of a crash. -/
def Crash.message : Crash → Text
  | lostValue .addAlias => "'list' object has no attribute 'partition'".toList
  | lostValue .logLevel => "Level not an integer or a valid string: []".toList
  | lostValue _ => "unhashable type: 'list'".toList
  | unencodable t =>
    Text.unencodable "ascii".toList "ordinal not in range(128)".toList Repertoire.ascii.holds
      Text.escapeCode t

/-- The exit status that is left to a program that breaks off. -/
def Crash.status : Int := 1

/-- Why a command line leads to nothing. -/
inductive Halt where
  | refused (cause : UsageFailure)
  | crash (cause : Crash)
  deriving DecidableEq, Repr

end LineHighlight.CommandLine
