import LineHighlight.Text.Quoted

/-!
# Strings that need not be text

The strings that callers hand over are sequences of code points, and a code point may be a surrogate,
which is no character. UTF-8 has no bytes for surrogates, so that a string with one cannot be sent.
Apart from that a surrogate is like any character that is not special: code is cut into lines around it,
and messages show its escape.
-/

namespace LineHighlight

/-- A code point: a character, or the surrogate that is so far behind U+D800. -/
inductive CodePoint where
  | char (c : Char)
  | surrogate (offset : Fin 0x800)
  deriving DecidableEq, Repr

namespace CodePoint

/-- The code point is a character. -/
def isChar : CodePoint → Bool
  | char _ => true
  | surrogate _ => false

/-- The escape of a code point. -/
def escapeCode : CodePoint → Text
  | char c => Text.escapeCode c
  | surrogate offset => ['\\', 'u'] ++ Text.hex 4 (0xD800 + offset)

/-- How a code point is written between quotes `quote`. No surrogate can be printed. -/
def escape (quote : Char) : CodePoint → Text
  | char c => Text.escape quote c
  | surrogate offset => escapeCode (surrogate offset)

end CodePoint

/-- A sequence of code points. -/
abbrev Points := List CodePoint

namespace Points

/-- The code points of a text. -/
def ofText (t : Text) : Points := t.map .char

/-- Lines with a code point in front of the first of them. -/
def consFirst (p : CodePoint) : List Points → List Points
  | [] => [[p]]
  | line :: more => (p :: line) :: more

/-- The lines of a piece of code, given whether it is what comes behind a CR, which forms one line break
with an LF. -/
def splitCodeFrom : Bool → Points → List Points
  | _, [] => []
  | behindCr, p :: rest =>
    if p = .char '\n' then
      if behindCr then splitCodeFrom false rest else [] :: splitCodeFrom false rest
    else if p = .char '\r' then [] :: splitCodeFrom true rest
    else consFirst p (splitCodeFrom false rest)

/-- The lines of a piece of code; a line break at its very end does not start another line. -/
def splitCode (code : Points) : List Points := splitCodeFrom false code

/-- Each line followed by a line feed. -/
def unlines (lines : List Points) : Points := lines.flatMap (· ++ [CodePoint.char '\n'])

/-! ## Messages -/

/-- A sequence of code points between quotes. -/
def quoted (p : Points) : Text :=
  let quote := if p.contains (.char '\'') && !p.contains (.char '"') then '"' else '\''
  quote :: p.flatMap (CodePoint.escape quote) ++ [quote]

end Points
end LineHighlight
