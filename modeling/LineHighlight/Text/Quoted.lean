import LineHighlight.Text.Unicode.Printable

/-!
# Quoted texts

How a text is shown in messages: between quotes, on one line, with everything that cannot be
printed written as an escape.
-/

namespace LineHighlight.Text

/-- `n` in lower-case hexadecimal, padded with zeros to `width` digits. -/
def hex (width n : Nat) : Text :=
  let digits := Nat.toDigits 16 n
  List.replicate (width - digits.length) '0' ++ digits

/-- The escape of a character by its code point, in the shortest of the three forms that hold it. -/
def escapeCode (c : Char) : Text :=
  let n := c.toNat
  if n < 0x100 then ['\\', 'x'] ++ hex 2 n
  else if n < 0x10000 then ['\\', 'u'] ++ hex 4 n
  else ['\\', 'U'] ++ hex 8 n

/-- How a character is written between quotes `quote`. -/
def escape (quote c : Char) : Text :=
  if c = quote || c = '\\' then ['\\', c]
  else if c = '\t' then ['\\', 't']
  else if c = '\n' then ['\\', 'n']
  else if c = '\r' then ['\\', 'r']
  else if isPrintable c then [c]
  else escapeCode c

/-- The quote for a text: the double one only if the text has single quotes and no double ones. -/
def quoteFor (t : Text) : Char := if t.contains '\'' && !t.contains '"' then '"' else '\''

/-- A text between quotes. -/
def quoted (t : Text) : Text :=
  let quote := quoteFor t
  quote :: t.flatMap (escape quote) ++ [quote]

/-- Texts between quotes, in brackets and separated by commas. -/
def quotedList (ts : List Text) : Text :=
  '[' :: join ", ".toList (ts.map quoted) ++ [']']

/-- The wording of what an encoding has no bytes for: the first run of items that it cannot express,
where this run is, and why it cannot be expressed. -/
def unencodable {α : Type} (encoding reason : Text) (holds : α → Bool) (escapeCode : α → Text)
    (items : List α) : Text :=
  let front := items.takeWhile holds
  let run := (items.drop front.length).takeWhile fun a => !holds a
  let what := match run with
    | [a] => " '".toList ++ escapeCode a ++ "' in position ".toList ++ ofNat front.length
    | _ =>
      "s in position ".toList ++ ofNat front.length ++ '-' ::
        ofNat (front.length + run.length - 1)
  quoted encoding ++ " codec can't encode character".toList ++ what ++ ": ".toList ++ reason

end LineHighlight.Text
