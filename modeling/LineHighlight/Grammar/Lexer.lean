import LineHighlight.Grammar.Priority
import LineHighlight.Grammar.TokenKind
import LineHighlight.Text.Lines

/-!
# Lexers

A lexer has names to be found by and a way to cut source text into tokens. Before it is cut, source
text is brought into one form: no byte order mark in front, LF as the only line break, and a line
feed at the end.
-/

namespace LineHighlight

/-- A catalogue entry. -/
structure Lexer where
  /-- Tells entries apart and breaks ties between them. -/
  className : Text
  /-- The name of the language. -/
  name : Text
  /-- The names that flags may use. -/
  aliases : List Text
  /-- The patterns of file names. -/
  filenames : List Text
  /-- The higher one is taken when several entries match a file name. -/
  priority : Priority
  /-- Cuts source text in its one form into tokens, or fails with a message. -/
  scan : Text → Except Text (List Token)

/-- Source text in the form that lexers read. -/
def canonicalSource (source : Text) : Text :=
  let bare := if source.head? = some '\uFEFF' then source.tail else source
  let unified := Text.unifyBreaks bare
  if unified.getLast? = some '\n' then unified else unified ++ ['\n']

namespace Lexer

/-- The tokens of a source text. -/
def tokens (l : Lexer) (source : Text) : Except Text (List Token) := l.scan (canonicalSource source)

/-! ## Ways to cut -/

/-- Everything is one token. -/
def scanWhole (kind : TokenKind) (t : Text) : Except Text (List Token) := .ok [⟨kind, t⟩]

/-- The token of a run of characters. -/
def wordToken (kind : TokenKind) (keywords : List Text) (word : Text) : Token :=
  ⟨if keywords.any (· = word) then .keyword else kind, word⟩

/-- Runs of ASCII letters and runs of other characters are tokens, some of them keywords. -/
def scanWords (kind : TokenKind) (keywords : List Text) (t : Text) : Except Text (List Token) :=
  .ok ((t.splitBy fun a b => a.isAlpha == b.isAlpha).map (wordToken kind keywords))

/-- No text can be cut. -/
def scanNothing (message : Text) (_ : Text) : Except Text (List Token) := .error message

end Lexer
end LineHighlight
