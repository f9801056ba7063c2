import LineHighlight.Grammar.Lexer

/-!
# Scopes

What a flag resolves to: the grammar of one language, and where it was found.
-/

namespace LineHighlight

/-- A language name and source text can be handed to a service outside of this program. -/
structure Service where
  /-- Says whether a name is known, or fails to answer. -/
  supports : Text → Option Bool
  /-- The markup of a source text in a language, given source first, or the message of a failure. -/
  highlight : Text → Text → Except Text Text

/-- The rules for cutting one language into tokens. -/
inductive Grammar where
  /-- An entry of the catalogue. -/
  | lexer (l : Lexer)
  /-- A name that the outside service knows. -/
  | named (name : Text)

/-- The name of a grammar: the class of an entry, or the name itself. -/
def Grammar.handle : Grammar → Text
  | lexer l => l.className
  | named name => name

/-- A resolved flag. -/
structure Scope where
  /-- The name of the language. -/
  name : Text
  /-- The flag that was resolved. -/
  flag : Text
  grammar : Grammar

end LineHighlight
