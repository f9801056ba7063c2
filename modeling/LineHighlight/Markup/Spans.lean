import LineHighlight.Markup.ClassName
import LineHighlight.Markup.Escapes
import LineHighlight.Text.Lines

/-!
# Spans

Tokens as lines of markup. Every line opens and closes its own spans, and neighbours on a line that
have the same classes share a span.
-/

namespace LineHighlight.Markup

/-! ## Tags -/

/-- The tag that opens a span of some classes; there is none for no classes. -/
def openTag (classes : Text) : Text :=
  if classes = [] then [] else "<span class=\"".toList ++ classes ++ "\">".toList

/-- The tag that closes a span of some classes. -/
def closeTag (classes : Text) : Text := if classes = [] then [] else "</span>".toList

/-! ## Writing tokens -/

/-- The markup written so far: the finished lines, the newest first, the pieces of the line in the
making, also the newest first and none of them empty, and the classes of the span that was opened
last. -/
structure Page where
  finished : List Text := []
  pieces : List Text := []
  classes : Text := []
  deriving DecidableEq, Repr

namespace Page

/-- The line in the making. -/
def line (p : Page) : Text := p.pieces.reverse.flatten

/-- The line in the making finished with `last`. -/
def finish (p : Page) (last : Text) : Page :=
  { p with finished := (p.line ++ last ++ ['\n']) :: p.finished, pieces := [] }

/-- The line in the making grown by `piece`. -/
def grow (p : Page) (piece : Text) : Page := { p with pieces := piece :: p.pieces }

/-- Writes a part of a token that ends a line. -/
def endLine (p : Page) (classes part : Text) : Page :=
  if p.pieces = [] then
    -- An empty part opens no span.
    p.finish (if part = [] then [] else openTag classes ++ part ++ closeTag classes)
  else if p.classes ≠ classes ∧ part ≠ [] then
    p.finish (closeTag p.classes ++ openTag classes ++ part ++ closeTag classes)
  else p.finish (part ++ closeTag p.classes)

/-- Writes a part of a token that leaves its line open. -/
def extendLine (p : Page) (classes part : Text) : Page :=
  if part = [] then p
  else if p.pieces = [] then { p.grow (openTag classes ++ part) with classes := classes }
  else if p.classes ≠ classes then
    { p.grow (closeTag p.classes ++ openTag classes ++ part) with classes := classes }
  else p.grow part

/-- Writes the parts of a token between its line feeds. -/
def writeParts (p : Page) (classes : Text) : List Text → Page
  | [] => p
  | [part] => p.extendLine classes part
  | part :: more => (p.endLine classes part).writeParts classes more

/-- Writes a token. -/
def write (E : Escapes) (cssPrefix : Text) (p : Page) (token : Token) : Page :=
  p.writeParts (Markup.classes cssPrefix token.kind)
    (Text.pieces '\n' (escape E.entities token.value))

/-- The finished lines in order, the line in the making among them if something stands on it. -/
def lines (p : Page) : List Text :=
  (if p.pieces = [] then p else p.finish (closeTag p.classes)).finished.reverse

end Page

/-- The lines of markup of some tokens, each with its line feed. -/
def renderLines (E : Escapes) (cssPrefix : Text) (tokens : List Token) : List Text :=
  (tokens.foldl (Page.write E cssPrefix) {}).lines

/-- The markup of some tokens. -/
def render (E : Escapes) (cssPrefix : Text) (tokens : List Token) : Text :=
  (renderLines E cssPrefix tokens).flatten

end LineHighlight.Markup
