import LineHighlight.Text.Basic

/-!
# Lines

Three views of the lines of a text: as a stream hands them out, each with the line feed that ends
it; without their terminators; and as the lines of a piece of code in which any of LF, CR and CR LF
ends a line. Streams differ in whether they end lines as code does (`LineEnds`).
-/

namespace LineHighlight.Text

/-! ## Lines with their terminators -/

/-- The lines of a text, each with the line feed that ends it; the last one may have none. -/
def rawLines : Text → List Text
  | [] => []
  | c :: rest =>
    if c = '\n' then [c] :: rawLines rest
    else
      match rawLines rest with
      | [] => [[c]]
      | line :: more => (c :: line) :: more

/-- Cutting a text into lines loses nothing. -/
theorem flatten_rawLines (t : Text) : (rawLines t).flatten = t := by
  induction t with
  | nil => rfl
  | cons c rest ih =>
    by_cases h : c = '\n'
    · simp [rawLines, h, ih]
    · cases hl : rawLines rest with
      | nil => simp_all [rawLines]
      | cons line more => simp_all [rawLines]

/-- `line` without the LF or CR LF at its end. -/
def stripTerminator (line : Text) : Text :=
  if line.getLast? = some '\n' then dropLastIf '\r' line.dropLast else line

/-- The lines of a text without their terminators. -/
def lines (t : Text) : List Text := (rawLines t).map stripTerminator

/-- The first `count` lines of a text without their terminators, or all lines, and the text after
them. -/
def takeLines (count : Option Nat) (t : Text) : List Text × Text :=
  match count with
  | none => (lines t, [])
  | some n => ((rawLines t).take n |>.map stripTerminator, ((rawLines t).drop n).flatten)

/-- A line without the line feeds at its end. -/
def chomp (line : Text) : Text := dropEndWhile (· = '\n') line

/-! ## One kind of line break -/

/-- `t` with every CR LF and every other CR written as LF. -/
def unifyBreaks : Text → Text
  | [] => []
  | '\r' :: '\n' :: rest => '\n' :: unifyBreaks rest
  | '\r' :: rest => '\n' :: unifyBreaks rest
  | c :: rest => c :: unifyBreaks rest

/-- The line breaks at which a stream ends a line: at each LF only, or at any of LF, CR and CR LF, which
it then hands out as LF. -/
inductive LineEnds where
  | lineFeed
  | universal
  deriving DecidableEq, Repr

/-- The text that a stream hands out. -/
def LineEnds.read : LineEnds → Text → Text
  | lineFeed, t => t
  | universal, t => unifyBreaks t

/-- The lines of a piece of code; a line break at its very end does not start another line. -/
def splitCode (code : Text) : List Text :=
  if code = [] then []
  else
    let found := pieces '\n' (unifyBreaks code)
    if found.getLast? = some [] then found.dropLast else found

/-- Each line followed by a line feed. -/
def unlines (ls : List Text) : Text := ls.flatMap (· ++ ['\n'])

end LineHighlight.Text
