import LineHighlight.Text.Lines

/-!
# Collected code lines

The code lines of a request in the making. Each line counts as ended by a line feed, so the source
they make is those lines, each followed by one.
-/

namespace LineHighlight

/-- The code lines collected so far, the newest first. -/
structure Buffer where
  newestFirst : List Text := []
  deriving DecidableEq, Repr

namespace Buffer

/-- The buffer with one more line, given without its terminator. -/
def append (b : Buffer) (line : Text) : Buffer := ⟨line :: b.newestFirst⟩

/-- The collected lines in the order of their arrival. -/
def lines (b : Buffer) : List Text := b.newestFirst.reverse

/-- The number of collected lines. -/
def size (b : Buffer) : Nat := b.newestFirst.length

/-- The collected lines, each followed by a line feed. -/
def source (b : Buffer) : Text := Text.unlines b.lines

@[simp] theorem lines_append (b : Buffer) (line : Text) :
    (b.append line).lines = b.lines ++ [line] := by simp [append, lines]

@[simp] theorem size_append (b : Buffer) (line : Text) : (b.append line).size = b.size + 1 := rfl

@[simp] theorem source_append (b : Buffer) (line : Text) :
    (b.append line).source = b.source ++ line ++ ['\n'] := by
  simp [source, Text.unlines, List.flatMap_append]

theorem length_lines (b : Buffer) : b.lines.length = b.size := by simp [lines, size]

end Buffer
end LineHighlight
