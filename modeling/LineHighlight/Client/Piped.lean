import LineHighlight.Client.Peer
import LineHighlight.CommandLine.Process

/-!
# Piped servers

The program itself as a peer: what it is sent it reads line by line, and it writes as soon as it can.
A client sends it no carriage return, so that it does not matter which line breaks end a line there.
-/

namespace LineHighlight

/-- The program behind two pipes. -/
structure Piped where
  process : CommandLine.Process

namespace Piped

/-- The program started with some words, and what it has written when it first waits for input. -/
def launch (there : Installation) (words : List Text) : Piped × Text :=
  let (process, written) := CommandLine.Process.launch there words
  (⟨process⟩, written.stdout)

/-- Hands lines to a process one after another; gives what it writes to its output. -/
def feedLines (p : CommandLine.Process) : List Text → Text × CommandLine.Process
  | [] => ([], p)
  | line :: rest =>
    let (after, written) := p.feed line
    let (more, last) := feedLines after rest
    (written.stdout ++ more, last)

instance : Peer Piped where
  command _ := [CommandLine.programName]
  status? p := p.process.status?
  isEnded p := p.process.status?.isSome
  send p t :=
    if p.process.status?.isSome then none
    else
      let (written, after) := feedLines p.process (Text.lines (Text.unifyBreaks t))
      some (written, ⟨after⟩)
  closeInput p :=
    let (after, written) := p.process.closeInput
    (written.stdout, ⟨after⟩)
  await p := (p.process.status?, p)
  kill _ := ⟨.exited (-9)⟩

end Piped
end LineHighlight
