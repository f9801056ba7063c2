import LineHighlight.CommandLine.Process

/-!
# The program

Reads bytes from standard input, hands the process its lines as they come, and writes what the
process writes.
-/

namespace LineHighlight.Program

open CommandLine

/-- Writes what a process wrote to the two output streams. -/
def put (started : Nat) (written : Written) : IO Unit := do
  let now ← IO.monoMsNow
  let time := Text.ofNat (now - started) ++ "ms".toList
  let errors := written.stderr time
  let out ← IO.getStdout
  let err ← IO.getStderr
  unless errors.isEmpty do
    err.putStr (String.ofList errors)
    err.flush
  unless written.stdout.isEmpty do
    out.putStr (String.ofList written.stdout)
    out.flush

/-- Reads bytes up to and including the next line feed; there are none at the end of the input. -/
partial def readBytes (input : IO.FS.Stream) (before : List UInt8) : IO (List UInt8) := do
  let chunk ← input.read 1
  match chunk.toList with
  | [] => return before.reverse
  | b :: _ =>
    if b == 10 then return (b :: before).reverse
    else readBytes input (b :: before)

/-- Hands lines to a process until it exits. -/
def feedLines (started : Nat) (p : Process) : List Text → IO Process
  | [] => return p
  | line :: rest => do
    let (after, written) := p.feed line
    put started written
    if after.status?.isSome then return after
    feedLines started after rest

/-- Serves a process until it exits. -/
partial def serve (started : Nat) (input : IO.FS.Stream) (p : Process) : IO Int := do
  match p.status? with
  | some status => return status
  | none =>
    let bytes ← readBytes input []
    if bytes.isEmpty then
      let (after, written) := p.closeInput
      put started written
      serve started input after
    else
      let lines := (inputOfBytes .lineFeed bytes).lines.map Text.stripTerminator
      serve started input (← feedLines started p lines)

/-- Runs the program with the given words. -/
def runWith (words : List Text) : IO Int := do
  let started ← IO.monoMsNow
  let (process, written) := Process.launch {} words
  put started written
  serve started (← IO.getStdin) process

end LineHighlight.Program

def main (words : List String) : IO UInt32 := do
  let status ← LineHighlight.Program.runWith (words.map String.toList)
  return UInt32.ofNat status.toNat
