import LineHighlight.Engine
import LineHighlight.Request.Assembler
import LineHighlight.Trace

/-!
# Answers

A request is answered by its markup on lines of its own, followed by the terminator on a line of its
own. A request that cannot be answered leads to no output at all.
-/

namespace LineHighlight

/-- The text that answers a request: markup, line feed, terminator, line feed. -/
def answerBlock (terminator markup : Text) : Text := markup ++ '\n' :: terminator ++ ['\n']

/-- What became of a request. -/
structure Answer (σ : Type) where
  result : Except AnswerFailure Text
  memory : σ
  trace : Trace

/-- Answers a request: its flag is resolved, its source highlighted, and the block written and
flushed. -/
def Engine.answer {σ : Type} (e : Engine σ) (terminator : Text) (memory : σ) (r : Request) :
    Answer σ :=
  let (found, after) := e.registry.resolve memory r.language
  match found.scope with
  | .error cause => ⟨.error (.engine cause), after, Trace.ofNotes found.notes⟩
  | .ok none => ⟨.error (.unknownLanguage r.language), after, Trace.ofNotes found.notes⟩
  | .ok (some scope) =>
    match e.highlight r.source scope with
    | .error cause => ⟨.error (.engine cause), after, Trace.ofNotes found.notes⟩
    | .ok markup =>
      ⟨.ok markup, after,
        Trace.ofNotes found.notes
          ++ [.write (answerBlock terminator markup), .flush,
            .log (.highlighted r.lineCount scope.name markup.length)]⟩

/-- Answers requests one after another, going on after one that cannot be answered. -/
def Engine.answers {σ : Type} (e : Engine σ) (terminator : Text) (memory : σ) :
    List Request → List (Answer σ)
  | [] => []
  | r :: rest =>
    let answer := e.answer terminator memory r
    answer :: e.answers terminator answer.memory rest

end LineHighlight
