import LineHighlight.Client.Connection
import LineHighlight.Client.Piped
import LineHighlight.Client.Script
import LineHighlight.Main
import LineHighlight.Markup.StyleSheet
import LineHighlight.Request.Bench
import LineHighlight.Proofs.Client.Alternation
import LineHighlight.Proofs.Client.Answers
import LineHighlight.Proofs.Client.Blame
import LineHighlight.Proofs.Client.Endings
import LineHighlight.Proofs.Client.Exchange
import LineHighlight.Proofs.Client.Farewell
import LineHighlight.Proofs.Client.Framing
import LineHighlight.Proofs.Client.Handshake
import LineHighlight.Proofs.Client.InProcess
import LineHighlight.Proofs.Client.InStep
import LineHighlight.Proofs.CommandLine.Statuses
import LineHighlight.Proofs.Config.Blocks
import LineHighlight.Proofs.Config.Extension
import LineHighlight.Proofs.Grammar.AliasTables
import LineHighlight.Proofs.Grammar.Caching
import LineHighlight.Proofs.Grammar.Renames
import LineHighlight.Proofs.Log.Handlers
import LineHighlight.Proofs.Markup.Readback
import LineHighlight.Proofs.Request.Accounting
import LineHighlight.Proofs.Request.Idle
import LineHighlight.Proofs.Request.Laziness
import LineHighlight.Proofs.Request.Sharing
import LineHighlight.Proofs.Server.AllOrNothing
import LineHighlight.Proofs.Text.Reading
