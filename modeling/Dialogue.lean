import Dialogue.Main
import Dialogue.Proofs.Conversation.Affordances
import Dialogue.Proofs.Conversation.Arming
import Dialogue.Proofs.Conversation.Fetching
import Dialogue.Proofs.Conversation.Identity
import Dialogue.Proofs.Conversation.Polling
import Dialogue.Proofs.Conversation.Recovery
import Dialogue.Proofs.Conversation.Refresh
import Dialogue.Proofs.Conversation.Reported
import Dialogue.Rehearsal.Report
import Dialogue.Session.Encode
import Dialogue.Terminal.Visit
import Dialogue.Timer.Run
import Dialogue.Proofs.Conversation.Highlight
import Dialogue.Proofs.Ledger.History
import Dialogue.Proofs.Json.Shape
import Dialogue.Proofs.Session.Grammar
import Dialogue.Proofs.Text.Digit
import Dialogue.Proofs.Time.Bounds
import Dialogue.Proofs.Time.RoundTrip
import Dialogue.Proofs.Session.RoundTrip
import Dialogue.Proofs.Timer.Schedule
import Dialogue.Proofs.Prompt.Encoded
import Dialogue.Proofs.Json.Suffix
import Dialogue.Proofs.Prompt.Fence
import Dialogue.Proofs.Text.Numeral
import Dialogue.Proofs.Terminal.Choice
import Dialogue.Proofs.Conversation.Closed
import Dialogue.Proofs.Session.Goal
import Dialogue.Proofs.Http.Address
import Dialogue.Proofs.Terminal.Shown
import Dialogue.Proofs.Text.Shortened
