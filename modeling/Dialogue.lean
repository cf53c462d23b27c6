import Dialogue.Value.Reading
import Dialogue.Profile.Unreliable
import Dialogue.Database
import Dialogue.Dashboard
import Dialogue.Main
import Dialogue.Text.Run
import Dialogue.Proofs.Flow.Passage
import Dialogue.Proofs.Conversation.Move
import Dialogue.Proofs.Conversation.Run
import Dialogue.Proofs.Conversation.Validity
import Dialogue.Proofs.Conversation.Failure
import Dialogue.Proofs.Bot.Updates
import Dialogue.Proofs.Conversation.Simulation
import Dialogue.Proofs.Profile.Cell
import Dialogue.Proofs.Profile.Transparency
import Dialogue.Proofs.Profile.History
import Dialogue.Proofs.Command.Destination
import Dialogue.Proofs.Flow.Circle
import Dialogue.Proofs.Flow.WellFormed
import Dialogue.Proofs.Profile.Ledger
import Dialogue.Proofs.Conversation.Integrity
import Dialogue.Proofs.Callback.Packing
import Dialogue.Proofs.Screen.Drawing
import Dialogue.Proofs.Conversation.Replies
import Dialogue.Proofs.Delivery.Display
import Dialogue.Proofs.Bot.Presses
import Dialogue.Proofs.Session.Lookup
import Dialogue.Proofs.Session.History
import Dialogue.Proofs.Callback.Survival
import Dialogue.Proofs.Conversation.Isolation
import Dialogue.Proofs.Conversation.Restart
import Dialogue.Proofs.Conversation.Cascade
import Dialogue.Proofs.Conversation.Selection
import Dialogue.Proofs.Delivery.Order
import Dialogue.Proofs.Conversation.DoublePress
import Dialogue.Proofs.Callback.Grammar
import Dialogue.Proofs.Screen.Agreement
import Dialogue.Proofs.Conversation.LiveButtons
import Dialogue.Proofs.Delivery.Records
import Dialogue.Proofs.Command.Shadowing
import Dialogue.Proofs.Command.Menu
import Dialogue.Proofs.Conversation.Completion
import Dialogue.Proofs.Screen.Labels
import Dialogue.Proofs.Template.Substitution
import Dialogue.Proofs.Template.Escaping
import Dialogue.Proofs.Answer.Forms
import Dialogue.Proofs.Conversation.Refusal
import Dialogue.Proofs.Flow.Search
import Dialogue.Proofs.Callback.Reference
import Dialogue.Proofs.Conversation.Crash
import Dialogue.Proofs.Settings.Lifetime
