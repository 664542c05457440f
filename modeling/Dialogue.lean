import Dialogue.Main
import Dialogue.Proofs.Batch.Refusal
import Dialogue.Proofs.Batch.Reimport
import Dialogue.Proofs.Batch.Splitting
import Dialogue.Proofs.Batch.Succession
import Dialogue.Proofs.Database.Reordering
import Dialogue.Proofs.Conversation.Tree
import Dialogue.Proofs.Conversation.Conservation
import Dialogue.Proofs.Batch.Frame
import Dialogue.Proofs.Batch.Ledger
import Dialogue.Proofs.Batch.Layout
import Dialogue.Proofs.Batch.Reached
import Dialogue.Proofs.Batch.Casting
import Dialogue.Proofs.Batch.Newcomers
import Dialogue.Proofs.Batch.Player
import Dialogue.Proofs.Batch.Starter
import Dialogue.Proofs.Saved.RoundTrip
import Dialogue.Proofs.Script.Printed
import Dialogue.Proofs.Resolution.Delivery
import Dialogue.Proofs.Resolution.Queue
import Dialogue.Proofs.Script.Held
import Dialogue.Proofs.Script.Nesting
import Dialogue.Proofs.Script.Indentation
import Dialogue.Proofs.Script.Runs
import Dialogue.Proofs.Script.Joining
import Dialogue.Proofs.Script.Payload
import Dialogue.Proofs.Batch.Inputs
import Dialogue.Proofs.Files.Ancestors
import Dialogue.Proofs.Files.Creating
import Dialogue.Proofs.Command.Import
import Dialogue.Proofs.Command.New
import Dialogue.Proofs.Command.Extension
