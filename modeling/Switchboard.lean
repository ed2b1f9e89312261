import Switchboard.Simulation.Session.Run
import Switchboard.Proofs.Step.Operations
import Switchboard.Proofs.Directory
import Switchboard.Proofs.Outline.Basic
import Switchboard.Proofs.Outline.Sound
import Switchboard.Proofs.Outline.Pass
import Switchboard.Proofs.Outline.Growth
import Switchboard.Proofs.Outline.Operations
import Switchboard.Proofs.Links
import Switchboard.Proofs.Destinations
import Switchboard.Proofs.Outline.Order
import Switchboard.Proofs.Undisturbed
import Switchboard.Proofs.WriteOrder
import Switchboard.Proofs.Outline.Pieces
import Switchboard.Proofs.PartialWrites
import Switchboard.Proofs.Calls.History
import Switchboard.Proofs.Calls.Boxes
import Switchboard.Proofs.Calls.Race
import Switchboard.Proofs.Outline.LinksKept
import Switchboard.Proofs.Serving
import Switchboard.Proofs.Calls.Turns
import Switchboard.Proofs.Calls.Responders
import Switchboard.Proofs.Calls.Replies
import Switchboard.Proofs.Moorings
import Switchboard.Proofs.Fates
import Switchboard.Proofs.Losses
import Switchboard.Proofs.Calls.Desk
import Switchboard.Proofs.Calls.Books
import Switchboard.Proofs.Calls.Bystanders
import Switchboard.Proofs.Calls.Orphans
import Switchboard.Proofs.Supervision.Faults
import Switchboard.Proofs.Supervision.Signals
import Switchboard.Proofs.Supervision.Flags
import Switchboard.Proofs.Senders.Callbacks
import Switchboard.Proofs.Changes
import Switchboard.Proofs.Sharing
import Switchboard.Proofs.Refusals
import Switchboard.Proofs.Announcements.Silence
import Switchboard.Proofs.Announcements.Telling
import Switchboard.Proofs.Announcements.Once
import Switchboard.Proofs.Announcements.Dispatch
import Switchboard.Proofs.Announcements.Lasting
import Switchboard.Proofs.Removal
import Switchboard.Proofs.Sending.HeadOfLine
import Switchboard.Proofs.Sending.Stranded
import Switchboard.Proofs.Sending.Sweep
import Switchboard.Proofs.Supervision.Renewal
import Switchboard.Proofs.Receiving.Conservation
import Switchboard.Proofs.Written.Remotes
import Switchboard.Proofs.Limits.Endurance
import Switchboard.Proofs.Receiving.Matching
import Switchboard.Proofs.Roster
import Switchboard.Proofs.Reconfiguring
import Switchboard.Proofs.Readjustment
import Switchboard.Proofs.Written.Escapes
import Switchboard.Proofs.Written.Frames
import Switchboard.Proofs.Freshness
