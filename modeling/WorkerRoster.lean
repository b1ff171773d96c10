import WorkerRoster.Presence.Wire
import WorkerRoster.Announcement.Wire
import WorkerRoster.Application
import WorkerRoster.Rehearsal
import WorkerRoster.Proofs.Turn
import WorkerRoster.Proofs.Course
import WorkerRoster.Proofs.Course.Knowledge
import WorkerRoster.Proofs.Lasting
import WorkerRoster.Proofs.Broadcast
import WorkerRoster.Proofs.Course.Settlement
import WorkerRoster.Proofs.Course.Subscription
import WorkerRoster.Proofs.Course.Attempt
import WorkerRoster.Proofs.Course.Announced
import WorkerRoster.Proofs.Site.Move
import WorkerRoster.Proofs.Site.Passage
import WorkerRoster.Proofs.Roster.Insertion
import WorkerRoster.Proofs.Roster.Fate
import WorkerRoster.Proofs.Roster.Recollection
import WorkerRoster.Proofs.Site.Outcome
import WorkerRoster.Proofs.Site.Seat
import WorkerRoster.Proofs.Site.Dismissal
import WorkerRoster.Proofs.Site.Scene
import WorkerRoster.Proofs.Site.Undisturbed
import WorkerRoster.Proofs.Site.Agreement
import WorkerRoster.Proofs.Json.Overlay
import WorkerRoster.Proofs.Json.Members
import WorkerRoster.Proofs.Json.Rereading
import WorkerRoster.Proofs.Json.Rendering
import WorkerRoster.Proofs.Json.Nesting
import WorkerRoster.Proofs.Settings.Fields
import WorkerRoster.Proofs.Settings.Layers
import WorkerRoster.Proofs.Settings.Direct
import WorkerRoster.Proofs.Settings.Capacity
import WorkerRoster.Proofs.Transport
import WorkerRoster.Proofs.Settings.Saving
import WorkerRoster.Proofs.Course.Aloud
import WorkerRoster.Proofs.Roster.Independence
import WorkerRoster.Proofs.Relevance
import WorkerRoster.Proofs.Course.Traceless
import WorkerRoster.Proofs.Site.Hearsay
import WorkerRoster.Proofs.Json.Layering
import WorkerRoster.Proofs.Status
import WorkerRoster.Proofs.Accounts
import WorkerRoster.Proofs.Settings.Nulls
import WorkerRoster.Proofs.Settings.Detection
import WorkerRoster.Proofs.Journal
import WorkerRoster.Proofs.Settings.Decision
import WorkerRoster.Proofs.Decimal.Numeral
import WorkerRoster.Proofs.Site.Order
