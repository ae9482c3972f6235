import Lodging.Engine.Batch
import Lodging.Json.Reading
import Lodging.Log.Session
import Lodging.Main
import Lodging.Proofs.EngineRuns
import Lodging.Proofs.FailedRollback
import Lodging.Proofs.Listings
import Lodging.Proofs.AnyLog
import Lodging.Proofs.Leftovers
import Lodging.Proofs.StandingBookings
import Lodging.Proofs.Continuity
import Lodging.Proofs.GrowingIds
import Lodging.Proofs.BookingHistory
import Lodging.Proofs.TornLogs
import Lodging.Proofs.RecoveredLogs
import Lodging.Proofs.Batching
import Lodging.Proofs.Refusals
import Lodging.Proofs.SideBySide
import Lodging.Proofs.Interleavings
import Lodging.Proofs.Traversals
import Lodging.Proofs.Pages
import Lodging.Proofs.Admissions
import Lodging.Proofs.Cancellations
import Lodging.Proofs.DocumentChanges
import Lodging.Proofs.DamagedFrames
import Lodging.Proofs.SortedBooks
import Lodging.Proofs.Statuses
import Lodging.Proofs.Recompaction
import Lodging.Proofs.Seeding
import Lodging.Proofs.Restarts
import Lodging.Proofs.IdentifierTexts
import Lodging.Proofs.AppendCounts
import Lodging.Proofs.Publication
