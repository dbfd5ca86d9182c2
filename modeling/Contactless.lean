import Contactless.Bench.Drills
import Contactless.Bench.Run
import Contactless.Proofs.Apdu.Answers
import Contactless.Proofs.Apdu.Fields
import Contactless.Proofs.Apdu.Framing
import Contactless.Proofs.Bench.Settling
import Contactless.Proofs.Bridge.Conservation
import Contactless.Proofs.Desk.Balance
import Contactless.Proofs.Desk.Operations
import Contactless.Proofs.Desk.Purpose
import Contactless.Proofs.Session.AfterEnding
import Contactless.Proofs.Session.Batches
import Contactless.Proofs.Session.BridgeOrder
import Contactless.Proofs.Session.Chaining
import Contactless.Proofs.Session.Dismissal
import Contactless.Proofs.Session.Dropping
import Contactless.Proofs.Session.Ending
import Contactless.Proofs.Session.Interruptions
import Contactless.Proofs.Session.Outcome
import Contactless.Proofs.Session.Overtaking
import Contactless.Proofs.Session.Ownership
import Contactless.Proofs.Session.PhaseConsistency
import Contactless.Proofs.Session.QueuedExchanges
import Contactless.Proofs.Session.Radio
import Contactless.Proofs.Session.Reading
import Contactless.Proofs.Session.Serialization
import Contactless.Proofs.Session.TagSelection
import Contactless.Proofs.Session.Timekeeping
import Contactless.Proofs.Session.Unread
import Contactless.Proofs.Session.Upkeep
import Contactless.Proofs.Vendor.Versions
