import Verbatim.Main
import Verbatim.Proofs.Writing
import Verbatim.Proofs.Feeding
import Verbatim.Proofs.Composition
import Verbatim.Proofs.Observing
import Verbatim.Proofs.AnyOrder
import Verbatim.Proofs.AnyOffset
import Verbatim.Proofs.Sessions
import Verbatim.Proofs.Truncation
import Verbatim.Proofs.Conversation
import Verbatim.Proofs.Misindentation
import Verbatim.Proofs.Recovery
import Verbatim.Proofs.MarkerLength
import Verbatim.Proofs.Insertion
import Verbatim.Proofs.Reindentation
import Verbatim.Proofs.LineEnds
import Verbatim.Proofs.Boundaries
import Verbatim.Proofs.Complaints
import Verbatim.Proofs.FormerMarkers
import Verbatim.Proofs.ForwardReading
import Verbatim.Proofs.Listings
import Verbatim.Proofs.MarkerPattern
import Verbatim.Proofs.WiderWhitespace
