import CallScope.Host
import CallScope.Main
import CallScope.Proofs.ClosedOnce
import CallScope.Proofs.Bookkeeping
import CallScope.Proofs.IndexedCalls
import CallScope.Proofs.Tracing
import CallScope.Proofs.IdleSetters
import CallScope.Proofs.Shortening
import CallScope.Proofs.Decimal
import CallScope.Proofs.NumberText
import CallScope.Proofs.StringText
import CallScope.Proofs.JsonText
import CallScope.Proofs.PlainText
import CallScope.Proofs.RoundTrip
import CallScope.Proofs.InHand
import CallScope.Proofs.CallForms
import CallScope.Proofs.CallEntries
import CallScope.Proofs.MessageForms
import CallScope.Proofs.Replaying
import CallScope.Proofs.Schema
import CallScope.Proofs.EmbeddedCalls
import CallScope.Proofs.Reordering
import CallScope.Proofs.ReadingBack
import CallScope.Proofs.Refusals
import CallScope.Proofs.CompactEntries
import CallScope.Proofs.TwoShapes
import CallScope.Proofs.ResponseUsage
import CallScope.Proofs.Observing
import CallScope.Proofs.Normalizing
import CallScope.Proofs.RequestParameters
import CallScope.Proofs.TextParts
import CallScope.Proofs.LoadingPaths
import CallScope.Proofs.PartialConfig
import CallScope.Proofs.Endpoints
import CallScope.Proofs.Scaling
import CallScope.Proofs.BlindToDoubles
