import Polystore.Main
import Polystore.Proofs.History.Recovery
import Polystore.Proofs.History.Restart
import Polystore.Proofs.Query.DocumentForm
import Polystore.Proofs.History.Agreement
import Polystore.Proofs.Query.Grammar
import Polystore.Proofs.Query.Acceptance
import Polystore.Proofs.Query.Rendering
import Polystore.Proofs.Routing.Candidates
import Polystore.Proofs.Routing.Located
import Polystore.Proofs.Routing.Selected
import Polystore.Proofs.Routing.Isolation
import Polystore.Proofs.Routing.Recording
import Polystore.Proofs.Query.ReadingBack
import Polystore.Proofs.Numeral.Ordering
import Polystore.Proofs.Routing.Preference
import Polystore.Proofs.Routing.Renditions
import Polystore.Proofs.Routing.Recommending
import Polystore.Proofs.Routing.AloneAndCompared
import Polystore.Proofs.Learning.Independence
import Polystore.Proofs.Routing.FailedMetrics
import Polystore.Proofs.Query.Addressing
import Polystore.Proofs.Query.Targets
import Polystore.Proofs.Query.AllOrNothing
import Polystore.Proofs.Routing.Timing
import Polystore.Proofs.Learning.Restoring
import Polystore.Proofs.Routing.Unlearned
import Polystore.Proofs.History.Opening
import Polystore.Proofs.Query.Restating
import Polystore.Proofs.Query.Sifting
import Polystore.Proofs.Routing.ByPosition
import Polystore.Proofs.Numeral.Nearest
import Polystore.Proofs.Numeral.WholeFloats
import Polystore.Proofs.Query.Integers
import Polystore.Proofs.Json.Numbers
import Polystore.Proofs.Json.Rereading
import Polystore.Proofs.Json.Spacing
import Polystore.Proofs.Store.SetThenGet
import Polystore.Proofs.Store.Patterns
import Polystore.Proofs.Store.Changes
import Polystore.Proofs.History.Statistics
import Polystore.Proofs.Text.Lowercase
import Polystore.Proofs.Query.Signature
import Polystore.Proofs.Query.Normalization
import Polystore.Proofs.History.Substrings
import Polystore.Proofs.Learning.Turnover
import Polystore.Proofs.Query.Joining
import Polystore.Proofs.History.Backlog
