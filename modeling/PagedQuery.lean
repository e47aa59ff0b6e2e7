import PagedQuery.Client
import PagedQuery.Server.Script
import PagedQuery.View.Inspect
import PagedQuery.View.Read
import PagedQuery.View.Stream
import PagedQuery.Proofs.Collect.Cap
import PagedQuery.Proofs.Walk.Agreement
import PagedQuery.Proofs.View.Operation
import PagedQuery.Proofs.Walk.Trace
import PagedQuery.Proofs.History.Replay
import PagedQuery.Proofs.History.Failure
import PagedQuery.Proofs.History.Requests
import PagedQuery.Proofs.Walk.Extent
import PagedQuery.Proofs.History.Independence
import PagedQuery.Proofs.Term.RoundTrip
import PagedQuery.Proofs.Term.Depth
import PagedQuery.Proofs.Term.Descent
import PagedQuery.Proofs.Term.Refusal
import PagedQuery.Proofs.History.Overrun
import PagedQuery.Proofs.Filter.Built
import PagedQuery.Proofs.Filter.Bracketing
import PagedQuery.Proofs.Filter.Meaning
import PagedQuery.Proofs.Filter.Rendering
import PagedQuery.Proofs.View.Query
import PagedQuery.Proofs.History.Rows
import PagedQuery.Proofs.Http.Target
import PagedQuery.Proofs.View.Positions
import PagedQuery.Proofs.Filter.Comparison
import PagedQuery.Proofs.Text.Splitting
import PagedQuery.Proofs.Filter.Lookups
import PagedQuery.Proofs.Filter.Paths
import PagedQuery.Proofs.Json.Keys
import PagedQuery.Proofs.Record.Leaves
import PagedQuery.Proofs.Record.Dotted
import PagedQuery.Proofs.Record.Recovery
import PagedQuery.Proofs.Record.Resolution
import PagedQuery.Proofs.History.Ranges
import PagedQuery.Proofs.RangeHeader
import PagedQuery.Proofs.Walk.Chunks
import PagedQuery.Proofs.Paths
import PagedQuery.Proofs.History.Headers
import PagedQuery.Proofs.Http.Outcome
