import MediaGraph.Graph.Json
import MediaGraph.Instance
import MediaGraph.Client.Link
import MediaGraph.Client.Endpoint
import MediaGraph.Server.Administration
import MediaGraph.Server.Backend
import MediaGraph.Script.Json
import MediaGraph.Proofs.Graph.Register
import MediaGraph.Proofs.Graph.Listing
import MediaGraph.Proofs.Subscriber.History
import MediaGraph.Proofs.Server.Isolation
import MediaGraph.Proofs.Server.Stream
import MediaGraph.Proofs.Subscriber.Queue
import MediaGraph.Proofs.Client.Observers
import MediaGraph.Proofs.Convergence
import MediaGraph.Proofs.Client.Acknowledgement
import MediaGraph.Proofs.Client.Poison
import MediaGraph.Proofs.Client.Snapshot
import MediaGraph.Proofs.Client.Publishing
import MediaGraph.Proofs.Client.Ledger
import MediaGraph.Proofs.Agreement
import MediaGraph.Proofs.Server.Duplicates
import MediaGraph.Proofs.Server.Allocation
import MediaGraph.Proofs.Client.Endpoints
import MediaGraph.Proofs.Client.Linking
import MediaGraph.Proofs.Sessions
import MediaGraph.Proofs.Client.Batching
import MediaGraph.Proofs.Server.Assignment
import MediaGraph.Proofs.Server.Tenure
import MediaGraph.Proofs.Server.Pending
import MediaGraph.Proofs.Server.Searching
import MediaGraph.Proofs.Server.Positions
import MediaGraph.Proofs.Json.Reading
import MediaGraph.Proofs.Json.Records
import MediaGraph.Proofs.Server.Runtime
import MediaGraph.Proofs.Tenancy
import MediaGraph.Proofs.Client.Readiness
import MediaGraph.Proofs.Client.Currency
import MediaGraph.Proofs.Client.Arrival
import MediaGraph.Proofs.Client.Assembly
import MediaGraph.Proofs.Client.Passage
import MediaGraph.Proofs.Client.Showing
import MediaGraph.Proofs.Client.Retries
import MediaGraph.Proofs.Client.Lengths
import MediaGraph.Proofs.Client.OneTurn
import MediaGraph.Proofs.Publication
import MediaGraph.Proofs.Client.Resolving
import MediaGraph.Proofs.Graph.Classification
import MediaGraph.Proofs.Json.Layout
import MediaGraph.Proofs.Json.Partial
import MediaGraph.Proofs.Barrier
import MediaGraph.Proofs.Properties
