import Ipam.Allocation.Backend
import Ipam.Allocation.Error
import Ipam.Allocation.Infoblox
import Ipam.Allocation.Local
import Ipam.Binary64
import Ipam.Binary64.Shortest
import Ipam.Binding
import Ipam.Cluster.Controller
import Ipam.Cluster.Document
import Ipam.Cluster.Server
import Ipam.Cluster.Turns
import Ipam.Config.Arguments
import Ipam.Config.Settings
import Ipam.Coordinator
import Ipam.Coordinator.Queue
import Ipam.Files
import Ipam.Grid.Client
import Ipam.Grid.Error
import Ipam.Grid.Labels
import Ipam.Grid.Memory
import Ipam.Grid.Object
import Ipam.Grid.Rest
import Ipam.Grid.StatusCode
import Ipam.Grid.Url
import Ipam.Json
import Ipam.Json.Decode
import Ipam.Json.Kept
import Ipam.Json.Parser
import Ipam.Main
import Ipam.Metrics
import Ipam.Net.Address
import Ipam.Net.Network
import Ipam.Net.Range
import Ipam.Net.Socket
import Ipam.Net.Target
import Ipam.Operation
import Ipam.Pool.Config
import Ipam.Pool.Database
import Ipam.Pool.Store
import Ipam.Pool.Token
import Ipam.Reconcile
import Ipam.Resource
import Ipam.Resource.Codec
import Ipam.Resource.Definition
import Ipam.Resource.Shape
import Ipam.Startup
import Ipam.Status
import Ipam.Table
import Ipam.Text.Base64
import Ipam.Text.Blank
import Ipam.Text.Decimal
import Ipam.Text.Percent
import Ipam.Text.Quoted
import Ipam.Text.Quotes
import Ipam.Text.Split
import Ipam.Text.Unprintable
import Ipam.Timestamp
import Ipam.Watch.Cache
import Ipam.Proofs.Cluster.Agreement
import Ipam.Proofs.Coordinator.Desired
import Ipam.Proofs.Coordinator.Ownership
import Ipam.Proofs.Allocation.Deployment
import Ipam.Proofs.Coordinator.Removal
import Ipam.Proofs.Coordinator.Replay
import Ipam.Proofs.Coordinator.Relist
import Ipam.Proofs.Allocation.Failure
import Ipam.Proofs.Coordinator.Records
import Ipam.Proofs.Coordinator.Sharing
import Ipam.Proofs.Watch.Cache
import Ipam.Proofs.Cluster.Reclaim
import Ipam.Proofs.Coordinator.Queue
import Ipam.Proofs.Pool.Changes
import Ipam.Proofs.Pool.Lowest
import Ipam.Proofs.Coordinator.Confinement
import Ipam.Proofs.Allocation.Labels
import Ipam.Proofs.Pool.Adjustment
import Ipam.Proofs.Watch.Classification
import Ipam.Proofs.Watch.Telescope
import Ipam.Proofs.Cluster.Watching
import Ipam.Proofs.Pool.Exact
import Ipam.Proofs.Status.Fold
import Ipam.Proofs.Json
import Ipam.Proofs.Net.Expansion
import Ipam.Proofs.Timestamp
import Ipam.Proofs.Resource.Codec
import Ipam.Proofs.Status.Replay
import Ipam.Proofs.Net.Grammar
import Ipam.Proofs.Grid.Commands
import Ipam.Proofs.Allocation.Safety
import Ipam.Proofs.Allocation.Setup
import Ipam.Proofs.Grid.Query
import Ipam.Proofs.Net.Canonical
