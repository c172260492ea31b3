import ReplicaAtlas.Command.Files
import ReplicaAtlas.Main
import ReplicaAtlas.Proofs.Member.FanOut
import ReplicaAtlas.Proofs.Simulation.Conservation
import ReplicaAtlas.Proofs.Store.LastWrite
import ReplicaAtlas.Proofs.Store.Scope
import ReplicaAtlas.Proofs.Atlas.Reading
import ReplicaAtlas.Proofs.Policy.Precedence
import ReplicaAtlas.Proofs.Atlas.Governing
import ReplicaAtlas.Proofs.Topology.Identity
import ReplicaAtlas.Proofs.Topology.Shape
import ReplicaAtlas.Proofs.Atlas.Failure
import ReplicaAtlas.Proofs.Atlas.View
import ReplicaAtlas.Distribution.Checked
import ReplicaAtlas.Proofs.Binding.Replicas
import ReplicaAtlas.Proofs.Binding.Lookup
import ReplicaAtlas.Proofs.Distribution.Accounts
import ReplicaAtlas.Proofs.Distribution.Exact
import ReplicaAtlas.Proofs.Distribution.LookUps
import ReplicaAtlas.Proofs.Distribution.Parts
import ReplicaAtlas.Proofs.Atlas.Distribution
import ReplicaAtlas.Proofs.Store.Import
import ReplicaAtlas.Proofs.Atlas.Agreement
import ReplicaAtlas.Proofs.Placement.Choice
import ReplicaAtlas.Proofs.Simulation.Agreement
import ReplicaAtlas.Proofs.Allocation.Shares
import ReplicaAtlas.Proofs.Allocation.Even
import ReplicaAtlas.Proofs.Groups
import ReplicaAtlas.Proofs.Store.Keys
import ReplicaAtlas.Member.Exchange
import ReplicaAtlas.Proofs.Member.Calls
import ReplicaAtlas.Proofs.Member.Pods
import ReplicaAtlas.Proofs.Atlas.Calls
import ReplicaAtlas.Proofs.Topology.Edges
import ReplicaAtlas.Proofs.Simulation.Unsupported
import ReplicaAtlas.Proofs.Atlas.Outage
import ReplicaAtlas.Proofs.Distribution.Workloads
import ReplicaAtlas.Proofs.Phase
import ReplicaAtlas.Proofs.StatusCount
import ReplicaAtlas.Proofs.Member.Ownership
import ReplicaAtlas.Proofs.Simulation.Warnings
import ReplicaAtlas.Proofs.Allocation.Ratios
import ReplicaAtlas.Proofs.Binding.Ready
import ReplicaAtlas.Proofs.Encoding.Stored
import ReplicaAtlas.Proofs.Placement.Weights
import ReplicaAtlas.Proofs.Duration
import ReplicaAtlas.Proofs.Member.PodQuery
import ReplicaAtlas.Proofs.Config
