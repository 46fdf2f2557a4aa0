import ClusterTopology.Main
import ClusterTopology.Program
import ClusterTopology.Proofs.Rack.Zones
import ClusterTopology.Proofs.Rack.Retry
import ClusterTopology.Proofs.Rack.Permanence
import ClusterTopology.Proofs.Status.Reordering
import ClusterTopology.Proofs.Status.Settled
import ClusterTopology.Proofs.Program.RackLabels
import ClusterTopology.Proofs.Status.Restored
import ClusterTopology.Proofs.Status.Draft
import ClusterTopology.Proofs.Status.Repetition
import ClusterTopology.Proofs.Program.FixedPoint
import ClusterTopology.Proofs.Rack.Success
import ClusterTopology.Proofs.Status.ZoneChoice
import ClusterTopology.Proofs.Status.RackDomain
import ClusterTopology.Proofs.Rack.Purity
import ClusterTopology.Proofs.Json.LineEnds
import ClusterTopology.Proofs.Status.Assignment
import ClusterTopology.Proofs.Planner.Input
import ClusterTopology.Proofs.Planner.Earlier
import ClusterTopology.Proofs.Planner.Prediction
import ClusterTopology.Proofs.Rack.Choice
import ClusterTopology.Proofs.Rack.Interruption
import ClusterTopology.Proofs.Rack.Fairness
import ClusterTopology.Proofs.Rack.Spread
import ClusterTopology.Proofs.Program.StatusFile
import ClusterTopology.Proofs.Rack.Economy
import ClusterTopology.Proofs.Rack.Naming
import ClusterTopology.Proofs.Rack.Resumption
import ClusterTopology.Proofs.Status.Faults
import ClusterTopology.Proofs.Rack.Placement
import ClusterTopology.Proofs.Declaration
import ClusterTopology.Proofs.Selector.Validity
import ClusterTopology.Proofs.Planner.Malformed
import ClusterTopology.Proofs.Rack.Labelling
import ClusterTopology.Proofs.Status.ZoneKey
import ClusterTopology.Proofs.Topology.Sighting
import ClusterTopology.Proofs.Selector.Eligibility
import ClusterTopology.Proofs.Rack.RoundRobin
import ClusterTopology.Proofs.Config.NodeList
import ClusterTopology.Proofs.Topology.Canonical
import ClusterTopology.Proofs.Rack.Arrival
