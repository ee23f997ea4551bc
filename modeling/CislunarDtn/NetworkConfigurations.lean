import CislunarDtn.DecimalTexts
import Mathlib.Data.List.Nodup
import Mathlib.Data.Rat.Floor

/-!
# Network configurations and their validation

The vendor-neutral configuration of a node, as far as the backend files are
generated from it. Validation collects all errors: node numbers that are used
twice, references to nodes that are not defined, contacts that end before they
start. It looks at no link, no host and no service.
-/

namespace CislunarDtn.NetworkConfigurations

open DecimalTexts

/-- An endpoint identifier. -/
inductive EndpointId where
  /-- ipn:node_number.service_number -/
  | ipn (nodeNumber serviceNumber : UInt64)
  /-- dtn://authority/path -/
  | dtn (authority path : Text)
  deriving DecidableEq

/-- A service demultiplexing token. -/
structure ServiceDemux where
  /-- Number of the service. -/
  serviceNumber : UInt64
  /-- What the service is, in words. -/
  description : Option Text
  deriving DecidableEq

/-- The local node. -/
structure NodeDefinition where
  /-- Node identifier. -/
  nodeNumber : UInt64
  /-- Endpoint named after the station's callsign. -/
  callsignEid : Option EndpointId
  /-- Services of the node. -/
  services : List ServiceDemux
  deriving DecidableEq

/-- A convergence layer link to a neighbor. -/
inductive ConvergenceLayerLink where
  /-- LTP over UDP. -/
  | ltpUdp (id : Text) (localEngineId remoteEngineId : UInt64) (remoteHost : Text)
      (remotePort localPort : UInt16) (mtu : Option UInt32)
  /-- TCP convergence layer. -/
  | tcpCl (id remoteHost : Text) (remotePort : UInt16) (localPort : Option UInt16)
  /-- KISS framing over a TNC. -/
  | kiss (id tncDevice : Text) (localEngineId remoteEngineId : UInt64) (frameSize : Option UInt32)
  /-- Plain UDP. -/
  | udp (id remoteHost : Text) (remotePort : UInt16) (localPort : Option UInt16)
  deriving DecidableEq

/-- A directly reachable node. -/
structure Neighbor where
  /-- Node identifier. -/
  nodeNumber : UInt64
  /-- Links to the node. -/
  links : List ConvergenceLayerLink
  deriving DecidableEq

/-- A scheduled communication opportunity. -/
structure Contact where
  /-- Sending node. -/
  sourceNode : UInt64
  /-- Receiving node. -/
  destNode : UInt64
  /-- Start, Unix seconds. -/
  startTime : Int64
  /-- End, Unix seconds. -/
  endTime : Int64
  /-- Bits per second. -/
  rateBps : UInt64
  deriving DecidableEq

/-- A floating point number, with its exact value where it is finite. -/
inductive Float64 where
  /-- Not a number. -/
  | nan
  /-- One of the infinities. -/
  | infinite (negative : Bool)
  /-- A finite number. -/
  | finite (value : ℚ)
  deriving DecidableEq

/-- Propagation delay between two nodes. -/
structure Range where
  /-- Sending node. -/
  sourceNode : UInt64
  /-- Receiving node. -/
  destNode : UInt64
  /-- One-way light time in seconds. -/
  owltSecs : Float64
  deriving DecidableEq

/-- Contacts and ranges. -/
structure ContactPlan where
  /-- Scheduled contacts. -/
  contacts : List Contact
  /-- Propagation delays. -/
  ranges : List Range
  deriving DecidableEq

/-- How routes are found. -/
inductive RoutingStrategy where
  /-- Contact graph routing. -/
  | cgr
  /-- Static routes. -/
  | static
  /-- Whatever the backend does. -/
  | default
  deriving DecidableEq

/-- A static route. -/
structure StaticRoute where
  /-- Where the bundles go. -/
  destinationNode : UInt64
  /-- The node they are sent to. -/
  nextHopNode : UInt64
  deriving DecidableEq

/-- Strategy and static routes. -/
structure RoutingConfig where
  /-- The strategy. -/
  strategy : RoutingStrategy
  /-- Routes of the static strategy. -/
  staticRoutes : List StaticRoute
  deriving DecidableEq

/-- Where bundles are kept. -/
structure StorageConfig where
  /-- Directory of the bundles. -/
  path : Text
  deriving DecidableEq

/-- A value among the backend options. -/
inductive OptionValue where
  /-- A string. -/
  | string (text : Text)
  /-- A value of another kind. -/
  | other
  deriving DecidableEq

/-- The configuration of a node. -/
structure NetworkConfiguration where
  /-- Name of the backend adapter. -/
  backend : Text
  /-- The local node. -/
  localNode : NodeDefinition
  /-- Neighbors and their links. -/
  neighbors : List Neighbor
  /-- Contacts and ranges. -/
  contactPlan : ContactPlan
  /-- Routing. -/
  routing : RoutingConfig
  /-- Storage, if bundles are to be kept. -/
  storage : Option StorageConfig
  /-- Backend options by name. -/
  backendOptions : List (Text × OptionValue)
  deriving DecidableEq

/-- All links, neighbor by neighbor. -/
def NetworkConfiguration.links (config : NetworkConfiguration) : List ConvergenceLayerLink :=
  config.neighbors.flatMap Neighbor.links

/-- One violation found by validation. -/
structure ValidationDetail where
  /-- Where the invalid value is. -/
  path : Text
  /-- The rule it violates. -/
  rule : Text
  /-- Description. -/
  message : Text
  deriving DecidableEq

/-- Numbers of the nodes that may be referred to. -/
def definedNodes (config : NetworkConfiguration) : List UInt64 :=
  config.localNode.nodeNumber :: config.neighbors.map Neighbor.nodeNumber

/-- Neighbors with the local node's number. -/
def checkDuplicateLocalNode (config : NetworkConfiguration) : List ValidationDetail :=
  config.neighbors.zipIdx.flatMap fun (neighbor, i) =>
    if neighbor.nodeNumber = config.localNode.nodeNumber then
      [⟨chars s!"neighbors[{i}].node_number", chars "duplicate_node_number",
        chars s!"Neighbor node_number {neighbor.nodeNumber} duplicates local_node.node_number"⟩]
    else []

/-- Neighbors from this index on whose number has been seen. -/
def duplicatesAmong (seen : List UInt64) (i : ℕ) : List Neighbor → List ValidationDetail
  | [] => []
  | neighbor :: rest =>
    if neighbor.nodeNumber ∈ seen then
      ⟨chars s!"neighbors[{i}].node_number", chars "duplicate_node_number",
        chars (s!"Duplicate neighbor node_number {neighbor.nodeNumber} " ++
          "(already defined by another neighbor)")⟩ :: duplicatesAmong seen (i + 1) rest
    else duplicatesAmong (neighbor.nodeNumber :: seen) (i + 1) rest

/-- Neighbors that share a number. -/
def checkDuplicateNeighborNodes (config : NetworkConfiguration) : List ValidationDetail :=
  duplicatesAmong [] 0 config.neighbors

/-- The error of one field that refers to a node. -/
def checkNodeReference (defined : List UInt64) (list label field : String) (i : ℕ)
    (node : UInt64) : List ValidationDetail :=
  if node ∈ defined then []
  else
    [⟨chars s!"{list}[{i}].{field}", chars "referential_integrity",
      chars s!"{label} {field} {node} does not reference a defined node"⟩]

/-- The errors of a list whose entries refer to two nodes each. -/
def checkNodeReferences (defined : List UInt64) (list label field₁ field₂ : String)
    (references : List (UInt64 × UInt64)) : List ValidationDetail :=
  references.zipIdx.flatMap fun (nodes, i) =>
    checkNodeReference defined list label field₁ i nodes.1 ++
      checkNodeReference defined list label field₂ i nodes.2

/-- Contacts between undefined nodes. -/
def checkContactNodeReferences (config : NetworkConfiguration) : List ValidationDetail :=
  checkNodeReferences (definedNodes config) "contact_plan.contacts" "Contact" "source_node"
    "dest_node" (config.contactPlan.contacts.map fun c => (c.sourceNode, c.destNode))

/-- Ranges between undefined nodes. -/
def checkRangeNodeReferences (config : NetworkConfiguration) : List ValidationDetail :=
  checkNodeReferences (definedNodes config) "contact_plan.ranges" "Range" "source_node"
    "dest_node" (config.contactPlan.ranges.map fun r => (r.sourceNode, r.destNode))

/-- Contacts that do not start before they end. -/
def checkContactTemporalConstraints (config : NetworkConfiguration) : List ValidationDetail :=
  config.contactPlan.contacts.zipIdx.flatMap fun (contact, i) =>
    if contact.startTime ≥ contact.endTime then
      [⟨chars s!"contact_plan.contacts[{i}]", chars "temporal_order",
        chars (s!"Contact start_time ({contact.startTime}) must be less than " ++
          s!"end_time ({contact.endTime})")⟩]
    else []

/-- Static routes between undefined nodes. -/
def checkStaticRouteReferences (config : NetworkConfiguration) : List ValidationDetail :=
  if config.routing.strategy ≠ .static then []
  else
    checkNodeReferences (definedNodes config) "routing.static_routes" "Static route"
      "destination_node" "next_hop_node"
      (config.routing.staticRoutes.map fun r => (r.destinationNode, r.nextHopNode))

/-- Validation: all errors, or none. -/
def validate (config : NetworkConfiguration) : Except (List ValidationDetail) Unit :=
  let errors := checkDuplicateLocalNode config ++ checkDuplicateNeighborNodes config ++
    checkContactNodeReferences config ++ checkRangeNodeReferences config ++
    checkContactTemporalConstraints config ++ checkStaticRouteReferences config
  if errors.isEmpty then .ok () else .error errors

/-- What a configuration without errors guarantees. -/
structure Valid (config : NetworkConfiguration) : Prop where
  /-- No neighbor has the local number. -/
  localDistinct : ∀ neighbor ∈ config.neighbors,
    neighbor.nodeNumber ≠ config.localNode.nodeNumber
  /-- Neighbors have different numbers. -/
  neighborsDistinct : (config.neighbors.map Neighbor.nodeNumber).Nodup
  /-- Contacts refer to defined nodes. -/
  contacts : ∀ contact ∈ config.contactPlan.contacts,
    contact.sourceNode ∈ definedNodes config ∧ contact.destNode ∈ definedNodes config
  /-- Ranges refer to defined nodes. -/
  ranges : ∀ range ∈ config.contactPlan.ranges,
    range.sourceNode ∈ definedNodes config ∧ range.destNode ∈ definedNodes config
  /-- Contacts start before they end. -/
  times : ∀ contact ∈ config.contactPlan.contacts, contact.startTime < contact.endTime
  /-- Static routes refer to defined nodes. -/
  routes : config.routing.strategy = .static → ∀ route ∈ config.routing.staticRoutes,
    route.destinationNode ∈ definedNodes config ∧ route.nextHopNode ∈ definedNodes config

section validation

/-- A loop with indices reports nothing exactly when it reports nothing at any entry. -/
theorem flatMap_zipIdx_eq_nil_iff {α β : Type*} {l : List α} {f : α × ℕ → List β} {p : α → Prop}
    (h : ∀ a i, f (a, i) = [] ↔ p a) (k : ℕ) : (l.zipIdx k).flatMap f = [] ↔ ∀ a ∈ l, p a := by
  induction l generalizing k with
  | nil => simp
  | cons a l ih =>
    rw [List.zipIdx_cons, List.flatMap_cons, List.append_eq_nil_iff, h, ih, List.forall_mem_cons]

theorem checkDuplicateLocalNode_eq_nil_iff {config : NetworkConfiguration} :
    checkDuplicateLocalNode config = [] ↔ ∀ neighbor ∈ config.neighbors,
      neighbor.nodeNumber ≠ config.localNode.nodeNumber := by
  refine flatMap_zipIdx_eq_nil_iff (fun neighbor i => ?_) 0
  dsimp only
  split <;> simp_all

theorem duplicatesAmong_eq_nil_iff {seen : List UInt64} {i : ℕ} {neighbors : List Neighbor} :
    duplicatesAmong seen i neighbors = [] ↔ (neighbors.map Neighbor.nodeNumber).Nodup ∧
      ∀ neighbor ∈ neighbors, neighbor.nodeNumber ∉ seen := by
  induction neighbors generalizing seen i with
  | nil => simp [duplicatesAmong]
  | cons neighbor rest ih =>
    rw [duplicatesAmong, List.map_cons, List.nodup_cons, List.forall_mem_cons]
    by_cases hseen : neighbor.nodeNumber ∈ seen
    · simp [hseen]
    · rw [if_neg hseen, ih]
      have hfirst : (∀ other ∈ rest, other.nodeNumber ∉ neighbor.nodeNumber :: seen) ↔
          neighbor.nodeNumber ∉ rest.map Neighbor.nodeNumber ∧
            ∀ other ∈ rest, other.nodeNumber ∉ seen := by
        simp only [List.mem_cons, not_or, List.mem_map, not_exists, not_and, forall_and]
      rw [hfirst]
      tauto

theorem checkNodeReference_eq_nil_iff {defined : List UInt64} {list label field : String} {i : ℕ}
    {node : UInt64} : checkNodeReference defined list label field i node = [] ↔
      node ∈ defined := by
  unfold checkNodeReference
  split <;> simp_all

theorem checkNodeReferences_eq_nil_iff {defined : List UInt64}
    {list label field₁ field₂ : String} {references : List (UInt64 × UInt64)} :
    checkNodeReferences defined list label field₁ field₂ references = [] ↔
      ∀ nodes ∈ references, nodes.1 ∈ defined ∧ nodes.2 ∈ defined := by
  refine flatMap_zipIdx_eq_nil_iff (fun nodes i => ?_) 0
  rw [List.append_eq_nil_iff, checkNodeReference_eq_nil_iff, checkNodeReference_eq_nil_iff]

theorem checkContactTemporalConstraints_eq_nil_iff {config : NetworkConfiguration} :
    checkContactTemporalConstraints config = [] ↔ ∀ contact ∈ config.contactPlan.contacts,
      contact.startTime < contact.endTime := by
  refine flatMap_zipIdx_eq_nil_iff (fun contact i => ?_) 0
  dsimp only
  split
  next h => simpa using Int64.not_lt.mpr h
  next h => simpa using Int64.not_le.mp h

theorem checkStaticRouteReferences_eq_nil_iff {config : NetworkConfiguration} :
    checkStaticRouteReferences config = [] ↔ (config.routing.strategy = .static →
      ∀ route ∈ config.routing.staticRoutes,
        route.destinationNode ∈ definedNodes config ∧
          route.nextHopNode ∈ definedNodes config) := by
  unfold checkStaticRouteReferences
  split
  next h => simp [h]
  next h =>
    rw [checkNodeReferences_eq_nil_iff, List.forall_mem_map]
    simp [not_not.mp h]

/-- Validation succeeds exactly on configurations with all these guarantees. -/
theorem validate_eq_ok_iff {config : NetworkConfiguration} :
    validate config = .ok () ↔ Valid config := by
  have hok : validate config = .ok () ↔ checkDuplicateLocalNode config ++
      checkDuplicateNeighborNodes config ++ checkContactNodeReferences config ++
      checkRangeNodeReferences config ++ checkContactTemporalConstraints config ++
      checkStaticRouteReferences config = [] := by
    unfold validate
    dsimp only
    split
    next h => simpa using h
    next h => simpa using h
  rw [hok]
  simp only [List.append_eq_nil_iff, checkDuplicateLocalNode_eq_nil_iff,
    checkContactTemporalConstraints_eq_nil_iff, checkStaticRouteReferences_eq_nil_iff,
    checkDuplicateNeighborNodes, duplicatesAmong_eq_nil_iff, checkContactNodeReferences,
    checkRangeNodeReferences, checkNodeReferences_eq_nil_iff, List.forall_mem_map]
  constructor
  · rintro ⟨⟨⟨⟨⟨hlocal, hneighbors, -⟩, hcontacts⟩, hranges⟩, htimes⟩, hroutes⟩
    exact ⟨hlocal, hneighbors, hcontacts, hranges, htimes, hroutes⟩
  · intro h
    exact ⟨⟨⟨⟨⟨h.localDistinct, h.neighborsDistinct, fun _ _ => List.not_mem_nil⟩, h.contacts⟩,
      h.ranges⟩, h.times⟩, h.routes⟩

end validation

end CislunarDtn.NetworkConfigurations
