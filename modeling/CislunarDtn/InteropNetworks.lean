import CislunarDtn.HardyDocuments
import CislunarDtn.IonDatabases
import CislunarDtn.IonDuplicates
import CislunarDtn.ListeningSides
import Mathlib.Logic.Relation

/-!
# Networks of ION and Hardy nodes

Nodes with configurations of their own, each run by ION or by Hardy. The files
of a node name the engines, hosts and ports to which bundles for a destination
leave, and the engine and port at which it listens. Where the links of the nodes
face each other, bundles go where the configurations say, whichever backend runs
which node.
-/

namespace CislunarDtn.InteropNetworks

open DecimalTexts HardyDocuments HardyFiles IonDatabases IonDeclarations IonDuplicates IonScripts
  ListeningSides NetworkConfigurations TextScans

/-- The program that runs a node. -/
inductive Backend where
  /-- ION, from its admin scripts. -/
  | ion
  /-- Hardy with its LTP server. -/
  | hardy
  deriving DecidableEq

/-- Where the segments of a bundle go. -/
structure Hop where
  /-- Engine at the other end. -/
  engineId : UInt64
  /-- Host of that engine. -/
  remoteHost : Text
  /-- Its port. -/
  remotePort : UInt16
  /-- Largest segment. -/
  segmentSize : UInt32
  deriving DecidableEq

section files

/-- A node is the next one towards a destination: the destination itself or the next hop of a
static route. -/
def IsNext (config : NetworkConfiguration) (destination node : UInt64) : Prop :=
  node = destination ∨ ⟨destination, node⟩ ∈ plannedRoutes config

/-- ION has a plan for the destination whose duct is declared and has a span. -/
structure IonSends (config : NetworkConfiguration) (destination : UInt64) (hop : Hop) : Prop where
  /-- The plan, in the .ipnrc file. -/
  plan : (destination, .ltp hop.engineId) ∈ (databaseOf config).plans
  /-- The duct of the plan, in the .bprc file. -/
  outduct : .ltp hop.engineId ∈ (databaseOf config).outducts
  /-- The span of the duct's engine, in the .ltprc file. -/
  span : (hop.engineId, hop.segmentSize, .udplso hop.remoteHost hop.remotePort) ∈
    (databaseOf config).spans

/-- Hardy has a span for the next node, in the ltp-cla.yaml file. -/
def HardySends (config : NetworkConfiguration) (destination : UInt64) (hop : Hop) : Prop :=
  ∃ cla, ltpCla config = some cla ∧ ∃ span ∈ cla.spans, IsNext config destination span.nodeNumber ∧
    ⟨span.engineId, span.remoteHost, span.remotePort, span.maxSegmentSize⟩ = hop

/-- The hops over which the files of a node let bundles for a destination leave. -/
def Sends : Backend → NetworkConfiguration → UInt64 → Hop → Prop
  | .ion => IonSends
  | .hardy => HardySends

/-- The engine and port at which a node receives: with ION the listener needs an induct of the
engine. -/
def Listens : Backend → NetworkConfiguration → UInt64 × UInt16 → Prop
  | .ion, config, side =>
    ltprcListener (ltprcLines config) = some side ∧ .ltp side.1 ∈ (databaseOf config).inducts
  | .hardy, config, side => (ltpCla config).map claListener = some side

/-- The services that the files of a node register under its number. Hardy has the node itself
and the echo service in any case. -/
def Registers (L : Lowercasing) : Backend → NetworkConfiguration → UInt64 → Prop
  | .ion, config, service =>
    .ipn config.localNode.nodeNumber service ∈ declared endpointIn (bprcLines config)
  | .hardy, config, service =>
    service = 0 ∨ service = 7 ∨
      service ∈ (builtInServices L config.localNode).map BuiltInService.serviceNumber

end files

section hops

variable {config : NetworkConfiguration} {destination : UInt64} {hop : Hop}

/-- The hop over a link that uses LTP over UDP. -/
def hopOf : ConvergenceLayerLink → Option Hop
  | .ltpUdp _ _ remoteEngineId remoteHost remotePort _ mtu =>
    some ⟨remoteEngineId, remoteHost, remotePort, mtu.getD 1400⟩
  | _ => none

/-- A hop over a link to the next node. -/
def HasHop (config : NetworkConfiguration) (destination : UInt64) (hop : Hop) : Prop :=
  ∃ neighbor ∈ config.neighbors, IsNext config destination neighbor.nodeNumber ∧
    ∃ link ∈ neighbor.links, hopOf link = some hop

/-- All links use LTP over UDP, with the numbers of the neighbors as engines. -/
def NodeEngines (config : NetworkConfiguration) : Prop :=
  ∀ neighbor ∈ config.neighbors, ∀ link ∈ neighbor.links,
    ∃ hop, hopOf link = some hop ∧ hop.engineId = neighbor.nodeNumber

/-- Spans of the LTP server are the hops over links. -/
theorem mem_spans_ltpCla {span : LtpClaSpan} :
    (∃ cla, ltpCla config = some cla ∧ span ∈ cla.spans) ↔
      ∃ neighbor ∈ config.neighbors, ∃ link ∈ neighbor.links,
        claSpan (neighbor, link) = some span := by
  have hlinks : (∃ cla, ltpCla config = some cla ∧ span ∈ cla.spans) ↔
      span ∈ (ltpLinks config).filterMap claSpan := by
    unfold ltpCla
    cases hfirst : ltpLinks config with
    | nil => simp
    | cons pair rest =>
      have hmem : pair ∈ ltpLinks config := hfirst ▸ List.mem_cons_self
      obtain ⟨neighbor, link⟩ := pair
      have hltp : isLtpUdp link = true := (List.mem_filter.mp hmem).2
      cases link with
      | ltpUdp => simp [localSide]
      | tcpCl | kiss | udp => exact absurd hltp Bool.false_ne_true
  rw [hlinks, List.mem_filterMap]
  constructor
  · rintro ⟨⟨neighbor, link⟩, hpair, hspan⟩
    obtain ⟨n, hn, l, hl, heq⟩ :
        ∃ n ∈ config.neighbors, ∃ l ∈ n.links, (n, l) = (neighbor, link) := by
      simpa using (List.mem_filter.mp hpair).1
    rw [← heq] at hspan
    exact ⟨n, hn, l, hl, hspan⟩
  · rintro ⟨neighbor, hn, link, hl, hspan⟩
    have hltp : isLtpUdp link = true := by
      cases link with
      | ltpUdp => rfl
      | tcpCl | kiss | udp => cases hspan
    refine ⟨(neighbor, link), List.mem_filter.mpr ⟨?_, hltp⟩, hspan⟩
    exact List.mem_flatMap.mpr ⟨neighbor, hn, List.mem_map.mpr ⟨link, hl, rfl⟩⟩

/-- Hardy sends over the hops of the configuration. -/
theorem hardySends_iff : HardySends config destination hop ↔ HasHop config destination hop := by
  constructor
  · rintro ⟨cla, hcla, span, hspan, hnext, rfl⟩
    obtain ⟨neighbor, hn, link, hl, hof⟩ := mem_spans_ltpCla.mp ⟨cla, hcla, hspan⟩
    cases link with
    | ltpUdp =>
      cases hof
      exact ⟨neighbor, hn, hnext, _, hl, rfl⟩
    | tcpCl | kiss | udp => cases hof
  · rintro ⟨neighbor, hn, hnext, link, hl, hhop⟩
    cases link with
    | ltpUdp =>
      cases hhop
      obtain ⟨cla, hcla, hspan⟩ := mem_spans_ltpCla.mpr ⟨neighbor, hn, _, hl, rfl⟩
      exact ⟨cla, hcla, _, hspan, hnext, rfl⟩
    | tcpCl | kiss | udp => cases hhop

/-- Hops over links are the spans that leave through UDP sockets. -/
theorem hopOf_eq_some_iff {link : ConvergenceLayerLink} : hopOf link = some hop ↔
    spanEntryOf link =
      some (hop.engineId, hop.segmentSize, .udplso hop.remoteHost hop.remotePort) := by
  obtain ⟨engineId, remoteHost, remotePort, segmentSize⟩ := hop
  cases link <;> simp [hopOf, spanEntryOf]
  tauto

/-- A link with a hop has the outduct of the hop's engine. -/
theorem outductOf_of_hopOf {link : ConvergenceLayerLink} (h : hopOf link = some hop) :
    outductOf link = .ltp hop.engineId := by
  cases link with
  | ltpUdp =>
    cases h
    rfl
  | tcpCl | kiss | udp => cases h

/-- With the numbers of the neighbors as engines an outduct belongs to a link of that neighbor. -/
theorem NodeEngines.outductOf (h : NodeEngines config) {neighbor : Neighbor}
    (hn : neighbor ∈ config.neighbors) {link : ConvergenceLayerLink} (hl : link ∈ neighbor.links) :
    outductOf link = .ltp neighbor.nodeNumber := by
  obtain ⟨hop, hhop, hengine⟩ := h neighbor hn link hl
  rw [outductOf_of_hopOf hhop, hengine]

/-- ION has plans to the next nodes that are static next hops or neighbors with links. -/
theorem mem_plans_iff (h : NodeEngines config) {engineId : UInt64} :
    (destination, .ltp engineId) ∈ (databaseOf config).plans ↔
      ⟨destination, engineId⟩ ∈ plannedRoutes config ∨
        ∃ neighbor ∈ config.neighbors, neighbor.links ≠ [] ∧ neighbor.nodeNumber = destination ∧
          engineId = destination := by
  rw [mem_plans_databaseOf]
  refine or_congr ?_ (exists_congr fun neighbor => and_congr_right fun hn => ?_)
  · constructor
    · rintro ⟨⟨destinationNode, nextHopNode⟩, hroute, heq⟩
      cases heq
      exact hroute
    · intro hroute
      exact ⟨_, hroute, rfl⟩
  · unfold planOf
    cases hlinks : neighbor.links with
    | nil => simp
    | cons link rest =>
      have hduct : outductOf link = .ltp neighbor.nodeNumber :=
        h.outductOf hn (hlinks ▸ List.mem_cons_self)
      rw [List.head?_cons, Option.map_some, hduct]
      simp only [Option.some.injEq, Prod.mk.injEq, Duct.ltp.injEq, ne_eq, reduceCtorEq,
        not_false_eq_true, true_and]
      refine and_congr_right fun hnumber => ?_
      rw [hnumber, eq_comm]

/-- ION sends over the hops of the configuration if engines have the numbers of the nodes. -/
theorem ionSends_iff (h : NodeEngines config)
    (hlocal : ∀ neighbor ∈ config.neighbors, neighbor.nodeNumber ≠ config.localNode.nodeNumber) :
    IonSends config destination hop ↔ HasHop config destination hop := by
  constructor
  · rintro ⟨hplan, houtduct, hspan⟩
    -- the engine of the plan's duct is that of a neighbor, so the span is not the loopback
    obtain ⟨link, hl, hduct⟩ := mem_outducts_databaseOf.mp houtduct
    obtain ⟨neighbor, hn, hl⟩ := List.mem_flatMap.mp hl
    have hengine : neighbor.nodeNumber = hop.engineId := by
      simpa [h.outductOf hn hl] using hduct
    have hother : (hop.engineId, hop.segmentSize, SpanOutput.udplso hop.remoteHost hop.remotePort) ≠
        loopbackEntry config := by
      intro heq
      exact hlocal neighbor hn (hengine.trans (congrArg Prod.fst heq))
    obtain ⟨link', hl', hentry⟩ := (mem_spans_databaseOf.mp hspan).resolve_left hother
    obtain ⟨neighbor', hn', hl'⟩ := List.mem_flatMap.mp hl'
    have hhop : hopOf link' = some hop := hopOf_eq_some_iff.mpr hentry
    have hengine' : neighbor'.nodeNumber = hop.engineId := by
      simpa [h.outductOf hn' hl'] using outductOf_of_hopOf hhop
    refine ⟨neighbor', hn', ?_, link', hl', hhop⟩
    rw [IsNext, hengine']
    rcases (mem_plans_iff h).mp hplan with hroute | ⟨_, -, -, -, hdestination⟩
    · exact .inr hroute
    · exact .inl hdestination
  · rintro ⟨neighbor, hn, hnext, link, hl, hhop⟩
    have hlink : link ∈ config.links := List.mem_flatMap.mpr ⟨neighbor, hn, hl⟩
    have hduct : outductOf link = .ltp hop.engineId := outductOf_of_hopOf hhop
    have hengine : neighbor.nodeNumber = hop.engineId := by
      simpa [h.outductOf hn hl] using hduct
    constructor
    · rw [mem_plans_iff h, ← hengine]
      rcases hnext with hdestination | hroute
      · exact .inr ⟨neighbor, hn, List.ne_nil_of_mem hl, hdestination, hdestination⟩
      · exact .inl hroute
    · exact mem_outducts_databaseOf.mpr ⟨link, hlink, hduct⟩
    · exact mem_spans_databaseOf.mpr (.inr ⟨link, hlink, hopOf_eq_some_iff.mp hhop⟩)

/-- Either backend sends over the hops of the configuration. -/
theorem sends_iff (h : NodeEngines config)
    (hlocal : ∀ neighbor ∈ config.neighbors, neighbor.nodeNumber ≠ config.localNode.nodeNumber)
    (backend : Backend) : Sends backend config destination hop ↔ HasHop config destination hop := by
  cases backend with
  | ion => exact ionSends_iff h hlocal
  | hardy => exact hardySends_iff

end hops

section listeners

variable {config : NetworkConfiguration} {side : UInt64 × UInt16} (backend : Backend)

/-- Either backend listens at the local sides of the links. -/
theorem listens_of_localSide (h : OneListener config) {link : ConvergenceLayerLink}
    (hl : link ∈ config.links) (hside : localSide link = some side) :
    Listens backend config side := by
  obtain ⟨hltprc, hcla⟩ := served_iff.mpr h link hl side hside
  cases backend with
  | ion =>
    refine ⟨hltprc, mem_inducts_databaseOf.mpr ⟨link, hl, ?_⟩⟩
    cases link with
    | ltpUdp =>
      cases hside
      rfl
    | tcpCl | kiss | udp => cases hside
  | hardy => exact hcla

/-- Either backend listens as the engine with the number of the node. -/
theorem engine_of_listens (h : OneListener config) (hlistens : Listens backend config side) :
    side.1 = config.localNode.nodeNumber := by
  cases backend with
  | ion =>
    have hltprc := hlistens.1
    rw [ltprcListener_ltprcLines] at hltprc
    exact congrArg Prod.fst (Option.some.inj hltprc).symm
  | hardy =>
    have hcla : (ltpCla config).map claListener = some side := hlistens
    rw [claListener_ltpCla] at hcla
    obtain ⟨link, hl, hside⟩ := List.exists_of_findSome?_eq_some hcla
    exact h.engine link hl side hside

end listeners

section services

variable (L : Lowercasing)

/-- The services that are added are the configured ones whose numbers are not used yet. -/
theorem mem_addServices_iff {usedKeys : List Text} {usedNumbers : List UInt64}
    {services : List ServiceDemux} {number : UInt64} :
    (number ∈ usedNumbers ∨
      number ∈ (addServices L usedKeys usedNumbers services).map BuiltInService.serviceNumber) ↔
      number ∈ usedNumbers ∨ number ∈ services.map ServiceDemux.serviceNumber := by
  induction services generalizing usedKeys usedNumbers with
  | nil => simp [addServices]
  | cons svc services ih =>
    rw [addServices, List.map_cons, List.mem_cons]
    split
    next hused =>
      have hfirst : number = svc.serviceNumber → number ∈ usedNumbers := fun heq => heq ▸ hused
      rw [ih]
      tauto
    next hfree =>
      have hrest := @ih (keyName usedKeys (baseName L svc) svc.serviceNumber :: usedKeys)
        (svc.serviceNumber :: usedNumbers)
      rw [List.mem_cons] at hrest
      rw [List.map_cons, List.mem_cons]
      tauto

/-- The services that a node offers: its own, the configured ones, and with ION what the callsign's
endpoint names, with Hardy the echo service. -/
def Offers (backend : Backend) (node : NodeDefinition) (service : UInt64) : Prop :=
  service = 0 ∨ service ∈ node.services.map ServiceDemux.serviceNumber ∨
    match backend with
    | .ion => node.callsignEid = some (.ipn node.nodeNumber service)
    | .hardy => service = 7

theorem registers_iff (backend : Backend) (config : NetworkConfiguration) (service : UInt64) :
    Registers L backend config service ↔ Offers backend config.localNode service := by
  cases backend with
  | ion =>
    simp only [Registers, Offers, endpoints_bprcLines, endpointNumbers]
    simp [eq_comm]
  | hardy =>
    have hservices : (service ∈ [7] ∨
        service ∈ (builtInServices L config.localNode).map BuiltInService.serviceNumber) ↔
          service ∈ [7] ∨ service ∈ config.localNode.services.map ServiceDemux.serviceNumber :=
      mem_addServices_iff L
    rw [List.mem_singleton] at hservices
    exact or_congr_right (hservices.trans or_comm)

end services

/-- Nodes, their configurations, and where hosts are. -/
structure Network (ι : Type*) where
  /-- The program that runs a node. -/
  backend : ι → Backend
  /-- The configuration of a node. -/
  config : ι → NetworkConfiguration
  /-- Which nodes run at a host, as a node knows it. -/
  runsAt : ι → Text → ι → Prop

namespace Network

variable {ι : Type*} (net : Network ι)

/-- Number of a node. -/
def number (a : ι) : UInt64 := (net.config a).localNode.nodeNumber

/-- Bundles for a destination may go from one node to another: the one sends to a host, an engine
and a port at which the other listens. -/
def Hands (destination : UInt64) (a b : ι) : Prop :=
  ∃ hop, Sends (net.backend a) (net.config a) destination hop ∧ net.runsAt a hop.remoteHost b ∧
    Listens (net.backend b) (net.config b) (hop.engineId, hop.remotePort)

/-- A bundle can get from a node to the destination, which registers the service. -/
def Delivers (L : Lowercasing) (a : ι) (destination service : UInt64) : Prop :=
  ∃ b, Relation.ReflTransGen (net.Hands destination) a b ∧ net.number b = destination ∧
    Registers L (net.backend b) (net.config b) service

/-- The configuration of a node has links to the other, which is the next node towards the
destination. -/
def Directs (destination : UInt64) (a b : ι) : Prop :=
  IsNext (net.config a) destination (net.number b) ∧
    ∃ neighbor ∈ (net.config a).neighbors,
      neighbor.nodeNumber = net.number b ∧ neighbor.links ≠ []

/-- A link leads to another node: it names its engine, a host where it runs, and the port of one of
its links. -/
def Faces (a b : ι) (link : ConvergenceLayerLink) : Prop :=
  ∃ hop, hopOf link = some hop ∧ hop.engineId = net.number b ∧ net.runsAt a hop.remoteHost b ∧
    ∃ back ∈ (net.config b).links, localSide back = some (net.number b, hop.remotePort)

/-- Configurations that fit together. -/
structure Mirrored : Prop where
  /-- They are valid. -/
  valid : ∀ a, validate (net.config a) = .ok ()
  /-- Nodes have numbers of their own. -/
  injective : Function.Injective net.number
  /-- Links to a neighbor lead to the node with its number. -/
  faces : ∀ a, ∀ neighbor ∈ (net.config a).neighbors, ∀ link ∈ neighbor.links,
    ∃ b, net.number b = neighbor.nodeNumber ∧ net.Faces a b link
  /-- The one listener of a node can serve its links. -/
  listener : ∀ a, OneListener (net.config a)

namespace Mirrored

variable {net} (h : net.Mirrored) {destination : UInt64} {a b : ι}
include h

theorem nodeEngines (a : ι) : NodeEngines (net.config a) := by
  intro neighbor hn link hl
  obtain ⟨b, hnumber, hop, hhop, hengine, -⟩ := h.faces a neighbor hn link hl
  exact ⟨hop, hhop, hengine.trans hnumber⟩

/-- Nodes send over the hops of their configurations. -/
theorem sends_iff {hop : Hop} : Sends (net.backend a) (net.config a) destination hop ↔
    HasHop (net.config a) destination hop :=
  InteropNetworks.sends_iff (h.nodeEngines a) (validate_eq_ok_iff.mp (h.valid a)).localDistinct _

/-- Whichever backend runs a node, bundles go where its configuration says. -/
theorem hands_iff : net.Hands destination a b ↔ net.Directs destination a b := by
  constructor
  · rintro ⟨hop, hsends, -, hlistens⟩
    obtain ⟨neighbor, hn, hnext, link, hl, hhop⟩ := h.sends_iff.mp hsends
    -- the node that listens is the neighbor, since it does so as the engine with its number
    have hengine : hop.engineId = net.number b := engine_of_listens _ (h.listener b) hlistens
    obtain ⟨hop', hhop', hnumber⟩ := h.nodeEngines a neighbor hn link hl
    have hsame : hop' = hop := Option.some.inj (hhop'.symm.trans hhop)
    have hneighbor : neighbor.nodeNumber = net.number b := by
      rw [← hnumber, hsame, hengine]
    exact ⟨hneighbor ▸ hnext, neighbor, hn, hneighbor, List.ne_nil_of_mem hl⟩
  · rintro ⟨hnext, neighbor, hn, hnumber, hlinks⟩
    obtain ⟨link, hl⟩ := List.exists_mem_of_ne_nil _ hlinks
    obtain ⟨b', hnumber', hop, hhop, hengine, hruns, back, hback, hside⟩ :=
      h.faces a neighbor hn link hl
    have hb : b' = b := h.injective (hnumber'.trans hnumber)
    rw [hb] at hengine hruns hback hside
    refine ⟨hop, h.sends_iff.mpr ⟨neighbor, hn, hnumber ▸ hnext, link, hl, hhop⟩, hruns, ?_⟩
    rw [hengine]
    exact listens_of_localSide _ (h.listener b) hback hside

end Mirrored

end Network

section interop

/-- A node with LTP links to the nodes with these numbers and ports. -/
def interopConfig (node : UInt64) (port : UInt16) (peers : List (UInt64 × UInt16))
    (others : List UInt64) (routes : List StaticRoute) : NetworkConfiguration :=
  ⟨[], ⟨node, none, [⟨1, some (chars "delivery")⟩]⟩,
    (peers.map fun peer => ⟨peer.1,
      [.ltpUdp [] node peer.1 (chars "127.0.0.1") peer.2 port (some 1400)]⟩) ++
      others.map fun other => ⟨other, []⟩,
    ⟨[], []⟩, ⟨.static, routes⟩, none, []⟩

/-- Nodes on one host. -/
inductive Station where
  /-- Run by ION. -/
  | ground
  /-- Run by Hardy, between the others. -/
  | relay
  /-- Run by ION. -/
  | orbiter

/-- Two ION nodes with a Hardy node between them. -/
def interop : Network Station where
  backend
    | .ground | .orbiter => .ion
    | .relay => .hardy
  config
    | .ground => interopConfig 10 2113 [(20, 1113)] [30] [⟨30, 20⟩]
    | .relay => interopConfig 20 1113 [(10, 2113), (30, 3113)] [] []
    | .orbiter => interopConfig 30 3113 [(20, 1113)] [10] [⟨10, 20⟩]
  runsAt _ host _ := host = chars "127.0.0.1"

/-- Links of a node lead to its peers. -/
theorem exists_peer_of_link {node : UInt64} {port : UInt16} {peers : List (UInt64 × UInt16)}
    {others : List UInt64} {routes : List StaticRoute} {neighbor : Neighbor}
    (hn : neighbor ∈ (interopConfig node port peers others routes).neighbors)
    {link : ConvergenceLayerLink} (hl : link ∈ neighbor.links) :
    ∃ peer ∈ peers, neighbor.nodeNumber = peer.1 ∧
      link = .ltpUdp [] node peer.1 (chars "127.0.0.1") peer.2 port (some 1400) := by
  rcases List.mem_append.mp hn with hn | hn
  · obtain ⟨peer, hpeer, rfl⟩ := List.mem_map.mp hn
    exact ⟨peer, hpeer, rfl, List.mem_singleton.mp hl⟩
  · obtain ⟨other, -, rfl⟩ := List.mem_map.mp hn
    exact absurd hl List.not_mem_nil

theorem mirrored_interop : interop.Mirrored := by
  have hfaces (a b : Station) (node : UInt64) (port remotePort : UInt16)
      (hback : ∃ back ∈ (interop.config b).links,
        localSide back = some (interop.number b, remotePort)) :
      interop.Faces a b (.ltpUdp [] node (interop.number b) (chars "127.0.0.1") remotePort port
        (some 1400)) :=
    ⟨_, rfl, rfl, rfl, hback⟩
  constructor
  · intro a
    cases a <;> decide +kernel
  · intro a b hnumber
    cases a <;> cases b <;> first | rfl | exact absurd hnumber (by decide)
  · intro a neighbor hn link hl
    cases a with
    | ground | orbiter =>
      obtain ⟨peer, hpeer, hnumber, rfl⟩ := exists_peer_of_link hn hl
      cases List.mem_singleton.mp hpeer
      exact ⟨.relay, hnumber.symm, hfaces _ .relay _ _ _ ⟨_, List.mem_cons_self, rfl⟩⟩
    | relay =>
      obtain ⟨peer, hpeer, hnumber, rfl⟩ := exists_peer_of_link hn hl
      rcases List.mem_pair.mp hpeer with rfl | rfl
      · exact ⟨.ground, hnumber.symm, hfaces _ .ground _ _ _ ⟨_, List.mem_cons_self, rfl⟩⟩
      · exact ⟨.orbiter, hnumber.symm, hfaces _ .orbiter _ _ _ ⟨_, List.mem_cons_self, rfl⟩⟩
  · intro a
    constructor
    · cases a <;> simp [interop, interopConfig, NetworkConfiguration.links, localSide]
    · cases a <;> simp [interop, interopConfig, NetworkConfiguration.links, localSide]

end interop

end CislunarDtn.InteropNetworks
