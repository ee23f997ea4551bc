import CislunarDtn.NetworkConfigurations
import CislunarDtn.TerminatedLines

/-!
# Files of the Hardy backend

The parts of the Hardy files that come from links: the configuration of the LTP
server, which is written if there are LTP over UDP links and takes the local
side from the first of them, and the section of the main file that lists the
TCP listeners and notes the links which need other programs.
-/

namespace CislunarDtn.HardyFiles

open DecimalTexts NetworkConfigurations TerminatedLines

section ltpCla

/-- A span of the LTP server. -/
structure LtpClaSpan where
  /-- Engine at the other end. -/
  engineId : UInt64
  /-- Host of that engine. -/
  remoteHost : Text
  /-- Its port. -/
  remotePort : UInt16
  /-- Largest segment. -/
  maxSegmentSize : UInt32
  /-- The node at the other end. -/
  nodeNumber : UInt64
  deriving DecidableEq

/-- Configuration of the LTP server. -/
structure LtpCla where
  /-- Address of the BPA. -/
  grpcAddress : Text
  /-- Port that is bound on all addresses. -/
  localPort : UInt16
  /-- The engine that is served. -/
  localEngineId : UInt64
  /-- Spans, one for each link. -/
  spans : List LtpClaSpan
  deriving DecidableEq

/-- Links that use LTP over UDP. -/
def isLtpUdp : ConvergenceLayerLink → Bool
  | .ltpUdp .. => true
  | _ => false

/-- LTP over UDP links with their neighbors. -/
def ltpLinks (config : NetworkConfiguration) : List (Neighbor × ConvergenceLayerLink) :=
  (config.neighbors.flatMap fun n => n.links.map fun l => (n, l)).filter fun (_, l) => isLtpUdp l

/-- Local engine and local port of an LTP over UDP link. -/
def localSide : ConvergenceLayerLink → Option (UInt64 × UInt16)
  | .ltpUdp _ localEngineId _ _ _ localPort _ => some (localEngineId, localPort)
  | _ => none

/-- The span of a link. -/
def claSpan : Neighbor × ConvergenceLayerLink → Option LtpClaSpan
  | (neighbor, .ltpUdp _ _ remoteEngineId remoteHost remotePort _ mtu) =>
    some ⟨remoteEngineId, remoteHost, remotePort, mtu.getD 1400, neighbor.nodeNumber⟩
  | _ => none

/-- Address of the BPA's interface, from the backend options. -/
def grpcAddress (config : NetworkConfiguration) : Text :=
  match config.backendOptions.lookup (chars "grpc_address") with
  | some (.string address) => address
  | _ => chars "[::1]:50051"

/-- The configuration of the LTP server, if there are links for it. The local engine and the port
are those of the first one. -/
def ltpCla (config : NetworkConfiguration) : Option LtpCla :=
  match ltpLinks config with
  | [] => none
  | (_, first) :: _ => (localSide first).map fun (localEngineId, localPort) =>
    ⟨grpcAddress config, localPort, localEngineId, (ltpLinks config).filterMap claSpan⟩

/-- Lines of one span. -/
def LtpClaSpan.lines (span : LtpClaSpan) : List Text :=
  [chars "    - engine-id: " ++ decimal span.engineId.toNat,
    chars "      address: \"" ++ span.remoteHost ++ ':' :: decimal span.remotePort.toNat ++
      chars "\"",
    chars "      max-segment-size: " ++ decimal span.maxSegmentSize.toNat,
    chars "      framing: none", chars "      node-ids:",
    chars "        - \"ipn:" ++ decimal span.nodeNumber.toNat ++ chars ".0\""]

/-- Lines of the ltp-cla.yaml file. -/
def LtpCla.lines (cla : LtpCla) : List Text :=
  [chars "# hardy-ltp-cla (hardy-ltp-server) configuration",
    chars "# Generated by radiant-dtn-abstraction (Hardy adapter)",
    chars "# Bridges Hardy BPA (gRPC) <-> LTP/UDP for interoperability", [],
    chars "grpc:", chars "  endpoint: \"http://" ++ cla.grpcAddress ++ chars "\"",
    chars "  reconnect-initial-secs: 1.0", chars "  reconnect-max-secs: 10.0", [],
    chars "ltp:", chars "  bind: \"0.0.0.0:" ++ decimal cla.localPort.toNat ++ chars "\"",
    chars "  engine-id: " ++ decimal cla.localEngineId.toNat,
    chars "  client-service-id: 1", chars "  spans:"] ++ cla.spans.flatMap LtpClaSpan.lines

/-- The ltp-cla.yaml file. -/
def generateLtpClaYaml (config : NetworkConfiguration) : Option Text :=
  (ltpCla config).map fun cla => written '\n' cla.lines

end ltpCla

section clas

/-- A TCP listener. -/
structure ClaEntry where
  /-- Name of the entry. -/
  name : Text
  /-- Port on all addresses. -/
  listenPort : UInt16
  deriving DecidableEq

/-- TCP links. -/
def isTcpCl : ConvergenceLayerLink → Bool
  | .tcpCl .. => true
  | _ => false

/-- The entry of the TCP link at this index among the TCP links. -/
def claEntry : ConvergenceLayerLink × ℕ → Option ClaEntry
  | (.tcpCl id _ _ localPort, idx) =>
    some ⟨if id = [] then chars "tcp-cla-" ++ decimal (idx + 1) else id, localPort.getD 4556⟩
  | _ => none

/-- TCP listeners, one for each TCP link. -/
def clasEntries (config : NetworkConfiguration) : List ClaEntry :=
  (config.links.filter isTcpCl).zipIdx.filterMap claEntry

/-- Lines of one entry. -/
def ClaEntry.lines (entry : ClaEntry) : List Text :=
  [chars "  - name: \"" ++ entry.name ++ chars "\"", chars "    type: \"tcpclv4\"",
    chars "    address: \"[::]:" ++ decimal entry.listenPort.toNat ++ chars "\"",
    chars "    segment-mru: 16384", chars "    transfer-mru: 562949953421312"]

/-- The note about a link that needs another program. -/
def linkNote : ConvergenceLayerLink → List Text
  | .ltpUdp id _ _ remoteHost remotePort _ _ =>
    [chars "# - LTP/UDP link \"" ++ id ++ chars "\" -> " ++ remoteHost ++
      ':' :: decimal remotePort.toNat]
  | .kiss id tncDevice .. => [chars "# - KISS link \"" ++ id ++ chars "\" via " ++ tncDevice]
  | .udp id remoteHost remotePort _ =>
    [chars "# - UDP link \"" ++ id ++ chars "\" -> " ++ remoteHost ++
      ':' :: decimal remotePort.toNat]
  | .tcpCl .. => []

/-- Lines of the section of listeners. -/
def clasSection (config : NetworkConfiguration) : List Text :=
  (match clasEntries config with
    | [] => []
    | entries => chars "clas:" :: entries.flatMap ClaEntry.lines) ++
    if config.links.all isTcpCl then []
    else
      [[], chars "# NOTE: LTP/UDP/KISS convergence layers require the separate",
        chars "# hardy-ltp-cla binary. Configure it independently."] ++
        config.links.flatMap linkNote

end clas

end CislunarDtn.HardyFiles
