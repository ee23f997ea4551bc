import CislunarDtn.NetworkConfigurations
import CislunarDtn.TerminatedLines

/-!
# Admin scripts of the ION backend

The four scripts of a node and the texts that are piped to the admin tools at
run time. A script is a list of lines: comments, blank lines and commands of
fixed forms, whose arguments come from the configuration. Hosts, devices and
the parts of a dtn endpoint are put into a command as they are.
-/

namespace CislunarDtn.IonScripts

open DecimalTexts NetworkConfigurations TerminatedLines

/-- Protocols of the ducts. -/
inductive Protocol where
  /-- Licklider transmission protocol. -/
  | ltp
  /-- TCP. -/
  | tcp
  /-- UDP. -/
  | udp
  deriving DecidableEq

/-- Name of a protocol. -/
def Protocol.name : Protocol → Text
  | .ltp => chars "ltp"
  | .tcp => chars "tcp"
  | .udp => chars "udp"

/-- An induct or outduct. -/
inductive Duct where
  /-- A duct named after an LTP engine. -/
  | ltp (engineId : UInt64)
  /-- A TCP duct. -/
  | tcp (host : Text) (port : UInt16)
  /-- A UDP duct. -/
  | udp (host : Text) (port : UInt16)
  deriving DecidableEq

/-- Protocol of a duct. -/
def Duct.protocol : Duct → Protocol
  | .ltp _ => .ltp
  | .tcp _ _ => .tcp
  | .udp _ _ => .udp

/-- Name of a duct. -/
def Duct.name : Duct → Text
  | .ltp engineId => decimal engineId.toNat
  | .tcp host port => host ++ ':' :: decimal port.toNat
  | .udp host port => host ++ ':' :: decimal port.toNat

/-- How the segments of a span leave the node. -/
inductive SpanOutput where
  /-- Through a UDP socket. -/
  | udplso (host : Text) (port : UInt16)
  /-- Through a TNC. -/
  | kisslo (device : Text)
  deriving DecidableEq

/-- Text of an output command. -/
def SpanOutput.text : SpanOutput → Text
  | .udplso host port => chars "udplso " ++ host ++ ':' :: decimal port.toNat
  | .kisslo device => chars "kisslo " ++ device

/-- Text of an endpoint identifier. -/
def eidText : EndpointId → Text
  | .ipn node service => chars "ipn:" ++ decimal node.toNat ++ '.' :: decimal service.toNat
  | .dtn authority path => chars "dtn://" ++ authority ++ '/' :: path

/-- The fixed command forms. -/
inductive Command where
  /-- Initialization of the node. -/
  | initializeNode (node : UInt64)
  /-- Start of the daemons. -/
  | start
  /-- A contact. -/
  | addContact (startTime endTime : Int64) (source dest rate : UInt64)
  /-- Removal of a contact. -/
  | deleteContact (startTime : Int64) (source dest : UInt64)
  /-- A range of one day. -/
  | addRange (source dest : UInt64) (owlt : ℤ)
  /-- The production rate. -/
  | manageProduction
  /-- The consumption rate. -/
  | manageConsumption
  /-- Initialization of the bundle protocol. -/
  | initializeBp
  /-- The ipn scheme. -/
  | addScheme
  /-- An endpoint. -/
  | addEndpoint (eid : EndpointId)
  /-- A protocol. -/
  | addProtocol (protocol : Protocol)
  /-- An induct. -/
  | addInduct (duct : Duct)
  /-- An outduct. -/
  | addOutduct (duct : Duct)
  /-- Initialization of LTP. -/
  | initializeLtp
  /-- A span to an engine. -/
  | addSpan (engineId : UInt64) (segmentSize : UInt32) (output : SpanOutput)
  /-- Start of the LTP listener. -/
  | startLtp (port : UInt16)
  /-- A forwarding plan. -/
  | addPlan (node : UInt64) (duct : Duct)
  /-- Start of a duct. -/
  | resumeDuct (linkId : Text)
  /-- Stop of a duct. -/
  | stopDuct (linkId : Text)
  /-- End of the input. -/
  | quit
  deriving DecidableEq

/-- A space and a word. -/
def word (text : Text) : Text := ' ' :: text

/-- Text of a command. -/
def Command.text : Command → Text
  | .initializeNode node => chars "1" ++ word (decimal node.toNat) ++ chars " ''"
  | .start => chars "s"
  | .addContact startTime endTime source dest rate =>
    chars "a contact" ++ word ('+' :: signedDecimal startTime.toInt) ++
      word ('+' :: signedDecimal endTime.toInt) ++ word (decimal source.toNat) ++
      word (decimal dest.toNat) ++ word (decimal rate.toNat)
  | .deleteContact startTime source dest =>
    chars "d contact" ++ word ('+' :: signedDecimal startTime.toInt) ++
      word (decimal source.toNat) ++ word (decimal dest.toNat)
  | .addRange source dest owlt =>
    chars "a range +0 +86400" ++ word (decimal source.toNat) ++ word (decimal dest.toNat) ++
      word (signedDecimal owlt)
  | .manageProduction => chars "m production 1000000"
  | .manageConsumption => chars "m consumption 1000000"
  | .initializeBp => chars "1"
  | .addScheme => chars "a scheme ipn 'ipnfw' 'ipnadminep'"
  | .addEndpoint eid => chars "a endpoint " ++ eidText eid ++ chars " x"
  | .addProtocol .ltp => chars "a protocol ltp 1400 100"
  | .addProtocol protocol => chars "a protocol " ++ protocol.name
  | .addInduct duct =>
    chars "a induct " ++ duct.protocol.name ++ word duct.name ++
      word (duct.protocol.name ++ chars "cli")
  | .addOutduct duct =>
    chars "a outduct " ++ duct.protocol.name ++ word duct.name ++
      word (duct.protocol.name ++ chars "clo")
  | .initializeLtp => chars "1 32"
  | .addSpan engineId segmentSize output =>
    chars "a span" ++ word (decimal engineId.toNat) ++ chars " 32 32" ++
      word (decimal segmentSize.toNat) ++ chars " 100000 1 '" ++ output.text ++ chars "'"
  | .startLtp port => chars "s 'udplsi 0.0.0.0:" ++ decimal port.toNat ++ chars "'"
  | .addPlan node duct =>
    chars "a plan" ++ word (decimal node.toNat) ++
      word (duct.protocol.name ++ '/' :: duct.name)
  | .resumeDuct linkId => chars "r start ltp/" ++ linkId
  | .stopDuct linkId => chars "r stop ltp/" ++ linkId
  | .quit => chars "q"

/-- A line of a script. -/
inductive Line where
  /-- A comment. -/
  | comment (text : Text)
  /-- A blank line. -/
  | blank
  /-- A command. -/
  | command (c : Command)
  deriving DecidableEq

/-- Text of a line. -/
def Line.text : Line → Text
  | .comment text => chars "## " ++ text
  | .blank => []
  | .command c => c.text

/-- The text of a script. -/
def scriptText (lines : List Line) : Text := written '\n' (lines.map Line.text)

section ionrc

/-- Light time of a range command: whole seconds, at least one for a real link. -/
def owltSeconds : Float64 → ℤ
  | .nan => 0
  | .infinite negative => if negative then 0 else max (2 ^ 63 - 1) 1
  | .finite value => if value > 0 then max (min ⌈value⌉ (2 ^ 63 - 1)) 1 else 0

/-- The command of a contact. -/
def contactCommand (contact : Contact) : Command :=
  .addContact contact.startTime contact.endTime contact.sourceNode contact.destNode
    contact.rateBps

/-- The command of a range. -/
def rangeCommand (range : Range) : Command :=
  .addRange range.sourceNode range.destNode (owltSeconds range.owltSecs)

/-- Contacts: the loopback, then those of the plan. -/
def writeContactCommands (plan : ContactPlan) (localNode : UInt64) : List Line :=
  [Line.comment (chars "Contacts"), .command (.addContact 0 86400 localNode localNode 100000)] ++
    (plan.contacts.map fun contact => Line.command (contactCommand contact)) ++ [Line.blank]

/-- Ranges: the loopback, then those of the plan. -/
def writeRangeCommands (plan : ContactPlan) (localNode : UInt64) : List Line :=
  [Line.comment (chars "Ranges"), .command (.addRange localNode localNode 0)] ++
    (plan.ranges.map fun range => Line.command (rangeCommand range)) ++ [Line.blank]

/-- Lines of the .ionrc file. -/
def ionrcLines (config : NetworkConfiguration) : List Line :=
  [Line.comment (chars "File: ionadmin configuration for node " ++
      decimal config.localNode.nodeNumber.toNat),
    .comment (chars "Generated by radiant-dtn-abstraction (ION adapter)"),
    .comment (chars "Amateur radio compliant: no BPSec directives"), .blank,
    .command (.initializeNode config.localNode.nodeNumber), .blank, .command .start, .blank] ++
    writeContactCommands config.contactPlan config.localNode.nodeNumber ++
    writeRangeCommands config.contactPlan config.localNode.nodeNumber ++
    [Line.comment (chars "Production/consumption rates"), .command .manageProduction,
      .command .manageConsumption, .blank]

/-- The .ionrc file. -/
def generateIonrc (config : NetworkConfiguration) : Text := scriptText (ionrcLines config)

end ionrc

section bprc

/-- Links that use LTP. -/
def isLtp : ConvergenceLayerLink → Bool
  | .ltpUdp .. => true
  | .kiss .. => true
  | _ => false

/-- Links that use TCP. -/
def isTcp : ConvergenceLayerLink → Bool
  | .tcpCl .. => true
  | _ => false

/-- Links that use UDP alone. -/
def isUdp : ConvergenceLayerLink → Bool
  | .udp .. => true
  | _ => false

/-- Protocols that some link needs. -/
def collectProtocols (neighbors : List Neighbor) : List Protocol :=
  let hasLink (p : ConvergenceLayerLink → Bool) := neighbors.any fun n => n.links.any p
  (if hasLink isLtp then [.ltp] else []) ++ (if hasLink isTcp then [.tcp] else []) ++
    if hasLink isUdp then [.udp] else []

/-- The duct through which a link receives. -/
def inductOf : ConvergenceLayerLink → Duct
  | .ltpUdp _ localEngineId .. => .ltp localEngineId
  | .kiss _ _ localEngineId .. => .ltp localEngineId
  | .tcpCl _ remoteHost _ localPort => .tcp remoteHost (localPort.getD 4556)
  | .udp _ remoteHost _ localPort => .udp remoteHost (localPort.getD 4556)

/-- The duct through which a link sends. -/
def outductOf : ConvergenceLayerLink → Duct
  | .ltpUdp _ _ remoteEngineId .. => .ltp remoteEngineId
  | .kiss _ _ _ remoteEngineId _ => .ltp remoteEngineId
  | .tcpCl _ remoteHost remotePort _ => .tcp remoteHost remotePort
  | .udp _ remoteHost remotePort _ => .udp remoteHost remotePort

/-- Induct and outduct of one link. -/
def writeBprcLinkEntries (link : ConvergenceLayerLink) : List Line :=
  [.command (.addInduct (inductOf link)), .command (.addOutduct (outductOf link))]

/-- Endpoints: the administrative one, one for each service, and the callsign's. -/
def writeEndpoints (node : NodeDefinition) : List Line :=
  [Line.comment (chars "Endpoints"), .command (.addEndpoint (.ipn node.nodeNumber 0))] ++
    (node.services.map fun service =>
      Line.command (.addEndpoint (.ipn node.nodeNumber service.serviceNumber))) ++
    (match node.callsignEid with
      | some eid =>
        [Line.blank, .comment (chars "Callsign EID (amateur radio station identification)"),
          .command (.addEndpoint eid)]
      | none => []) ++ [Line.blank]

/-- Lines of the .bprc file. -/
def bprcLines (config : NetworkConfiguration) : List Line :=
  [Line.comment (chars "File: bpadmin configuration for node " ++
      decimal config.localNode.nodeNumber.toNat),
    .comment (chars "Generated by radiant-dtn-abstraction (ION adapter)"),
    .comment (chars "Amateur radio compliant: no BPSec directives"), .blank,
    .command .initializeBp, .blank, .command .addScheme, .blank] ++
    writeEndpoints config.localNode ++
    [Line.comment (chars "Protocols")] ++
    ((collectProtocols config.neighbors).map fun protocol =>
      Line.command (.addProtocol protocol)) ++
    [Line.blank, .comment (chars "Inducts and Outducts")] ++
    (config.neighbors.flatMap fun neighbor => neighbor.links.flatMap writeBprcLinkEntries) ++
    [Line.blank, .command .start]

/-- The .bprc file. -/
def generateBprc (config : NetworkConfiguration) : Text := scriptText (bprcLines config)

end bprc

section ltprc

/-- Local port of an LTP over UDP link. -/
def ltpLocalPort : ConvergenceLayerLink → Option UInt16
  | .ltpUdp _ _ _ _ _ localPort _ => some localPort
  | _ => none

/-- The local port of the first LTP over UDP link. -/
def findLocalLtpPort (config : NetworkConfiguration) : UInt16 :=
  (config.links.findSome? ltpLocalPort).getD 1113

/-- Where the segments of a link's span go, for links that use LTP. -/
def spanOutputOf : ConvergenceLayerLink → Option SpanOutput
  | .ltpUdp _ _ _ remoteHost remotePort _ _ => some (.udplso remoteHost remotePort)
  | .kiss _ tncDevice _ _ _ => some (.kisslo tncDevice)
  | _ => none

/-- The span of a link that uses LTP. -/
def writeLtprcSpan : ConvergenceLayerLink → List Line
  | .ltpUdp _ _ remoteEngineId remoteHost remotePort _ mtu =>
    [.command (.addSpan remoteEngineId (mtu.getD 1400) (.udplso remoteHost remotePort))]
  | .kiss _ tncDevice _ remoteEngineId frameSize =>
    [.command (.addSpan remoteEngineId (frameSize.getD 1400) (.kisslo tncDevice))]
  | _ => []

/-- The span that leads back to the node. -/
def loopbackSpan (config : NetworkConfiguration) : Command :=
  .addSpan config.localNode.nodeNumber 1400
    (.udplso (chars "127.0.0.1") (findLocalLtpPort config))

/-- Lines of the .ltprc file. -/
def ltprcLines (config : NetworkConfiguration) : List Line :=
  [Line.comment (chars "File: ltpadmin configuration for node " ++
      decimal config.localNode.nodeNumber.toNat),
    .comment (chars "Generated by radiant-dtn-abstraction (ION adapter)"), .blank,
    .command .initializeLtp, .blank, .comment (chars "LTP Spans"),
    .command (loopbackSpan config)] ++
    (config.neighbors.flatMap fun neighbor => neighbor.links.flatMap writeLtprcSpan) ++
    [Line.blank, .command (.startLtp (findLocalLtpPort config))]

/-- The .ltprc file. -/
def generateLtprc (config : NetworkConfiguration) : Text := scriptText (ltprcLines config)

end ltprc

section ipnrc

/-- The plan of a static route. -/
def staticPlan (route : StaticRoute) : Command :=
  .addPlan route.destinationNode (.ltp route.nextHopNode)

/-- Lines of the routing strategy. -/
def writeRoutingConfig (routing : RoutingConfig) : List Line :=
  (match routing.strategy with
    | .cgr => [Line.comment (chars "Routing: Contact Graph Routing (CGR)")]
    | .static =>
      .comment (chars "Routing: Static routes") ::
        routing.staticRoutes.map fun route => Line.command (staticPlan route)
    | .default => [Line.comment (chars "Routing: Backend default")]) ++ [Line.blank]

/-- The duct expression of a link. -/
def linkToDuctExpression : ConvergenceLayerLink → Duct
  | .ltpUdp _ _ remoteEngineId .. => .ltp remoteEngineId
  | .kiss _ _ _ remoteEngineId _ => .ltp remoteEngineId
  | .tcpCl _ remoteHost remotePort _ => .tcp remoteHost remotePort
  | .udp _ remoteHost remotePort _ => .udp remoteHost remotePort

/-- The plan of a neighbor, through its first link. -/
def writeIpnrcPlan (neighbor : Neighbor) : List Line :=
  match neighbor.links with
  | link :: _ => [.command (.addPlan neighbor.nodeNumber (linkToDuctExpression link))]
  | [] => []

/-- Lines of the .ipnrc file before the neighbors' plans. -/
def ipnrcHead (config : NetworkConfiguration) : List Line :=
  [Line.comment (chars "File: ipnadmin configuration for node " ++
      decimal config.localNode.nodeNumber.toNat),
    .comment (chars "Generated by radiant-dtn-abstraction (ION adapter)"), .blank] ++
    writeRoutingConfig config.routing ++ [Line.comment (chars "Forwarding plans")]

/-- Lines of the .ipnrc file. -/
def ipnrcLines (config : NetworkConfiguration) : List Line :=
  ipnrcHead config ++ config.neighbors.flatMap writeIpnrcPlan

/-- The .ipnrc file. -/
def generateIpnrc (config : NetworkConfiguration) : Text := scriptText (ipnrcLines config)

end ipnrc

section piped

/-- What identifies a contact that is removed. -/
structure ContactRef where
  /-- Sending node. -/
  sourceNode : UInt64
  /-- Receiving node. -/
  destNode : UInt64
  /-- Start, Unix seconds. -/
  startTime : Int64
  deriving DecidableEq

/-- The reference to a contact. -/
def contactRef (contact : Contact) : ContactRef :=
  ⟨contact.sourceNode, contact.destNode, contact.startTime⟩

/-- One command and the end of the input. -/
def piped (command : Command) : Text := scriptText [.command command, .command .quit]

/-- What is piped to ionadmin to add a contact. -/
def addContact (contact : Contact) : Text := piped (contactCommand contact)

/-- What is piped to ionadmin to remove a contact. -/
def removeContact (ref : ContactRef) : Text :=
  piped (.deleteContact ref.startTime ref.sourceNode ref.destNode)

/-- What is piped to bpadmin to enable a link. -/
def enableLink (linkId : Text) : Text := piped (.resumeDuct linkId)

/-- What is piped to bpadmin to disable a link. -/
def disableLink (linkId : Text) : Text := piped (.stopDuct linkId)

end piped

end CislunarDtn.IonScripts
