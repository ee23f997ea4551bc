import CislunarDtn.BlockLayouts
import CislunarDtn.HardyFiles
import CislunarDtn.TextScans

/-!
# Documents of the Hardy backend

The main file of the Hardy backend with its sections, the file of static
routes, and which files are generated. Beside the lines as they are written
stands the document that they are meant to be.
-/

namespace CislunarDtn.HardyDocuments

open BlockLayouts DecimalTexts HardyFiles NetworkConfigurations TerminatedLines TextScans

section generator

/-- The log level, from the backend options. -/
def logLevel (config : NetworkConfiguration) : Text :=
  match config.backendOptions.lookup (chars "log_level") with
  | some (.string level) => level
  | _ => chars "info"

/-- Log level. -/
def writeLogLevel (config : NetworkConfiguration) : List Text :=
  [chars "log-level: " ++ logLevel config, []]

/-- Identifier with a number. -/
def ipnId (node : NodeDefinition) : Text :=
  chars "ipn:" ++ decimal node.nodeNumber.toNat ++ chars ".0"

/-- Identifier with a name: the callsign's, or else made from the number. -/
def dtnId (node : NodeDefinition) : Text :=
  match node.callsignEid with
  | some (.dtn authority path) =>
    if path = [] then chars "dtn://" ++ authority ++ chars "/"
    else chars "dtn://" ++ authority ++ chars "/" ++ path
  | _ => chars "dtn://node" ++ decimal node.nodeNumber.toNat ++ chars "/"

/-- Identifiers of the node. -/
def writeNodeIdsSection (node : NodeDefinition) : List Text :=
  [chars "node-ids:", chars "  - \"" ++ ipnId node ++ chars "\"",
    chars "  - \"" ++ dtnId node ++ chars "\"", []]

/-- Whether there are links for the LTP server. -/
def hasLtp (config : NetworkConfiguration) : Bool :=
  config.neighbors.any fun n => n.links.any isLtpUdp

/-- Management interface. -/
def writeGrpcSection (config : NetworkConfiguration) : List Text :=
  [chars "grpc:", chars "  address: \"" ++ grpcAddress config ++ chars "\"",
    if hasLtp config then chars "  services: [\"application\", \"cla\", \"service\", \"ltp\"]"
    else chars "  services: [\"application\", \"cla\", \"service\"]", []]

/-- Storage: in the configured directory, or else in memory. -/
def writeStorageSection (config : NetworkConfiguration) : List Text :=
  match config.storage with
  | some storage =>
    [chars "storage:", chars "  metadata:", chars "    type: \"sqlite\"",
      chars "    path: \"" ++ storage.path ++ chars "/metadata.db\"", chars "  bundle:",
      chars "    type: \"localdisk\"", chars "    path: \"" ++ storage.path ++ chars "/bundles\"",
      []]
  | none =>
    [chars "storage:", chars "  metadata:", chars "    type: \"memory\"", chars "  bundle:",
      chars "    type: \"memory\"", []]

/-- Validity of bundles, without integrity blocks. -/
def writeRfc9171ValiditySection : List Text :=
  [chars "rfc9171-validity:", chars "  primary-block-integrity: false",
    chars "  bundle-age-required: false", []]

/-- A service that is written. -/
structure BuiltInService where
  /-- Key of the service. -/
  keyName : Text
  /-- Number of the service. -/
  serviceNumber : UInt64
  /-- Its description. -/
  desc : Text
  deriving DecidableEq

/-- Description of a service. -/
def desc (svc : ServiceDemux) : Text := svc.description.getD (chars "service")

/-- The key that a description gives: in lower case and with hyphens for spaces. -/
def baseName (L : Lowercasing) (svc : ServiceDemux) : Text :=
  (L.toLowercase (desc svc)).map fun c => if c = ' ' then '-' else c

/-- A key with a number behind a hyphen. -/
def numbered (key : Text) (number : ℕ) : Text := key ++ '-' :: decimal number

/-- The first key with a counter that is not used. Of as many keys as there are tries
all can be used, but not of one more. -/
def countedKey (usedKeys : List Text) (originalKey : Text) : ℕ → ℕ → Text
  | 0, counter => numbered originalKey counter
  | tries + 1, counter =>
    if numbered originalKey counter ∈ usedKeys then
      countedKey usedKeys originalKey tries (counter + 1)
    else numbered originalKey counter

/-- The key of a service: its base name if that is not used, with the number of the
service if it is, and if need be with a counter. -/
def keyName (usedKeys : List Text) (base : Text) (number : UInt64) : Text :=
  let originalKey := if base ∈ usedKeys then numbered base number.toNat else base
  if originalKey ∈ usedKeys then countedKey usedKeys originalKey usedKeys.length 2 else originalKey

/-- Services whose numbers are not used yet, with keys that are not. -/
def addServices (L : Lowercasing) : List Text → List UInt64 → List ServiceDemux →
    List BuiltInService
  | _, _, [] => []
  | usedKeys, usedNumbers, svc :: services =>
    if svc.serviceNumber ∈ usedNumbers then addServices L usedKeys usedNumbers services
    else
      let key := keyName usedKeys (baseName L svc) svc.serviceNumber
      ⟨key, svc.serviceNumber, desc svc⟩ ::
        addServices L (key :: usedKeys) (svc.serviceNumber :: usedNumbers) services

/-- Services of the node beside the echo service. -/
def builtInServices (L : Lowercasing) (node : NodeDefinition) : List BuiltInService :=
  addServices L [chars "echo"] [7] node.services

/-- Line of a service. -/
def BuiltInService.line (svc : BuiltInService) : Text :=
  chars "  " ++ svc.keyName ++ chars ": [" ++ decimal svc.serviceNumber.toNat ++ chars ", \"" ++
    svc.desc ++ chars "\"]"

/-- Services. -/
def writeBuiltInServicesSection (L : Lowercasing) (node : NodeDefinition) : List Text :=
  [chars "built-in-services:", chars "  echo: [7, \"echo\"]"] ++
    (builtInServices L node).map BuiltInService.line ++ [[]]

/-- Reference to the file of static routes. -/
def writeStaticRoutesSection (routing : RoutingConfig) : List Text :=
  if routing.strategy ≠ .static then []
  else [chars "static-routes:", chars "  routes-file: \"static_routes.yaml\"", []]

/-- Lines of the main file. -/
def hardyLines (L : Lowercasing) (config : NetworkConfiguration) : List Text :=
  [chars "# Hardy BPA server configuration",
    chars "# Generated by radiant-dtn-abstraction (Hardy adapter)",
    chars "# Amateur radio compliant: no BPSec/encryption", []] ++
    writeLogLevel config ++ writeNodeIdsSection config.localNode ++ writeGrpcSection config ++
    writeStorageSection config ++ writeRfc9171ValiditySection ++
    writeBuiltInServicesSection L config.localNode ++ writeStaticRoutesSection config.routing ++
    clasSection config

/-- The main file. -/
def generateHardyYaml (L : Lowercasing) (config : NetworkConfiguration) : Text :=
  written '\n' (hardyLines L config)

/-- Lines of a static route. -/
def routeLines (route : StaticRoute) : List Text :=
  [chars "  - destination: \"ipn:" ++ decimal route.destinationNode.toNat ++ chars ".0\"",
    chars "    next-hop: \"ipn:" ++ decimal route.nextHopNode.toNat ++ chars ".0\""]

/-- The file of static routes. -/
def generateStaticRoutesYaml (config : NetworkConfiguration) : Text :=
  written '\n' ([chars "# Hardy static routes", chars "# Generated by radiant-dtn-abstraction", [],
    chars "routes:"] ++ config.routing.staticRoutes.flatMap routeLines)

/-- The generated files by name. -/
def generateHardyConfig (L : Lowercasing) (config : NetworkConfiguration) : List (Text × Text) :=
  (chars "hardy.yaml", generateHardyYaml L config) ::
    (if config.routing.strategy = .static ∧ config.routing.staticRoutes ≠ [] then
      [(chars "static_routes.yaml", generateStaticRoutesYaml config)] else []) ++
    ((generateLtpClaYaml config).map fun content => (chars "ltp-cla.yaml", content)).toList

end generator

section meaning

/-- Log level. -/
def logLevelBlock (config : NetworkConfiguration) : Block :=
  ⟨.setting (chars "log-level") (.plain (logLevel config)), [], by simp⟩

/-- Identifiers of the node. -/
def nodeIdsBlock (node : NodeDefinition) : Block :=
  ⟨.opens (chars "node-ids"),
    [⟨2, true, .element (ipnId node)⟩, ⟨2, true, .element (dtnId node)⟩], by simp⟩

/-- Services of the management interface. -/
def grpcServices (config : NetworkConfiguration) : List Scalar :=
  [.quoted (chars "application"), .quoted (chars "cla"), .quoted (chars "service")] ++
    if hasLtp config then [.quoted (chars "ltp")] else []

/-- Management interface. -/
def grpcBlock (config : NetworkConfiguration) : Block :=
  ⟨.opens (chars "grpc"),
    [⟨2, false, .setting (chars "address") (.quoted (grpcAddress config))⟩,
      ⟨2, false, .listing (chars "services") (grpcServices config)⟩], by simp⟩

/-- Storage. -/
def storageBlock (config : NetworkConfiguration) : Block :=
  match config.storage with
  | some storage =>
    ⟨.opens (chars "storage"),
      [⟨2, false, .opens (chars "metadata")⟩,
        ⟨4, false, .setting (chars "type") (.quoted (chars "sqlite"))⟩,
        ⟨4, false, .setting (chars "path") (.quoted (storage.path ++ chars "/metadata.db"))⟩,
        ⟨2, false, .opens (chars "bundle")⟩,
        ⟨4, false, .setting (chars "type") (.quoted (chars "localdisk"))⟩,
        ⟨4, false, .setting (chars "path") (.quoted (storage.path ++ chars "/bundles"))⟩], by simp⟩
  | none =>
    ⟨.opens (chars "storage"),
      [⟨2, false, .opens (chars "metadata")⟩,
        ⟨4, false, .setting (chars "type") (.quoted (chars "memory"))⟩,
        ⟨2, false, .opens (chars "bundle")⟩,
        ⟨4, false, .setting (chars "type") (.quoted (chars "memory"))⟩], by simp⟩

/-- Validity of bundles. -/
def rfc9171ValidityBlock : Block :=
  ⟨.opens (chars "rfc9171-validity"),
    [⟨2, false, .setting (chars "primary-block-integrity") (.plain (chars "false"))⟩,
      ⟨2, false, .setting (chars "bundle-age-required") (.plain (chars "false"))⟩], by simp⟩

/-- Entry of a service. -/
def BuiltInService.entry (svc : BuiltInService) : Entry :=
  ⟨2, false, .listing svc.keyName
    [.plain (decimal svc.serviceNumber.toNat), .quoted svc.desc]⟩

/-- Services. -/
def builtInServicesBlock (L : Lowercasing) (node : NodeDefinition) : Block :=
  ⟨.opens (chars "built-in-services"),
    ⟨2, false, .listing (chars "echo") [.plain (chars "7"), .quoted (chars "echo")]⟩ ::
      (builtInServices L node).map BuiltInService.entry, by simp [BuiltInService.entry]⟩

/-- Reference to the file of static routes. -/
def staticRoutesBlock (routing : RoutingConfig) : List Block :=
  if routing.strategy ≠ .static then []
  else
    [⟨.opens (chars "static-routes"),
      [⟨2, false, .setting (chars "routes-file") (.quoted (chars "static_routes.yaml"))⟩],
      by simp⟩]

/-- Entries of a listener. -/
def ClaEntry.entries (entry : ClaEntry) : List Entry :=
  [⟨2, true, .setting (chars "name") (.quoted entry.name)⟩,
    ⟨4, false, .setting (chars "type") (.quoted (chars "tcpclv4"))⟩,
    ⟨4, false, .setting (chars "address")
      (.quoted (chars "[::]:" ++ decimal entry.listenPort.toNat))⟩,
    ⟨4, false, .setting (chars "segment-mru") (.plain (chars "16384"))⟩,
    ⟨4, false, .setting (chars "transfer-mru") (.plain (chars "562949953421312"))⟩]

/-- Listeners. -/
def clasBlock (config : NetworkConfiguration) : List Block :=
  if clasEntries config = [] then []
  else
    [⟨.opens (chars "clas"), (clasEntries config).flatMap ClaEntry.entries, by
      simp +contextual [ClaEntry.entries, or_imp]⟩]

/-- Notes about the links that need other programs. -/
def linkNotes (config : NetworkConfiguration) : List Text :=
  if config.links.all isTcpCl then []
  else
    [[], chars "# NOTE: LTP/UDP/KISS convergence layers require the separate",
      chars "# hardy-ltp-cla binary. Configure it independently."] ++
      config.links.flatMap linkNote

/-- The blocks before the listeners, each followed by a blank line. -/
def sections (L : Lowercasing) (config : NetworkConfiguration) : List Block :=
  [logLevelBlock config, nodeIdsBlock config.localNode, grpcBlock config, storageBlock config,
    rfc9171ValidityBlock, builtInServicesBlock L config.localNode] ++
    staticRoutesBlock config.routing

/-- The document that the main file is meant to be. -/
def document (L : Lowercasing) (config : NetworkConfiguration) : List Line :=
  [chars "# Hardy BPA server configuration",
    chars "# Generated by radiant-dtn-abstraction (Hardy adapter)",
    chars "# Amateur radio compliant: no BPSec/encryption", []].map .note ++
    (sections L config).flatMap (fun b => b.lines ++ [.note []]) ++
    (clasBlock config).flatMap Block.lines ++ (linkNotes config).map .note

end meaning

section lines

/-- Lines of a block and the blank line after it. -/
def blockTexts (b : Block) : List Text := b.lines.map Line.text ++ [[]]

@[simp]
theorem text_opens (indent : ℕ) (key : Text) : (⟨indent, false, .opens key⟩ : Entry).text =
    List.replicate indent ' ' ++ key ++ [':'] := by
  simp [Entry.text, Body.text]

@[simp]
theorem text_setting (indent : ℕ) (key : Text) (value : Scalar) :
    (⟨indent, false, .setting key value⟩ : Entry).text =
      List.replicate indent ' ' ++ key ++ [':', ' '] ++ value.text := by
  simp [Entry.text, Body.text]

@[simp]
theorem text_item (indent : ℕ) (key : Text) (value : Scalar) :
    (⟨indent, true, .setting key value⟩ : Entry).text =
      List.replicate indent ' ' ++ ['-', ' '] ++ key ++ [':', ' '] ++ value.text := by
  simp [Entry.text, Body.text]

@[simp]
theorem text_element (indent : ℕ) (text : Text) :
    (⟨indent, true, .element text⟩ : Entry).text =
      List.replicate indent ' ' ++ ['-', ' ', '"'] ++ text ++ ['"'] := by
  simp [Entry.text, Body.text, Scalar.text]

@[simp]
theorem map_text_lines (b : Block) : b.lines.map Line.text =
    (⟨0, false, b.heading⟩ : Entry).text :: b.entries.map Entry.text := by
  simp [Block.lines, Line.text, Function.comp_def]

theorem writeLogLevel_eq (config : NetworkConfiguration) :
    writeLogLevel config = blockTexts (logLevelBlock config) := rfl

theorem writeNodeIdsSection_eq (node : NodeDefinition) :
    writeNodeIdsSection node = blockTexts (nodeIdsBlock node) := by
  simp only [blockTexts, nodeIdsBlock, map_text_lines, List.map_cons, List.map_nil, text_opens,
    text_element]
  rfl

theorem writeGrpcSection_eq (config : NetworkConfiguration) :
    writeGrpcSection config = blockTexts (grpcBlock config) := by
  cases h : hasLtp config <;>
    simp only [writeGrpcSection, h, blockTexts, grpcBlock, grpcServices, map_text_lines,
      List.map_cons, List.map_nil, text_opens, text_setting] <;> rfl

theorem writeStorageSection_eq (config : NetworkConfiguration) :
    writeStorageSection config = blockTexts (storageBlock config) := by
  unfold writeStorageSection storageBlock
  cases config.storage with
  | none => rfl
  | some storage =>
    simp only [blockTexts, map_text_lines, List.map_cons, List.map_nil, text_opens, text_setting,
      Scalar.text, List.cons_append, List.append_assoc]
    rfl

theorem line_eq_text_entry (svc : BuiltInService) : svc.line = svc.entry.text := by
  simp [BuiltInService.line, BuiltInService.entry, Entry.text, Body.text, itemsText, Scalar.text,
    chars]

theorem writeBuiltInServicesSection_eq (L : Lowercasing) (node : NodeDefinition) :
    writeBuiltInServicesSection L node = blockTexts (builtInServicesBlock L node) := by
  have hlines : (builtInServices L node).map BuiltInService.line =
      ((builtInServices L node).map BuiltInService.entry).map Entry.text := by
    simp [line_eq_text_entry]
  rw [writeBuiltInServicesSection, hlines, blockTexts, builtInServicesBlock, map_text_lines]
  rfl

theorem writeStaticRoutesSection_eq (routing : RoutingConfig) :
    writeStaticRoutesSection routing = (staticRoutesBlock routing).flatMap blockTexts := by
  unfold writeStaticRoutesSection staticRoutesBlock
  split <;> rfl

theorem map_text_entries (entry : ClaEntry) :
    (ClaEntry.entries entry).map Entry.text = entry.lines := by
  simp only [ClaEntry.entries, List.map_cons, List.map_nil, text_item, text_setting, Scalar.text,
    List.cons_append, List.append_assoc]
  rfl

theorem clasSection_eq (config : NetworkConfiguration) : clasSection config =
    ((clasBlock config).flatMap Block.lines).map Line.text ++ linkNotes config := by
  rw [clasSection, linkNotes, clasBlock]
  congr 1
  split
  next hnone => simp [hnone]
  next hsome =>
    rw [if_neg (by simpa using hsome)]
    simp [List.map_flatMap, map_text_entries]
    rfl

/-- The main file is written as the document that it is meant to be. -/
theorem hardyLines_eq (L : Lowercasing) (config : NetworkConfiguration) :
    hardyLines L config = (document L config).map Line.text := by
  have hsections : ((sections L config).flatMap fun b => b.lines ++ [.note []]).map Line.text =
      (sections L config).flatMap blockTexts := by
    rw [List.map_flatMap]
    refine congrArg (List.flatMap · _) (funext fun b => ?_)
    simp [blockTexts, Line.text]
  have hnotes : ∀ texts : List Text, (texts.map Line.note).map Line.text = texts := by
    intro texts
    simp [Function.comp_def, Line.text]
  rw [document, List.map_append, List.map_append, List.map_append, hsections, hnotes, hnotes,
    hardyLines, clasSection_eq, writeLogLevel_eq, writeNodeIdsSection_eq, writeGrpcSection_eq,
    writeStorageSection_eq, writeBuiltInServicesSection_eq, writeStaticRoutesSection_eq]
  simp [sections, show writeRfc9171ValiditySection = blockTexts rfc9171ValidityBlock from rfl]

end lines

section consistency

/-- The blocks of the document. -/
def blocks (L : Lowercasing) (config : NetworkConfiguration) : List Block :=
  sections L config ++ clasBlock config

theorem entriesOf_document (L : Lowercasing) (config : NetworkConfiguration) :
    entriesOf (document L config) = (blocks L config).flatMap Block.all := by
  have hflat : ∀ bs : List Block,
      entriesOf (bs.flatMap fun b => b.lines ++ [.note []]) = bs.flatMap Block.all ∧
        entriesOf (bs.flatMap Block.lines) = bs.flatMap Block.all := by
    intro bs
    induction bs with
    | nil => exact ⟨rfl, rfl⟩
    | cons b bs ih => simp [ih]
  simp [document, blocks, hflat]

/-- What the main file states under a heading about a key. -/
def stated (L : Lowercasing) (config : NetworkConfiguration) (heading key : Text) : List Body :=
  under heading key false (entriesOf (document L config))

theorem heading_storageBlock (config : NetworkConfiguration) :
    (storageBlock config).heading = .opens (chars "storage") := by
  unfold storageBlock
  split <;> rfl

/-- Keys of the headings. -/
theorem map_key_blocks (L : Lowercasing) (config : NetworkConfiguration) :
    (blocks L config).map (·.heading.key) =
      ([chars "log-level", chars "node-ids", chars "grpc", chars "storage",
        chars "rfc9171-validity", chars "built-in-services"] ++
        (if config.routing.strategy ≠ .static then [] else [chars "static-routes"]) ++
        if clasEntries config = [] then [] else [chars "clas"]).map some := by
  unfold blocks sections staticRoutesBlock clasBlock
  simp only [List.map_append, List.map_cons, List.map_nil, heading_storageBlock]
  congr 1
  · congr 1
    split <;> rfl
  · split <;> rfl

theorem nodup_map_key_blocks (L : Lowercasing) (config : NetworkConfiguration) :
    ((blocks L config).map (·.heading.key)).Nodup := by
  rw [map_key_blocks]
  split <;> split <;> decide

theorem stated_of_mem {L : Lowercasing} {config : NetworkConfiguration} {b : Block}
    (hb : b ∈ blocks L config) {heading : Text} (hkey : b.heading.key = some heading)
    (key : Text) : stated L config heading key =
      (b.entries.map Entry.body).filter (·.key = some key) := by
  rw [stated, entriesOf_document, under_block (nodup_map_key_blocks L config) hb hkey]

/-- The address of the management interface. -/
theorem stated_address (L : Lowercasing) (config : NetworkConfiguration) :
    stated L config (chars "grpc") (chars "address") =
      [.setting (chars "address") (.quoted (grpcAddress config))] :=
  stated_of_mem (b := grpcBlock config) (by simp [blocks, sections]) rfl _

/-- The services of the management interface. -/
theorem stated_services (L : Lowercasing) (config : NetworkConfiguration) :
    stated L config (chars "grpc") (chars "services") =
      [.listing (chars "services") (grpcServices config)] :=
  stated_of_mem (b := grpcBlock config) (by simp [blocks, sections]) rfl _

/-- Integrity blocks and ages of bundles are not required. -/
theorem stated_validity (L : Lowercasing) (config : NetworkConfiguration) {key : Text}
    (hkey : key = chars "primary-block-integrity" ∨ key = chars "bundle-age-required") :
    stated L config (chars "rfc9171-validity") key = [.setting key (.plain (chars "false"))] := by
  rw [stated_of_mem (b := rfc9171ValidityBlock) (by simp [blocks, sections]) rfl]
  rcases hkey with rfl | rfl <;> rfl

/-- The file of static routes is referred to if the strategy is static. -/
theorem stated_routesFile (L : Lowercasing) (config : NetworkConfiguration) :
    stated L config (chars "static-routes") (chars "routes-file") =
      if config.routing.strategy = .static then
        [.setting (chars "routes-file") (.quoted (chars "static_routes.yaml"))]
      else [] := by
  split
  next hstatic =>
    refine (stated_of_mem (b := ⟨.opens (chars "static-routes"), [⟨2, false, .setting
      (chars "routes-file") (.quoted (chars "static_routes.yaml"))⟩], by simp⟩) ?_ rfl _).trans rfl
    simp [blocks, sections, staticRoutesBlock, hstatic]
  next hother =>
    rw [stated, entriesOf_document, under_eq_nil]
    rw [map_key_blocks, if_pos hother]
    split <;> decide

/-- The main file refers to a file of static routes exactly when there is one, it enables
the LTP service exactly when there is a configuration of the LTP server, and that
configuration has its address. -/
structure Consistent (L : Lowercasing) (config : NetworkConfiguration) : Prop where
  /-- Static routes. -/
  routes : .setting (chars "routes-file") (.quoted (chars "static_routes.yaml")) ∈
      stated L config (chars "static-routes") (chars "routes-file") ↔
    chars "static_routes.yaml" ∈ (generateHardyConfig L config).map Prod.fst
  /-- The LTP service. -/
  ltp : (∃ services, .listing (chars "services") services ∈
      stated L config (chars "grpc") (chars "services") ∧ .quoted (chars "ltp") ∈ services) ↔
    chars "ltp-cla.yaml" ∈ (generateHardyConfig L config).map Prod.fst
  /-- The address. -/
  address : ∀ file ∈ generateHardyConfig L config, file.1 = chars "ltp-cla.yaml" →
    ∃ cla : LtpCla, file.2 = written '\n' cla.lines ∧
      stated L config (chars "grpc") (chars "address") =
        [.setting (chars "address") (.quoted cla.grpcAddress)]

variable {L : Lowercasing} {config : NetworkConfiguration}

theorem hasLtp_eq_false_iff : hasLtp config = false ↔ ltpLinks config = [] := by
  simp only [hasLtp, ltpLinks, List.any_eq_false, List.filter_eq_nil_iff, List.mem_flatMap,
    List.mem_map]
  constructor
  · rintro h - ⟨n, hn, l, hl, rfl⟩
    exact fun hltp => h n hn (List.any_eq_true.mpr ⟨l, hl, hltp⟩)
  · intro h n hn hany
    obtain ⟨l, hl, hltp⟩ := List.any_eq_true.mp hany
    exact h (n, l) ⟨n, hn, l, hl, rfl⟩ hltp

/-- The LTP server is configured if there are links for it. -/
theorem ltpCla_isSome_iff : (ltpCla config).isSome ↔ hasLtp config = true := by
  rw [← Bool.not_eq_false (hasLtp config), hasLtp_eq_false_iff, ltpCla]
  cases hlinks : ltpLinks config with
  | nil => simp
  | cons first rest =>
    obtain ⟨neighbor, link⟩ := first
    have hltp : isLtpUdp link = true := by
      have hmem : (neighbor, link) ∈ ltpLinks config := hlinks ▸ List.mem_cons_self
      exact (List.mem_filter.mp hmem).2
    cases link <;> simp_all [isLtpUdp, localSide]

theorem mem_routes_iff :
    chars "static_routes.yaml" ∈ (generateHardyConfig L config).map Prod.fst ↔
      config.routing.strategy = .static ∧ config.routing.staticRoutes ≠ [] := by
  have hother : chars "static_routes.yaml" ≠ chars "hardy.yaml" ∧
      chars "static_routes.yaml" ≠ chars "ltp-cla.yaml" := by decide
  unfold generateHardyConfig
  split <;> cases generateLtpClaYaml config <;> simp_all

theorem mem_ltpCla_iff : chars "ltp-cla.yaml" ∈ (generateHardyConfig L config).map Prod.fst ↔
    hasLtp config = true := by
  have hother : chars "ltp-cla.yaml" ≠ chars "hardy.yaml" ∧
      chars "ltp-cla.yaml" ≠ chars "static_routes.yaml" := by decide
  rw [← ltpCla_isSome_iff, generateHardyConfig, generateLtpClaYaml]
  split <;> cases ltpCla config <;> simp_all

theorem mem_grpcServices_iff : .quoted (chars "ltp") ∈ grpcServices config ↔
    hasLtp config = true := by
  have hother : ∀ name ∈ [chars "application", chars "cla", chars "service"],
      chars "ltp" ≠ name := by decide
  unfold grpcServices
  split <;> simp_all

/-- The LTP server is configured with the address of the management interface. -/
theorem ltpCla_grpcAddress {cla : LtpCla} (h : ltpCla config = some cla) :
    cla.grpcAddress = grpcAddress config := by
  unfold ltpCla at h
  split at h
  · exact absurd h nofun
  · obtain ⟨side, -, rfl⟩ := Option.map_eq_some_iff.mp h
    rfl

/-- A valid configuration with static routing and no static routes. -/
def unrouted : NetworkConfiguration :=
  ⟨chars "hardy", ⟨10, none, []⟩, [], ⟨[], []⟩, ⟨.static, []⟩, none, []⟩

end consistency

end CislunarDtn.HardyDocuments
