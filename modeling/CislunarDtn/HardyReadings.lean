import CislunarDtn.HardyDocuments
import Mathlib.Data.List.Nodup
import Mathlib.Data.List.Perm.Subperm

/-!
# Reading the main file of the Hardy backend

The strings of a configuration go into the main file as they are: between
quotes, without them, as keys and into comments. Whether a reader gets back
what was meant depends on each of them.
-/

namespace CislunarDtn.HardyReadings

open BlockLayouts DecimalTexts HardyDocuments HardyFiles NetworkConfigurations TextScans

section keys

theorem numbered_injective (key : Text) : Function.Injective (numbered key) := by
  intro m n h
  exact decimal_injective (List.cons.inj (List.append_cancel_left h)).2

/-- A counted key is used only if as many keys are as there were tries, and one more. -/
theorem mem_of_countedKey_mem {usedKeys : List Text} {originalKey : Text} {tries counter : ℕ}
    (h : countedKey usedKeys originalKey tries counter ∈ usedKeys) {i : ℕ} (hi : i ≤ tries) :
    numbered originalKey (counter + i) ∈ usedKeys := by
  induction tries generalizing counter i with
  | zero =>
    obtain rfl : i = 0 := by omega
    exact h
  | succ tries ih =>
    rw [countedKey] at h
    split at h
    next hused =>
      cases i with
      | zero => exact hused
      | succ i =>
        have hnext := ih h (i := i) (by omega)
        rwa [show counter + 1 + i = counter + (i + 1) by omega] at hnext
    next hfree => exact absurd h hfree

/-- A counted key is not used. -/
theorem countedKey_notMem (usedKeys : List Text) (originalKey : Text) (counter : ℕ) :
    countedKey usedKeys originalKey usedKeys.length counter ∉ usedKeys := by
  intro h
  have hnodup : ((List.range (usedKeys.length + 1)).map fun i =>
      numbered originalKey (counter + i)).Nodup :=
    List.nodup_range.map fun m n hmn => by
      have := numbered_injective originalKey hmn
      omega
  have hsub : ((List.range (usedKeys.length + 1)).map fun i =>
      numbered originalKey (counter + i)) ⊆ usedKeys := by
    intro key hkey
    obtain ⟨i, hi, rfl⟩ := List.mem_map.mp hkey
    exact mem_of_countedKey_mem h (by simpa [Nat.lt_succ_iff] using hi)
  have hlength := (List.subperm_of_subset hnodup hsub).length_le
  rw [List.length_map, List.length_range] at hlength
  omega

/-- The key of a service is not used before. -/
theorem keyName_notMem (usedKeys : List Text) (base : Text) (number : UInt64) :
    keyName usedKeys base number ∉ usedKeys := by
  unfold keyName
  generalize (if base ∈ usedKeys then numbered base number.toNat else base) = originalKey
  dsimp only
  split
  next => exact countedKey_notMem usedKeys originalKey 2
  next hfree => exact hfree

theorem keyName_notMem_of_mem {L : Lowercasing} {usedKeys : List Text} {usedNumbers : List UInt64}
    {services : List ServiceDemux} {svc : BuiltInService}
    (h : svc ∈ addServices L usedKeys usedNumbers services) : svc.keyName ∉ usedKeys := by
  induction services generalizing usedKeys usedNumbers with
  | nil => exact absurd h List.not_mem_nil
  | cons first services ih =>
    rw [addServices] at h
    split at h
    next => exact ih h
    next =>
      rcases List.mem_cons.mp h with rfl | hmem
      · exact keyName_notMem _ _ _
      · exact fun hused => ih hmem (List.mem_cons_of_mem _ hused)

/-- Services have different keys. -/
theorem nodup_addServices (L : Lowercasing) (usedKeys : List Text) (usedNumbers : List UInt64)
    (services : List ServiceDemux) :
    ((addServices L usedKeys usedNumbers services).map BuiltInService.keyName).Nodup := by
  induction services generalizing usedKeys usedNumbers with
  | nil => exact List.nodup_nil
  | cons first services ih =>
    rw [addServices]
    split
    next => exact ih ..
    next =>
      refine List.nodup_cons.mpr ⟨fun hmem => ?_, ih ..⟩
      obtain ⟨svc, hsvc, hkey⟩ := List.mem_map.mp hmem
      exact keyName_notMem_of_mem hsvc (hkey ▸ List.mem_cons_self)

end keys

section conditions

/-- Services whose numbers are not used yet. -/
def keptServices : List UInt64 → List ServiceDemux → List ServiceDemux
  | _, [] => []
  | usedNumbers, svc :: services =>
    if svc.serviceNumber ∈ usedNumbers then keptServices usedNumbers services
    else svc :: keptServices (svc.serviceNumber :: usedNumbers) services

/-- The reader gets back the document that is meant, in which integrity blocks and ages
of bundles are not required, and this is stated once. -/
def Recovered (L : Lowercasing) (config : NetworkConfiguration) : Prop :=
  ∃ entries, readDocument (generateHardyYaml L config) = some entries ∧
    entries = entriesOf (document L config) ∧
      ∀ key ∈ [chars "primary-block-integrity", chars "bundle-age-required"],
        under (chars "rfc9171-validity") key false entries = [.setting key (.plain (chars "false"))]

/-- Every string of a configuration can stand where it is put. -/
structure Harmless (L : Lowercasing) (config : NetworkConfiguration) : Prop where
  /-- The log level is a plain scalar. -/
  logLevel : PlainScalar (logLevel config)
  /-- The address can stand between quotes. -/
  address : Quotable (grpcAddress config)
  /-- So can the callsign. -/
  callsign : ∀ authority path, config.localNode.callsignEid = some (.dtn authority path) →
    Quotable authority ∧ Quotable path
  /-- So can the directory of the storage. -/
  storage : ∀ storage ∈ config.storage, Quotable storage.path
  /-- So can the descriptions of services, and the names made from them are keys. -/
  services : ∀ svc ∈ keptServices [7] config.localNode.services,
    PlainKey (baseName L svc) ∧ Quotable (desc svc)
  /-- So can the names of TCP links. -/
  listeners : ∀ id remoteHost remotePort localPort,
    .tcpCl id remoteHost remotePort localPort ∈ config.links → Quotable id
  /-- Every line of the note about another link is a comment or blank. -/
  notes : ∀ link ∈ config.links, ∀ note ∈ linkNote link, ∀ part ∈ note.splitOnP isBreak,
    isSkipped part

end conditions

section blocks

/-- Every entry of a block can stand where it does. -/
def BlockReadable (b : Block) : Prop := ∀ e ∈ b.all, e.Readable

theorem forall_mem_lines_iff (b : Block) :
    (∀ line ∈ b.lines, line.Faithful) ↔ BlockReadable b := by
  simp [Block.lines, BlockReadable, Block.all, Line.Faithful]

/-- Comments without breaks are skipped. -/
theorem faithful_notes {texts : List Text}
    (h : ∀ text ∈ texts, (∀ c ∈ text, isBreak c = false) ∧ isSkipped text = true) :
    ∀ text ∈ texts, (Line.note text).Faithful := by
  intro text htext part hpart
  rw [List.splitOnP_eq_singleton (h text htext).1] at hpart
  rw [List.mem_singleton.mp hpart, (h text htext).2]

/-- The document is read as it is meant if all entries of its blocks can stand where they
do and the notes are skipped. -/
theorem faithful_document_iff (L : Lowercasing) (config : NetworkConfiguration) :
    (∀ line ∈ document L config, line.Faithful) ↔
      (∀ b ∈ blocks L config, BlockReadable b) ∧
        ∀ note ∈ linkNotes config, (Line.note note).Faithful := by
  have hempty : ∀ text ∈ [[]], (Line.note text).Faithful := faithful_notes (by decide)
  have hblank : (Line.note []).Faithful := hempty [] (List.mem_singleton_self _)
  have hheader : ∀ text ∈ [chars "# Hardy BPA server configuration",
      chars "# Generated by radiant-dtn-abstraction (Hardy adapter)",
      chars "# Amateur radio compliant: no BPSec/encryption", []], (Line.note text).Faithful :=
    faithful_notes (by decide)
  simp only [document, blocks, List.forall_mem_append, List.forall_mem_flatMap, List.forall_mem_map,
    forall_mem_lines_iff, List.forall_mem_singleton, hblank, and_true, and_assoc]
  exact and_iff_right hheader

/-- Links of other programs have notes, and TCP links have none. -/
theorem faithful_linkNotes_iff (config : NetworkConfiguration) :
    (∀ note ∈ linkNotes config, (Line.note note).Faithful) ↔
      ∀ link ∈ config.links, ∀ note ∈ linkNote link, (Line.note note).Faithful := by
  have hstatic : ∀ text ∈ [[], chars "# NOTE: LTP/UDP/KISS convergence layers require the separate",
      chars "# hardy-ltp-cla binary. Configure it independently."], (Line.note text).Faithful :=
    faithful_notes (by decide)
  unfold linkNotes
  split
  next hall =>
    refine iff_of_true (by simp) fun link hlink note hnote => ?_
    have htcp : isTcpCl link = true := List.all_eq_true.mp hall link hlink
    cases link <;> simp_all [isTcpCl, linkNote]
  next =>
    rw [List.forall_mem_append, List.forall_mem_flatMap]
    exact and_iff_right hstatic

theorem readable_logLevelBlock_iff (config : NetworkConfiguration) :
    BlockReadable (logLevelBlock config) ↔ PlainScalar (logLevel config) := by
  have hkey : PlainKey (chars "log-level") := by decide
  simp [BlockReadable, Block.all, logLevelBlock, Entry.Readable, hkey, Scalar.Readable]

theorem quotable_ipnId (node : NodeDefinition) : Quotable (ipnId node) :=
  quotable_append.mpr ⟨quotable_append.mpr ⟨by decide, quotable_decimal _⟩, by decide⟩

theorem quotable_dtnId_iff (node : NodeDefinition) : Quotable (dtnId node) ↔
    ∀ authority path, node.callsignEid = some (.dtn authority path) →
      Quotable authority ∧ Quotable path := by
  have hscheme : Quotable (chars "dtn://") ∧ Quotable (chars "/") ∧
      Quotable (chars "dtn://node") ∧ Quotable [] := by decide
  unfold dtnId
  split
  next authority path heq =>
    rw [heq]
    split <;> simp_all [quotable_append]
  next hother =>
    refine iff_of_true ?_ fun authority path heq => absurd heq (hother authority path)
    simp [quotable_append, quotable_decimal, hscheme]

theorem readable_nodeIdsBlock_iff (node : NodeDefinition) :
    BlockReadable (nodeIdsBlock node) ↔ ∀ authority path,
      node.callsignEid = some (.dtn authority path) → Quotable authority ∧ Quotable path := by
  have hkey : PlainKey (chars "node-ids") := by decide
  rw [← quotable_dtnId_iff]
  simp [BlockReadable, Block.all, nodeIdsBlock, Entry.Readable, hkey, quotable_ipnId]

theorem readable_grpcBlock_iff (config : NetworkConfiguration) :
    BlockReadable (grpcBlock config) ↔ Quotable (grpcAddress config) := by
  have hkeys : PlainKey (chars "grpc") ∧ PlainKey (chars "address") ∧
      PlainKey (chars "services") := by decide
  have hservices : grpcServices config ≠ [] ∧ ∀ value ∈ grpcServices config, value.Listable := by
    unfold grpcServices
    split <;> decide
  simp only [BlockReadable, Block.all, grpcBlock, Entry.Readable, hkeys, Scalar.Readable,
    List.forall_mem_cons, List.not_mem_nil, false_implies, implies_true, hservices, ne_eq,
    not_false_eq_true, true_and, and_true]
  exact and_iff_left hservices.2

theorem readable_storageBlock_iff (config : NetworkConfiguration) :
    BlockReadable (storageBlock config) ↔ ∀ storage ∈ config.storage, Quotable storage.path := by
  have hkeys : PlainKey (chars "storage") ∧ PlainKey (chars "metadata") ∧
      PlainKey (chars "type") ∧ PlainKey (chars "path") ∧ PlainKey (chars "bundle") := by decide
  have htexts : Quotable (chars "sqlite") ∧ Quotable (chars "localdisk") ∧
      Quotable (chars "memory") ∧ Quotable (chars "/metadata.db") ∧
      Quotable (chars "/bundles") := by decide
  unfold storageBlock
  cases config.storage <;>
    simp [BlockReadable, Block.all, Entry.Readable, hkeys, htexts, Scalar.Readable,
      quotable_append]

theorem readable_rfc9171ValidityBlock : BlockReadable rfc9171ValidityBlock := by
  unfold BlockReadable
  decide

theorem readable_staticRoutesBlock (routing : RoutingConfig) :
    ∀ b ∈ staticRoutesBlock routing, BlockReadable b := by
  have hkeys : PlainKey (chars "static-routes") ∧ PlainKey (chars "routes-file") ∧
      Quotable (chars "static_routes.yaml") := by decide
  unfold staticRoutesBlock
  split <;> simp [BlockReadable, Block.all, Entry.Readable, hkeys, Scalar.Readable]

theorem readable_entry_iff (entry : ClaEntry) :
    (∀ e ∈ ClaEntry.entries entry, e.Readable) ↔ Quotable entry.name := by
  have hkeys : PlainKey (chars "name") ∧ PlainKey (chars "type") ∧ PlainKey (chars "address") ∧
      PlainKey (chars "segment-mru") ∧ PlainKey (chars "transfer-mru") := by decide
  have htexts : Quotable (chars "tcpclv4") ∧ Quotable (chars "[::]:") ∧
      PlainScalar (chars "16384") ∧ PlainScalar (chars "562949953421312") := by decide
  simp [ClaEntry.entries, Entry.Readable, hkeys, htexts, Scalar.Readable, quotable_append,
    quotable_decimal]

/-- The name of a listener comes from its link, or else from its number. -/
theorem quotable_claEntry_iff (link : ConvergenceLayerLink) (idx : ℕ) :
    (∀ entry ∈ claEntry (link, idx), Quotable entry.name) ↔
      ∀ id remoteHost remotePort localPort,
        link = .tcpCl id remoteHost remotePort localPort → Quotable id := by
  have hprefix : Quotable (chars "tcp-cla-") ∧ Quotable [] := by decide
  cases link with
  | tcpCl id remoteHost remotePort localPort =>
    have hname : (∀ entry ∈ claEntry (.tcpCl id remoteHost remotePort localPort, idx),
        Quotable entry.name) ↔ Quotable id := by
      by_cases hid : id = [] <;>
        simp [claEntry, hid, quotable_append, hprefix, quotable_decimal]
    rw [hname]
    constructor
    · rintro h _ _ _ _ ⟨⟩
      exact h
    · intro h
      exact h _ _ _ _ rfl
  | _ => simp [claEntry]

theorem mem_iff_exists_mem_zipIdx {α : Type*} {a : α} {l : List α} :
    a ∈ l ↔ ∃ idx, (a, idx) ∈ l.zipIdx := by
  have hmap := List.mem_map (f := Prod.fst) (l := l.zipIdx) (b := a)
  rw [List.zipIdx_map_fst] at hmap
  simpa using hmap

theorem quotable_names_iff (config : NetworkConfiguration) :
    (∀ entry ∈ clasEntries config, Quotable entry.name) ↔
      ∀ id remoteHost remotePort localPort,
        .tcpCl id remoteHost remotePort localPort ∈ config.links → Quotable id := by
  constructor
  · intro h id remoteHost remotePort localPort hmem
    obtain ⟨idx, hidx⟩ := mem_iff_exists_mem_zipIdx.mp
      (List.mem_filter (p := isTcpCl) |>.mpr ⟨hmem, rfl⟩)
    have hentries := (quotable_claEntry_iff _ idx).mp fun entry hentry =>
      h entry (List.mem_filterMap.mpr ⟨_, hidx, hentry⟩)
    exact hentries id remoteHost remotePort localPort rfl
  · intro h entry hentry
    obtain ⟨⟨link, idx⟩, hidx, hentry⟩ := List.mem_filterMap.mp hentry
    refine (quotable_claEntry_iff link idx).mpr ?_ entry hentry
    rintro id remoteHost remotePort localPort rfl
    exact h _ _ _ _ (List.mem_filter.mp (mem_iff_exists_mem_zipIdx.mpr ⟨idx, hidx⟩)).1

theorem readable_clasBlock_iff (config : NetworkConfiguration) :
    (∀ b ∈ clasBlock config, BlockReadable b) ↔
      ∀ id remoteHost remotePort localPort,
        .tcpCl id remoteHost remotePort localPort ∈ config.links → Quotable id := by
  have hkey : PlainKey (chars "clas") := by decide
  rw [← quotable_names_iff, clasBlock]
  split
  next hnone => simp [hnone]
  next =>
    simp only [List.forall_mem_singleton, BlockReadable, Block.all, List.forall_mem_cons,
      List.forall_mem_flatMap, readable_entry_iff]
    exact and_iff_right hkey

end blocks

section services

theorem readable_service_iff (svc : BuiltInService) :
    svc.entry.Readable ↔ PlainKey svc.keyName ∧ Quotable svc.desc := by
  have hnumber := listable_decimal svc.serviceNumber.toNat
  simp only [BuiltInService.entry, Entry.Readable, List.forall_mem_cons, hnumber, ne_eq,
    reduceCtorEq, not_false_eq_true, true_and, List.not_mem_nil, false_implies, implies_true,
    and_true]
  exact Iff.rfl

theorem plainKey_countedKey {usedKeys : List Text} {originalKey : Text} (h : PlainKey originalKey)
    (tries counter : ℕ) : PlainKey (countedKey usedKeys originalKey tries counter) := by
  induction tries generalizing counter with
  | zero => exact h.append_decimal counter
  | succ tries ih =>
    rw [countedKey]
    split
    next => exact ih (counter + 1)
    next => exact h.append_decimal counter

/-- The key of a service is a key if and only if its base name is. -/
theorem plainKey_keyName_iff {usedKeys : List Text} (hused : ∀ key ∈ usedKeys, PlainKey key)
    (base : Text) (number : UInt64) :
    PlainKey (keyName usedKeys base number) ↔ PlainKey base := by
  unfold keyName
  dsimp only
  by_cases hbase : base ∈ usedKeys
  · have hplain : PlainKey base := hused base hbase
    have hnumbered : PlainKey (numbered base number.toNat) := hplain.append_decimal _
    rw [if_pos hbase]
    refine iff_of_true ?_ hplain
    split
    next => exact plainKey_countedKey hnumbered ..
    next => exact hnumbered
  · rw [if_neg hbase, if_neg hbase]

/-- The services that are written can stand in the file if and only if those that are kept
give keys and have descriptions that can. -/
theorem readable_addServices_iff {L : Lowercasing} {usedKeys : List Text}
    (hused : ∀ key ∈ usedKeys, PlainKey key) (usedNumbers : List UInt64)
    (services : List ServiceDemux) :
    (∀ svc ∈ addServices L usedKeys usedNumbers services, svc.entry.Readable) ↔
      ∀ svc ∈ keptServices usedNumbers services,
        PlainKey (baseName L svc) ∧ Quotable (desc svc) := by
  induction services generalizing usedKeys usedNumbers with
  | nil => simp [addServices, keptServices]
  | cons svc services ih =>
    rw [addServices, keptServices]
    split
    next => exact ih hused usedNumbers
    next =>
      have hkey := plainKey_keyName_iff hused (baseName L svc) svc.serviceNumber
      rw [List.forall_mem_cons, List.forall_mem_cons, readable_service_iff, hkey]
      refine and_congr_right fun hsvc => ih ?_ _
      exact List.forall_mem_cons.mpr ⟨hkey.mpr hsvc.1, hused⟩

theorem readable_builtInServicesBlock_iff (L : Lowercasing) (node : NodeDefinition) :
    BlockReadable (builtInServicesBlock L node) ↔
      ∀ svc ∈ keptServices [7] node.services, PlainKey (baseName L svc) ∧ Quotable (desc svc) := by
  have hecho : PlainKey (chars "built-in-services") ∧ Entry.Readable
      ⟨2, false, .listing (chars "echo") [.plain (chars "7"), .quoted (chars "echo")]⟩ := by decide
  have hused : ∀ key ∈ [chars "echo"], PlainKey key := by decide
  rw [← readable_addServices_iff hused]
  simp only [BlockReadable, Block.all, builtInServicesBlock, List.forall_mem_cons,
    List.forall_mem_map, builtInServices]
  exact (and_iff_right hecho.1).trans (and_iff_right hecho.2)

end services

section recovery

/-- Under its heading nothing else is stated about validity. -/
theorem recovered_iff_readDocument (L : Lowercasing) (config : NetworkConfiguration) :
    Recovered L config ↔
      readDocument (generateHardyYaml L config) = some (entriesOf (document L config)) := by
  constructor
  · rintro ⟨entries, hread, rfl, -⟩
    exact hread
  · intro hread
    refine ⟨_, hread, rfl, fun key hkey => stated_validity L config ?_⟩
    simpa using hkey

/-- The reader gets back what is meant if and only if every string of the configuration can
stand where it is put. -/
theorem recovered_iff (L : Lowercasing) (config : NetworkConfiguration) :
    Recovered L config ↔ Harmless L config := by
  have hroutes := readable_staticRoutesBlock config.routing
  rw [recovered_iff_readDocument, generateHardyYaml, hardyLines_eq, readDocument_written_eq_iff,
    faithful_document_iff, faithful_linkNotes_iff]
  simp only [blocks, sections, List.forall_mem_append, List.forall_mem_cons,
    readable_logLevelBlock_iff, readable_nodeIdsBlock_iff, readable_grpcBlock_iff,
    readable_storageBlock_iff, readable_rfc9171ValidityBlock, readable_builtInServicesBlock_iff,
    readable_clasBlock_iff, List.not_mem_nil, false_implies, implies_true, true_and, and_true,
    and_assoc]
  constructor
  · rintro ⟨hlevel, hcallsign, haddress, hstorage, hservices, -, hlisteners, hnotes⟩
    exact ⟨hlevel, haddress, hcallsign, hstorage, hservices, hlisteners, hnotes⟩
  · intro h
    exact ⟨h.logLevel, h.callsign, h.address, h.storage, h.services, hroutes, h.listeners, h.notes⟩

/-- A log level that goes on with a section of its own. -/
def forged : NetworkConfiguration :=
  ⟨chars "hardy", ⟨10, none, []⟩, [], ⟨[], []⟩, ⟨.cgr, []⟩, none,
    [(chars "log_level",
      .string (chars "info\nrfc9171-validity:\n  primary-block-integrity: true"))]⟩

/-- The reader finds the forged section beside the one that is meant. -/
theorem validity_forged : validate forged = .ok () ∧ ¬Recovered asciiLowercasing forged ∧
    (readDocument (generateHardyYaml asciiLowercasing forged)).map
        (under (chars "rfc9171-validity") (chars "primary-block-integrity") false) =
      some [.setting (chars "primary-block-integrity") (.plain (chars "true")),
        .setting (chars "primary-block-integrity") (.plain (chars "false"))] := by
  have hread : (readDocument (generateHardyYaml asciiLowercasing forged)).map
        (under (chars "rfc9171-validity") (chars "primary-block-integrity") false) =
      some [.setting (chars "primary-block-integrity") (.plain (chars "true")),
        .setting (chars "primary-block-integrity") (.plain (chars "false"))] := by
    decide +kernel
  refine ⟨by decide, ?_, hread⟩
  rintro ⟨entries, hentries, -, hvalidity⟩
  rw [hentries, Option.map_some, hvalidity _ (by simp)] at hread
  exact absurd hread (by decide)

end recovery

end CislunarDtn.HardyReadings
