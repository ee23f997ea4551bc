import CislunarDtn.FilledDefaults
import CislunarDtn.HardyFiles
import CislunarDtn.TextScans

/-!
# Names and addresses of the TCP listeners

A TCP link without an id gets a name from its place among the TCP links, and one
without a local port gets port 4556. Neither is compared with what other links
have, and validation does not look at links, so that two listeners can share a
name or an address. Which links give distinct listeners is stated exactly.
-/

namespace CislunarDtn.TcpListeners

open DecimalTexts FilledDefaults HardyFiles NetworkConfigurations TextScans

section readings

/-- What stands between quotes after a label at the start of a line. -/
def quotedAfter (label line : Text) : Option Text :=
  (label.isPrefixOf? line).map List.dropLast

/-- Start of a line with a name. -/
def nameLabel : Text := chars "  - name: \""

/-- Start of a line with an address. -/
def addressLabel : Text := chars "    address: \""

/-- Names of the entries, as they stand in the section. -/
def emittedNames (config : NetworkConfiguration) : List Text :=
  (clasSection config).filterMap (quotedAfter nameLabel)

/-- Listen addresses of the entries, as they stand in the section. -/
def emittedAddresses (config : NetworkConfiguration) : List Text :=
  (clasSection config).filterMap (quotedAfter addressLabel)

/-- The address of a port on all interfaces. -/
def listenAddress (port : UInt16) : Text := chars "[::]:" ++ decimal port.toNat

theorem quotedAfter_append (label text : Text) :
    quotedAfter label (label ++ text ++ chars "\"") = some text := by
  have hlabel : label.isPrefixOf? (label ++ text ++ chars "\"") = some (text ++ chars "\"") :=
    List.isPrefixOf?_eq_some_iff_append_eq.mpr (List.append_assoc label text _).symm
  rw [quotedAfter, hlabel]
  exact congrArg some List.dropLast_concat

theorem quotedAfter_of_clashes (label front back : Text) (h : clashes label front = true) :
    quotedAfter label (front ++ back) = none := by
  rw [quotedAfter, isPrefixOf?_append_of_clashes h]
  rfl

/-- Name and address stand behind their labels. -/
theorem lines_eq (entry : ClaEntry) : entry.lines =
    [nameLabel ++ entry.name ++ chars "\"", chars "    type: \"tcpclv4\"",
      addressLabel ++ listenAddress entry.listenPort ++ chars "\"", chars "    segment-mru: 16384",
      chars "    transfer-mru: 562949953421312"] := by
  rw [listenAddress, ← List.append_assoc]
  rfl

/-- Notes are comments. -/
theorem exists_of_mem_linkNote {link : ConvergenceLayerLink} {note : Text}
    (h : note ∈ linkNote link) : ∃ rest, note = '#' :: rest := by
  cases link with
  | tcpCl => cases h
  | ltpUdp | kiss | udp => exact ⟨_, List.mem_singleton.mp h⟩

section labels

variable {label : Text} (hlabel : label.head? = some ' ')

include hlabel

/-- A line that does not begin with a blank has no such label. -/
theorem quotedAfter_eq_none {line : Text} (h : line.head? ≠ some ' ') :
    quotedAfter label line = none := by
  rw [List.eq_cons_of_mem_head? hlabel]
  cases line with
  | nil => rfl
  | cons c back =>
    have hc : ' ' ≠ c := fun hblank => h (congrArg some hblank.symm)
    exact quotedAfter_of_clashes _ [c] back (by simp [clashes, hc])

/-- Labels are not found in the notes. -/
theorem filterMap_linkNotes (links : List ConvergenceLayerLink) :
    (links.flatMap linkNote).filterMap (quotedAfter label) = [] := by
  refine List.filterMap_eq_nil_iff.mpr fun note hmem => ?_
  obtain ⟨link, -, hlink⟩ := List.mem_flatMap.mp hmem
  obtain ⟨rest, rfl⟩ := exists_of_mem_linkNote hlink
  exact quotedAfter_eq_none hlabel (by simp)

/-- Labels are found in the lines of entries only. -/
theorem filterMap_clasSection (config : NetworkConfiguration) :
    (clasSection config).filterMap (quotedAfter label) =
      (clasEntries config).flatMap fun entry => entry.lines.filterMap (quotedAfter label) := by
  have hheader : quotedAfter label (chars "clas:") = none :=
    quotedAfter_eq_none hlabel (by decide)
  have hnotes : (if config.links.all isTcpCl then []
      else [[], chars "# NOTE: LTP/UDP/KISS convergence layers require the separate",
        chars "# hardy-ltp-cla binary. Configure it independently."] ++
        config.links.flatMap linkNote).filterMap (quotedAfter label) = [] := by
    split
    next => rfl
    next =>
      rw [List.filterMap_append, filterMap_linkNotes hlabel, List.append_nil]
      refine List.filterMap_eq_nil_iff.mpr ?_
      rw [List.forall_mem_cons, List.forall_mem_cons, List.forall_mem_singleton]
      exact ⟨quotedAfter_eq_none hlabel (by decide), quotedAfter_eq_none hlabel (by decide),
        quotedAfter_eq_none hlabel (by decide)⟩
  rw [clasSection, List.filterMap_append, hnotes, List.append_nil]
  split
  next hentries =>
    rw [hentries]
    rfl
  next => rw [List.filterMap_cons, hheader, List.filterMap_flatMap]

end labels

/-- Each entry has its name on a line. -/
theorem emittedNames_eq (config : NetworkConfiguration) :
    emittedNames config = (clasEntries config).map ClaEntry.name := by
  have hlines (entry : ClaEntry) :
      entry.lines.filterMap (quotedAfter nameLabel) = [entry.name] := by
    have hname := quotedAfter_append nameLabel entry.name
    have haddress := quotedAfter_of_clashes nameLabel addressLabel
      (listenAddress entry.listenPort ++ chars "\"") (by decide)
    rw [← List.append_assoc] at haddress
    rw [lines_eq, List.filterMap_cons_some hname, List.filterMap_cons_none (by decide),
      List.filterMap_cons_none haddress, List.filterMap_cons_none (by decide),
      List.filterMap_cons_none (by decide), List.filterMap_nil]
  rw [emittedNames, filterMap_clasSection (by decide), funext hlines, List.map_eq_flatMap]

/-- Each entry has its address on a line. -/
theorem emittedAddresses_eq (config : NetworkConfiguration) :
    emittedAddresses config =
      ((clasEntries config).map ClaEntry.listenPort).map listenAddress := by
  have hlines (entry : ClaEntry) :
      entry.lines.filterMap (quotedAfter addressLabel) = [listenAddress entry.listenPort] := by
    have hname := quotedAfter_of_clashes addressLabel nameLabel (entry.name ++ chars "\"")
      (by decide)
    have haddress := quotedAfter_append addressLabel (listenAddress entry.listenPort)
    rw [← List.append_assoc] at hname
    rw [lines_eq, List.filterMap_cons_none hname, List.filterMap_cons_none (by decide),
      List.filterMap_cons_some haddress, List.filterMap_cons_none (by decide),
      List.filterMap_cons_none (by decide), List.filterMap_nil]
  rw [emittedAddresses, filterMap_clasSection (by decide), funext hlines, List.map_map,
    List.map_eq_flatMap]
  rfl

end readings

section listeners

/-- TCP links of all neighbors. -/
def tcpLinks (config : NetworkConfiguration) : List ConvergenceLayerLink :=
  config.links.filter isTcpCl

/-- The id of a TCP link, if it is not empty. -/
def givenId : ConvergenceLayerLink → Option Text
  | .tcpCl id .. => if id = [] then none else some id
  | _ => none

/-- The local port of a TCP link, if there is one. -/
def givenPort : ConvergenceLayerLink → Option UInt16
  | .tcpCl _ _ _ localPort => localPort
  | _ => none

/-- The name of a link without an id. -/
def fallbackName (idx : ℕ) : Text := chars "tcp-cla-" ++ decimal (idx + 1)

theorem fallbackName_injective : Function.Injective fallbackName := by
  intro idx idx' h
  have hdecimal := decimal_injective (List.append_cancel_left h)
  omega

theorem listenAddress_injective : Function.Injective listenAddress := by
  intro port port' h
  exact UInt16.toNat_inj.mp (decimal_injective (List.append_cancel_left h))

/-- What the entries have in a field, with a default where a link leaves it open. -/
theorem map_clasEntries {β : Type} {field : ClaEntry → β} {given : ConvergenceLayerLink → Option β}
    {fallback : ℕ → β} (config : NetworkConfiguration)
    (h : ∀ link idx, isTcpCl link = true →
      (claEntry (link, idx)).map field = some ((given link).getD (fallback idx))) :
    (clasEntries config).map field = filled fallback 0 ((tcpLinks config).map given) := by
  rw [clasEntries, List.map_filterMap, filled_eq_map_zipIdx, List.zipIdx_map, List.map_map]
  refine List.filterMap_eq_map_iff_forall_eq_some.mpr fun ⟨link, idx⟩ hmem => ?_
  have hlink := List.mem_filter.mp (List.fst_mem_of_mem_zipIdx hmem)
  exact h link idx hlink.2

theorem names_clasEntries (config : NetworkConfiguration) : (clasEntries config).map ClaEntry.name =
    filled fallbackName 0 ((tcpLinks config).map givenId) := by
  refine map_clasEntries config fun link idx hlink => ?_
  cases link with
  | tcpCl id => by_cases hid : id = [] <;> simp [claEntry, givenId, hid, fallbackName]
  | ltpUdp | kiss | udp => cases hlink

theorem ports_clasEntries (config : NetworkConfiguration) :
    (clasEntries config).map ClaEntry.listenPort =
      filled (fun _ => 4556) 0 ((tcpLinks config).map givenPort) := by
  refine map_clasEntries config fun link idx hlink => ?_
  cases link with
  | tcpCl => rfl
  | ltpUdp | kiss | udp => cases hlink

/-- What tells the listeners of a configuration apart. -/
structure DistinctListeners (config : NetworkConfiguration) : Prop where
  /-- No two links have one id. -/
  ids : ((tcpLinks config).filterMap givenId).Nodup
  /-- The name of a link without an id is no other link's id. -/
  fallbacks : ∀ (idx : ℕ) (link : ConvergenceLayerLink), (tcpLinks config)[idx]? = some link →
    givenId link = none → ∀ other ∈ tcpLinks config, givenId other ≠ some (fallbackName idx)
  /-- No two links have one local port. -/
  ports : ((tcpLinks config).filterMap givenPort).Nodup
  /-- At most one link has no local port. -/
  openPorts : (tcpLinks config).countP (fun link => (givenPort link).isNone) ≤ 1
  /-- If there is one, then no other has the default. -/
  defaultPort : ∀ link ∈ tcpLinks config, givenPort link = none →
    ∀ other ∈ tcpLinks config, givenPort other ≠ some 4556

theorem nodup_emittedNames_iff (config : NetworkConfiguration) : (emittedNames config).Nodup ↔
    ((tcpLinks config).filterMap givenId).Nodup ∧
      ∀ (idx : ℕ) (link : ConvergenceLayerLink), (tcpLinks config)[idx]? = some link →
        givenId link = none →
        ∀ other ∈ tcpLinks config, givenId other ≠ some (fallbackName idx) := by
  have hids : ((tcpLinks config).map givenId).reduceOption = (tcpLinks config).filterMap givenId :=
    List.filterMap_map
  rw [emittedNames_eq, names_clasEntries, nodup_filled_iff_of_injective fallbackName_injective,
    hids]
  refine and_congr_right fun _ => ?_
  constructor
  · intro h idx link hlink hopen other hother heq
    have hgap : idx ∈ gaps 0 ((tcpLinks config).map givenId) := by
      rw [mem_gaps_zero_iff, List.getElem?_map, hlink, Option.map_some, hopen]
    exact h idx hgap (List.mem_map.mpr ⟨other, hother, heq⟩)
  · intro h idx hgap hmem
    rw [mem_gaps_zero_iff, List.getElem?_map, Option.map_eq_some_iff] at hgap
    obtain ⟨link, hlink, hopen⟩ := hgap
    obtain ⟨other, hother, heq⟩ := List.mem_map.mp hmem
    exact h idx link hlink hopen other hother heq

theorem nodup_emittedAddresses_iff (config : NetworkConfiguration) :
    (emittedAddresses config).Nodup ↔
      ((tcpLinks config).filterMap givenPort).Nodup ∧
      (tcpLinks config).countP (fun link => (givenPort link).isNone) ≤ 1 ∧
      ∀ link ∈ tcpLinks config, givenPort link = none →
        ∀ other ∈ tcpLinks config, givenPort other ≠ some 4556 := by
  have hports : ((tcpLinks config).map givenPort).reduceOption =
      (tcpLinks config).filterMap givenPort := List.filterMap_map
  rw [emittedAddresses_eq, List.nodup_map_iff listenAddress_injective, ports_clasEntries,
    nodup_filled_const_iff, hports, List.countP_map]
  refine and_congr_right fun _ => and_congr_right fun _ => ?_
  simp only [List.mem_map, exists_imp, and_imp, not_exists, not_and, ne_eq]

/-- Two neighbors behind TCP links without local ports. The second link has no id, and the first
has its fallback name. -/
def twoTcpLinks : NetworkConfiguration :=
  ⟨chars "hardy", ⟨10, none, []⟩,
    [⟨20, [.tcpCl (chars "tcp-cla-2") (chars "10.0.0.20") 4556 none]⟩,
      ⟨30, [.tcpCl [] (chars "10.0.0.30") 4556 none]⟩],
    ⟨[], []⟩, ⟨.cgr, []⟩, none, []⟩

end listeners

end CislunarDtn.TcpListeners
