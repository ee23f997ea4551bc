import CislunarDtn.IonScripts

/-!
# Lines of the ION scripts

The admin tools read a script line by line. A text that the configuration
contributes to a command stays within the command's line exactly if it has no
newline of its own; otherwise what follows the newline is read as a command of
its own, whatever it is.
-/

namespace CislunarDtn.IonScriptLines

open DecimalTexts NetworkConfigurations TerminatedLines IonScripts

/-- Texts that a duct takes over from the configuration. -/
def ductTexts : Duct → List Text
  | .ltp _ => []
  | .tcp host _ => [host]
  | .udp host _ => [host]

/-- Texts that an output command takes over from the configuration. -/
def outputTexts : SpanOutput → List Text
  | .udplso host _ => [host]
  | .kisslo device => [device]

/-- Texts that an endpoint takes over from the configuration. -/
def eidTexts : EndpointId → List Text
  | .ipn _ _ => []
  | .dtn authority path => [authority, path]

/-- Texts that a command takes over from the configuration or a request. -/
def commandTexts : Command → List Text
  | .addEndpoint eid => eidTexts eid
  | .addInduct duct => ductTexts duct
  | .addOutduct duct => ductTexts duct
  | .addSpan _ _ output => outputTexts output
  | .addPlan _ duct => ductTexts duct
  | .resumeDuct linkId => [linkId]
  | .stopDuct linkId => [linkId]
  | _ => []

/-- Texts of a line that are not part of a fixed form. -/
def lineTexts : Line → List Text
  | .comment text => [text]
  | .blank => []
  | .command c => commandTexts c

/-- The host or device of a link. -/
def linkText : ConvergenceLayerLink → Text
  | .ltpUdp _ _ _ remoteHost _ _ _ => remoteHost
  | .tcpCl _ remoteHost _ _ => remoteHost
  | .kiss _ tncDevice _ _ _ => tncDevice
  | .udp _ remoteHost _ _ => remoteHost

/-- All texts that the scripts take over from a configuration. -/
def freeTexts (config : NetworkConfiguration) : List Text :=
  config.localNode.callsignEid.elim [] eidTexts ++ config.links.map linkText

/-- The scripts of a node. -/
def scripts (config : NetworkConfiguration) : List (List Line) :=
  [ionrcLines config, bprcLines config, ltprcLines config, ipnrcLines config]

/-- A line that is blank, a comment or a command of a fixed form. -/
def FixedForm (l : Text) : Prop := l = [] ∨ chars "##" <+: l ∨ ∃ c : Command, c.text = l

/-- How directives of bundle protocol security begin. -/
def bpsecDirectives : List Text :=
  [chars "a bpsource", chars "a bibrule", chars "a bcbrule", chars "a bib", chars "a bcb"]

/-- A directive of bundle protocol security. -/
def IsBpsec (l : Text) : Prop := ∃ directive ∈ bpsecDirectives, directive <+: l

instance : DecidablePred IsBpsec := fun l =>
  inferInstanceAs (Decidable (∃ directive ∈ bpsecDirectives, directive <+: l))

/-- The lines of a file are the commands, comments and blank lines of its script,
each with its own arguments: every line has a fixed form, and none is a
directive of bundle protocol security. -/
structure Uninjected (lines : List Line) : Prop where
  /-- The file is read as it was written. -/
  asWritten : linesOf '\n' (scriptText lines) = lines.map Line.text
  /-- Lines have fixed forms. -/
  fixedForm : ∀ l ∈ linesOf '\n' (scriptText lines), FixedForm l
  /-- No line asks for bundle protocol security. -/
  noBpsec : ∀ l ∈ linesOf '\n' (scriptText lines), ¬IsBpsec l

/-- A text that consists of one command and the end of the input. -/
def SingleCommand (text command : Text) : Prop := linesOf '\n' text = [command, chars "q"]

section texts

theorem newline_notMem_decimal (n : ℕ) : '\n' ∉ decimal n := notMem_decimal (by decide) n

theorem newline_notMem_signedDecimal (n : ℤ) : '\n' ∉ signedDecimal n :=
  notMem_signedDecimal (by decide) (by decide) n

theorem newline_notMem_word {text : Text} : '\n' ∉ word text ↔ '\n' ∉ text := by
  simp [word]

theorem newline_notMem_protocolName (protocol : Protocol) : '\n' ∉ protocol.name := by
  cases protocol <;> decide

theorem newline_notMem_ductName_iff {duct : Duct} :
    '\n' ∉ duct.name ↔ ∀ text ∈ ductTexts duct, '\n' ∉ text := by
  cases duct <;> simp [Duct.name, ductTexts, newline_notMem_decimal]

theorem newline_notMem_outputText_iff {output : SpanOutput} :
    '\n' ∉ output.text ↔ ∀ text ∈ outputTexts output, '\n' ∉ text := by
  cases output <;> simp [SpanOutput.text, outputTexts, newline_notMem_decimal, chars]

theorem newline_notMem_eidText_iff {eid : EndpointId} :
    '\n' ∉ eidText eid ↔ ∀ text ∈ eidTexts eid, '\n' ∉ text := by
  cases eid <;> simp [eidText, eidTexts, newline_notMem_decimal, chars]

/-- A command stays on one line exactly if the texts it takes over do. -/
theorem newline_notMem_commandText_iff {c : Command} :
    '\n' ∉ c.text ↔ ∀ text ∈ commandTexts c, '\n' ∉ text := by
  cases c with
  | addEndpoint eid =>
    simp [Command.text, commandTexts, chars, ← newline_notMem_eidText_iff]
  | addInduct duct =>
    simp [Command.text, commandTexts, chars, newline_notMem_word, newline_notMem_protocolName,
      ← newline_notMem_ductName_iff]
  | addOutduct duct =>
    simp [Command.text, commandTexts, chars, newline_notMem_word, newline_notMem_protocolName,
      ← newline_notMem_ductName_iff]
  | addSpan engineId segmentSize output =>
    simp [Command.text, commandTexts, chars, newline_notMem_word, newline_notMem_decimal,
      ← newline_notMem_outputText_iff]
  | addPlan node duct =>
    simp [Command.text, commandTexts, chars, newline_notMem_word, newline_notMem_decimal,
      newline_notMem_protocolName, ← newline_notMem_ductName_iff]
  | addProtocol protocol =>
    cases protocol <;> simp [Command.text, commandTexts, chars, Protocol.name]
  | _ =>
    simp [Command.text, commandTexts, chars, newline_notMem_word, newline_notMem_decimal,
      newline_notMem_signedDecimal]

theorem newline_notMem_lineText_iff {line : Line} :
    '\n' ∉ line.text ↔ ∀ text ∈ lineTexts line, '\n' ∉ text := by
  cases line with
  | comment text => simp [Line.text, lineTexts, chars]
  | blank => simp [Line.text, lineTexts]
  | command c => exact newline_notMem_commandText_iff

/-- No command form is a directive of bundle protocol security, whatever its arguments. -/
theorem not_isBpsec_commandText (c : Command) : ¬IsBpsec c.text := by
  cases c with
  | addProtocol protocol => cases protocol <;> decide
  | _ => simp [IsBpsec, bpsecDirectives, Command.text, chars, word]

theorem fixedForm_lineText (line : Line) : FixedForm line.text := by
  cases line with
  | comment text => exact Or.inr (Or.inl ⟨' ' :: text, rfl⟩)
  | blank => exact Or.inl rfl
  | command c => exact Or.inr (Or.inr ⟨c, rfl⟩)

theorem not_isBpsec_lineText (line : Line) : ¬IsBpsec line.text := by
  cases line with
  | comment text => simp [IsBpsec, bpsecDirectives, Line.text, chars]
  | blank => decide
  | command c => exact not_isBpsec_commandText c

/-- A file has the lines of its script exactly if each of them is one line. -/
theorem uninjected_iff {lines : List Line} :
    Uninjected lines ↔ ∀ line ∈ lines, '\n' ∉ line.text := by
  have hread : linesOf '\n' (scriptText lines) = lines.map Line.text ↔
      ∀ line ∈ lines, '\n' ∉ line.text := by
    rw [scriptText, linesOf_written_eq_iff, List.forall_mem_map]
  constructor
  · intro h
    exact hread.mp h.asWritten
  · intro h
    have hwritten := hread.mpr h
    refine ⟨hwritten, ?_, ?_⟩
    all_goals
      rw [hwritten, List.forall_mem_map]
      intro line _
    · exact fixedForm_lineText line
    · exact not_isBpsec_lineText line

end texts

section scripts

variable {config : NetworkConfiguration}

/-- What a line takes over comes from the configuration's texts. -/
def Plain (config : NetworkConfiguration) (line : Line) : Prop :=
  ∀ text ∈ lineTexts line, text ∈ freeTexts config ∨ '\n' ∉ text

theorem linkText_mem_freeTexts {link : ConvergenceLayerLink} (h : link ∈ config.links) :
    linkText link ∈ freeTexts config :=
  List.mem_append_right _ (List.mem_map_of_mem h)

/-- Commands that take over nothing but a link's host or device. -/
theorem plain_of_link {link : ConvergenceLayerLink} (h : link ∈ config.links) {c : Command}
    (hc : ∀ text ∈ commandTexts c, text = linkText link) : Plain config (.command c) := by
  intro text htext
  rw [hc text htext]
  exact Or.inl (linkText_mem_freeTexts h)

theorem plain_ionrcLines : ∀ line ∈ ionrcLines config, Plain config line := by
  simp only [ionrcLines, writeContactCommands, writeRangeCommands, List.forall_mem_append,
    List.forall_mem_cons, List.forall_mem_map]
  simp [Plain, lineTexts, commandTexts, contactCommand, rangeCommand, newline_notMem_decimal, chars]

theorem mem_links {neighbor : Neighbor} (hn : neighbor ∈ config.neighbors)
    {link : ConvergenceLayerLink} (hl : link ∈ neighbor.links) : link ∈ config.links :=
  List.mem_flatMap.mpr ⟨neighbor, hn, hl⟩

theorem plain_writeBprcLinkEntries {link : ConvergenceLayerLink} (h : link ∈ config.links) :
    ∀ line ∈ writeBprcLinkEntries link, Plain config line := by
  have hduct : (∀ text ∈ ductTexts (inductOf link), text = linkText link) ∧
      ∀ text ∈ ductTexts (outductOf link), text = linkText link := by
    cases link <;> simp [inductOf, outductOf, ductTexts, linkText]
  simp only [writeBprcLinkEntries, List.forall_mem_cons]
  exact ⟨plain_of_link h hduct.1, plain_of_link h hduct.2, by simp⟩

theorem plain_writeLtprcSpan {link : ConvergenceLayerLink} (h : link ∈ config.links) :
    ∀ line ∈ writeLtprcSpan link, Plain config line := by
  intro line hline
  cases link with
  | ltpUdp | kiss =>
    rw [List.mem_singleton.mp hline]
    exact plain_of_link h (by simp [commandTexts, outputTexts, linkText])
  | tcpCl | udp => exact absurd hline List.not_mem_nil

theorem plain_writeIpnrcPlan {neighbor : Neighbor} (h : neighbor ∈ config.neighbors) :
    ∀ line ∈ writeIpnrcPlan neighbor, Plain config line := by
  intro line hline
  unfold writeIpnrcPlan at hline
  split at hline
  next link rest hlinks =>
    have hmem : link ∈ config.links := mem_links h (hlinks ▸ List.mem_cons_self)
    have hduct : ∀ text ∈ ductTexts (linkToDuctExpression link), text = linkText link := by
      cases link <;> simp [linkToDuctExpression, ductTexts, linkText]
    rw [List.mem_singleton.mp hline]
    exact plain_of_link hmem hduct
  next => exact absurd hline List.not_mem_nil

theorem plain_writeEndpoints : ∀ line ∈ writeEndpoints config.localNode, Plain config line := by
  have hcallsign : ∀ eid, config.localNode.callsignEid = some eid →
      Plain config (.command (.addEndpoint eid)) := by
    intro eid heid text htext
    refine Or.inl (List.mem_append_left _ ?_)
    rw [heid]
    exact htext
  simp only [writeEndpoints, List.forall_mem_append, List.forall_mem_cons, List.forall_mem_map]
  refine ⟨⟨⟨?_, ?_⟩, ?_⟩, ?_⟩
  · simp [Plain, lineTexts, commandTexts, eidTexts, chars]
  · simp [Plain, lineTexts, commandTexts, eidTexts]
  · split
    next eid heid =>
      have hblank : Plain config .blank ∧ Plain config (.comment (chars
          "Callsign EID (amateur radio station identification)")) := by
        simp [Plain, lineTexts, chars]
      simp [hblank, hcallsign eid heid]
    next => simp
  · simp [Plain, lineTexts]

theorem plain_bprcLines : ∀ line ∈ bprcLines config, Plain config line := by
  simp only [bprcLines, List.forall_mem_append, List.forall_mem_cons, List.forall_mem_map,
    List.forall_mem_flatMap]
  refine ⟨⟨⟨⟨⟨⟨?_, plain_writeEndpoints⟩, ?_⟩, ?_⟩, ?_⟩, ?_⟩, ?_⟩
  · simp [Plain, lineTexts, commandTexts, newline_notMem_decimal, chars]
  · simp [Plain, lineTexts, chars]
  · simp [Plain, lineTexts, commandTexts]
  · simp [Plain, lineTexts, chars]
  · intro neighbor hn link hl
    exact plain_writeBprcLinkEntries (mem_links hn hl)
  · simp [Plain, lineTexts, commandTexts]

theorem plain_ltprcLines : ∀ line ∈ ltprcLines config, Plain config line := by
  simp only [ltprcLines, List.forall_mem_append, List.forall_mem_cons, List.forall_mem_flatMap]
  refine ⟨⟨?_, ?_⟩, ?_⟩
  · simp [Plain, lineTexts, commandTexts, loopbackSpan, outputTexts, newline_notMem_decimal, chars]
  · intro neighbor hn link hl
    exact plain_writeLtprcSpan (mem_links hn hl)
  · simp [Plain, lineTexts, commandTexts]

theorem plain_ipnrcLines : ∀ line ∈ ipnrcLines config, Plain config line := by
  simp only [ipnrcLines, ipnrcHead, writeRoutingConfig, List.forall_mem_append,
    List.forall_mem_cons, List.forall_mem_flatMap]
  refine ⟨⟨⟨?_, ?_, ?_⟩, ?_⟩, fun neighbor hn => plain_writeIpnrcPlan hn⟩
  · simp [Plain, lineTexts, newline_notMem_decimal, chars]
  · split
    · simp [Plain, lineTexts, chars]
    · simp [Plain, lineTexts, commandTexts, staticPlan, ductTexts, chars]
    · simp [Plain, lineTexts, chars]
  · simp [Plain, lineTexts]
  · simp [Plain, lineTexts, chars]

/-- Whatever a script's line takes over comes from the configuration's texts. -/
theorem plain_of_mem {lines : List Line} (hs : lines ∈ scripts config) {line : Line}
    (h : line ∈ lines) : Plain config line := by
  simp only [scripts, List.mem_cons, List.not_mem_nil, or_false] at hs
  rcases hs with rfl | rfl | rfl | rfl
  · exact plain_ionrcLines line h
  · exact plain_bprcLines line h
  · exact plain_ltprcLines line h
  · exact plain_ipnrcLines line h

/-- Every text of the configuration is taken over into some script. -/
theorem exists_line_of_mem_freeTexts {text : Text} (h : text ∈ freeTexts config) :
    ∃ lines ∈ scripts config, ∃ line ∈ lines, text ∈ lineTexts line := by
  rcases List.mem_append.mp h with hcallsign | hlink
  · cases heid : config.localNode.callsignEid with
    | none =>
      rw [heid] at hcallsign
      exact absurd hcallsign List.not_mem_nil
    | some eid =>
      rw [heid] at hcallsign
      refine ⟨bprcLines config, by simp [scripts], .command (.addEndpoint eid), ?_, hcallsign⟩
      simp [bprcLines, writeEndpoints, heid]
  · obtain ⟨link, hl, rfl⟩ := List.mem_map.mp hlink
    obtain ⟨neighbor, hn, hl⟩ := List.mem_flatMap.mp hl
    -- Hosts of LTP links and devices go into spans, the other hosts into ducts.
    have hspan : ∀ line ∈ writeLtprcSpan link, line ∈ ltprcLines config := by
      intro line hline
      refine List.mem_append_left _ (List.mem_append_right _ ?_)
      exact List.mem_flatMap.mpr ⟨neighbor, hn, List.mem_flatMap.mpr ⟨link, hl, hline⟩⟩
    have hinduct : Line.command (.addInduct (inductOf link)) ∈ bprcLines config := by
      refine List.mem_append_left _ (List.mem_append_right _ ?_)
      exact List.mem_flatMap.mpr ⟨neighbor, hn, List.mem_flatMap.mpr ⟨link, hl, by
        simp [writeBprcLinkEntries]⟩⟩
    cases link with
    | ltpUdp | kiss =>
      refine ⟨ltprcLines config, by simp [scripts], _, hspan _ (List.mem_singleton.mpr rfl), ?_⟩
      simp [lineTexts, commandTexts, outputTexts, linkText]
    | tcpCl | udp =>
      refine ⟨bprcLines config, by simp [scripts], _, hinduct, ?_⟩
      simp [lineTexts, commandTexts, inductOf, ductTexts, linkText]

end scripts

section injection

theorem singleCommand_piped_iff {c : Command} :
    SingleCommand (piped c) c.text ↔ ∀ text ∈ commandTexts c, '\n' ∉ text := by
  have hquit : Line.text (.command .quit) = chars "q" := rfl
  have hread : SingleCommand (piped c) c.text ↔
      linesOf '\n' (written '\n' [c.text, chars "q"]) = [c.text, chars "q"] := Iff.rfl
  rw [hread, linesOf_written_eq_iff, ← newline_notMem_commandText_iff]
  simp [chars]

/-- The scripts of a configuration hold their own commands and nothing else
exactly if none of the texts they take over has a newline, and enabling and
disabling a link is one command exactly if the link's identifier has none. -/
theorem uninjected_iff_no_newline (config : NetworkConfiguration) (linkId : Text) :
    ((∀ lines ∈ scripts config, Uninjected lines) ↔ ∀ text ∈ freeTexts config, '\n' ∉ text) ∧
      (SingleCommand (enableLink linkId) (chars "r start ltp/" ++ linkId) ∧
        SingleCommand (disableLink linkId) (chars "r stop ltp/" ++ linkId) ↔ '\n' ∉ linkId) := by
  constructor
  · constructor
    · intro h text htext
      obtain ⟨lines, hs, line, hline, hmem⟩ := exists_line_of_mem_freeTexts htext
      have hone : '\n' ∉ line.text := uninjected_iff.mp (h lines hs) line hline
      exact newline_notMem_lineText_iff.mp hone text hmem
    · intro h lines hs
      refine uninjected_iff.mpr fun line hline => newline_notMem_lineText_iff.mpr ?_
      intro text htext
      exact (plain_of_mem hs hline text htext).elim (h text) id
  · have henable := singleCommand_piped_iff (c := .resumeDuct linkId)
    have hdisable := singleCommand_piped_iff (c := .stopDuct linkId)
    simp only [commandTexts, List.forall_mem_singleton] at henable hdisable
    constructor
    · intro h
      exact henable.mp h.1
    · intro h
      exact ⟨henable.mpr h, hdisable.mpr h⟩

/-- A host with newlines puts a directive into the .bprc file. -/
theorem bpsec_directive_injected :
    ¬ ∀ (config : NetworkConfiguration), validate config = .ok () →
      ∀ lines ∈ scripts config, Uninjected lines := by
  intro h
  let link : ConvergenceLayerLink :=
    .tcpCl [] (chars "10.0.0.40\na bcbrule ipn:40.1\n##") 4556 none
  let config : NetworkConfiguration :=
    ⟨chars "ion-dtn", ⟨10, none, []⟩, [⟨40, [link]⟩], ⟨[], []⟩, ⟨.cgr, []⟩, none, []⟩
  have hvalid : validate config = .ok () := by decide +kernel
  have hlines : Uninjected (bprcLines config) := h config hvalid _ (by simp [scripts])
  have hinjected : chars "a bcbrule ipn:40.1" ∈ linesOf '\n' (scriptText (bprcLines config)) := by
    decide +kernel
  exact hlines.noBpsec _ hinjected (by decide +kernel)

end injection

end CislunarDtn.IonScriptLines
