import CislunarDtn.IonScriptLines

/-!
# Contacts and ranges as ionadmin reads them

Times in the commands count from the start of the engine and rates are bytes
per second, while the plan has Unix times and bits per second. The commands
take the plan's numbers over as they are, so that a contact keeps its meaning
only where neither makes a difference. Ranges hold for the engine's first day,
whatever the times of the contacts that need them.
-/

namespace CislunarDtn.IonContactPlans

open DecimalTexts NetworkConfigurations TerminatedLines IonScripts IonScriptLines

/-- An absolute interval between two nodes, in Unix seconds. -/
structure Window where
  /-- First second. -/
  start : ℤ
  /-- End. -/
  stop : ℤ
  /-- Sending node. -/
  source : ℕ
  /-- Receiving node. -/
  dest : ℕ
  deriving DecidableEq

/-- What a contact means. -/
structure ScheduledContact where
  /-- When and between which nodes. -/
  window : Window
  /-- Bits per second. -/
  bitRate : ℕ
  deriving DecidableEq

/-- What a removal refers to. -/
structure ContactKey where
  /-- First second of the contact. -/
  start : ℤ
  /-- Sending node. -/
  source : ℕ
  /-- Receiving node. -/
  dest : ℕ
  deriving DecidableEq

/-- The key of a contact. -/
def ScheduledContact.key (contact : ScheduledContact) : ContactKey :=
  ⟨contact.window.start, contact.window.source, contact.window.dest⟩

/-- What ionadmin is told about contacts and ranges. -/
inductive AdminCommand where
  /-- A contact. -/
  | addContact (contact : ScheduledContact)
  /-- Removal of a contact. -/
  | deleteContact (key : ContactKey)
  /-- A range with its light time. -/
  | addRange (window : Window) (owlt : ℤ)
  deriving DecidableEq

section reading

/-- Words of a line. -/
def words (l : Text) : List Text := linesOf ' ' l

/-- A time written with a plus: seconds after the start of the engine. -/
def readTime (t0 : ℤ) : Text → Option ℤ
  | '+' :: offset => (readSigned offset).map fun n => t0 + n
  | _ => none

/-- The four words of an interval between two nodes. -/
def readWindow (t0 : ℤ) (start stop source dest : Text) : Option Window := do
  let start ← readTime t0 start
  let stop ← readTime t0 stop
  let source ← readDecimal source
  let dest ← readDecimal dest
  return ⟨start, stop, source, dest⟩

/-- The arguments of an added contact. Its rate is in bytes per second. -/
def readContact (t0 : ℤ) : List Text → Option AdminCommand
  | [start, stop, source, dest, rate] => do
    let window ← readWindow t0 start stop source dest
    let rate ← readDecimal rate
    return .addContact ⟨window, 8 * rate⟩
  | _ => none

/-- The arguments of a removed contact. -/
def readRemoval (t0 : ℤ) : List Text → Option AdminCommand
  | [start, source, dest] => do
    let start ← readTime t0 start
    let source ← readDecimal source
    let dest ← readDecimal dest
    return .deleteContact ⟨start, source, dest⟩
  | _ => none

/-- The arguments of an added range. -/
def readRange (t0 : ℤ) : List Text → Option AdminCommand
  | [start, stop, source, dest, owlt] => do
    let window ← readWindow t0 start stop source dest
    let owlt ← readSigned owlt
    return .addRange window owlt
  | _ => none

/-- A line as a command about contacts and ranges, if it is one. -/
def readCommand (t0 : ℤ) (l : Text) : Option AdminCommand :=
  match words l with
  | verb :: object :: arguments =>
    if verb = chars "a" ∧ object = chars "contact" then readContact t0 arguments
    else if verb = chars "d" ∧ object = chars "contact" then readRemoval t0 arguments
    else if verb = chars "a" ∧ object = chars "range" then readRange t0 arguments
    else none
  | _ => none

/-- The commands about contacts and ranges in a script. -/
def commandsIn (t0 : ℤ) (script : Text) : List AdminCommand :=
  (linesOf '\n' script).filterMap (readCommand t0)

/-- The contact that a command adds. -/
def AdminCommand.added : AdminCommand → Option ScheduledContact
  | .addContact contact => some contact
  | _ => none

/-- The contact that a command removes. -/
def AdminCommand.removed : AdminCommand → Option ContactKey
  | .deleteContact key => some key
  | _ => none

/-- The interval of a range that a command adds. -/
def AdminCommand.ranged : AdminCommand → Option Window
  | .addRange window _ => some window
  | _ => none

/-- Contacts that a script adds. -/
def contactsIn (t0 : ℤ) (script : Text) : List ScheduledContact :=
  (commandsIn t0 script).filterMap AdminCommand.added

/-- Contacts that a script removes. -/
def removalsIn (t0 : ℤ) (script : Text) : List ContactKey :=
  (commandsIn t0 script).filterMap AdminCommand.removed

/-- Intervals of the ranges that a script adds. -/
def rangesIn (t0 : ℤ) (script : Text) : List Window :=
  (commandsIn t0 script).filterMap AdminCommand.ranged

end reading

section lines

variable (t0 : ℤ)

theorem readTime_plus (n : ℤ) : readTime t0 ('+' :: signedDecimal n) = some (t0 + n) := by
  rw [readTime, readSigned_signedDecimal, Option.map_some]

theorem space_notMem_decimal (n : ℕ) : ' ' ∉ decimal n := notMem_decimal (by decide) n

theorem space_notMem_signedDecimal (n : ℤ) : ' ' ∉ signedDecimal n :=
  notMem_signedDecimal (by decide) (by decide) n

theorem words_written {ws : List Text} (h : ∀ w ∈ ws, ' ' ∉ w) {last : Text} (hlast : ' ' ∉ last)
    (hne : last ≠ []) : words (written ' ' ws ++ last) = ws ++ [last] :=
  linesOf_written_append h hlast hne

/-- The contact that a contact command adds, its numbers taken as they stand. -/
def createdBy (startTime endTime : Int64) (source dest rate : UInt64) : ScheduledContact :=
  ⟨⟨t0 + startTime.toInt, t0 + endTime.toInt, source.toNat, dest.toNat⟩, 8 * rate.toNat⟩

/-- A contact command is read as a contact whose interval is shifted and whose rate is
eight times the number in the command. -/
theorem readCommand_addContact (startTime endTime : Int64) (source dest rate : UInt64) :
    readCommand t0 (Command.addContact startTime endTime source dest rate).text =
      some (.addContact (createdBy t0 startTime endTime source dest rate)) := by
  have htext : (Command.addContact startTime endTime source dest rate).text =
      written ' ' [chars "a", chars "contact", '+' :: signedDecimal startTime.toInt,
        '+' :: signedDecimal endTime.toInt, decimal source.toNat, decimal dest.toNat] ++
        decimal rate.toNat := by
    simp [Command.text, written, word, chars]
  rw [htext, readCommand, words_written ?_ (space_notMem_decimal _) (decimal_ne_nil _)]
  · simp [readContact, readWindow, readTime_plus, readDecimal_decimal, createdBy]
  · simp [space_notMem_decimal, space_notMem_signedDecimal, chars]

theorem readCommand_deleteContact (startTime : Int64) (source dest : UInt64) :
    readCommand t0 (Command.deleteContact startTime source dest).text =
      some (.deleteContact ⟨t0 + startTime.toInt, source.toNat, dest.toNat⟩) := by
  have htext : (Command.deleteContact startTime source dest).text =
      written ' ' [chars "d", chars "contact", '+' :: signedDecimal startTime.toInt,
        decimal source.toNat] ++ decimal dest.toNat := by
    simp [Command.text, written, word, chars]
  rw [htext, readCommand, words_written ?_ (space_notMem_decimal _) (decimal_ne_nil _)]
  · simp [readRemoval, readTime_plus, readDecimal_decimal, chars]
  · simp [space_notMem_decimal, space_notMem_signedDecimal, chars]

/-- The first day of the engine. -/
def firstDay (source dest : UInt64) : Window := ⟨t0, t0 + 86400, source.toNat, dest.toNat⟩

/-- Every range command is for the first day. -/
theorem readCommand_addRange (source dest : UInt64) (owlt : ℤ) :
    readCommand t0 (Command.addRange source dest owlt).text =
      some (.addRange (firstDay t0 source dest) owlt) := by
  have htext : (Command.addRange source dest owlt).text =
      written ' ' [chars "a", chars "range", '+' :: signedDecimal 0, '+' :: signedDecimal 86400,
        decimal source.toNat, decimal dest.toNat] ++ signedDecimal owlt := by
    simp [Command.text, written, word, chars, signedDecimal, decimal, Nat.toDigits,
      Nat.toDigitsCore, Nat.digitChar]
  rw [htext, readCommand, words_written ?_ (space_notMem_signedDecimal _) (signedDecimal_ne_nil _)]
  · simp [readRange, readWindow, readTime_plus, readDecimal_decimal, readSigned_signedDecimal,
      firstDay, chars]
  · simp [space_notMem_decimal, space_notMem_signedDecimal, chars]

/-- Lines that neither add nor delete are no commands about contacts and ranges. -/
theorem readCommand_of_verb (verb : Text) (hadd : verb ≠ chars "a") (hdelete : verb ≠ chars "d")
    (hverb : ' ' ∉ verb) (text : Text) : readCommand t0 (verb ++ ' ' :: text) = none := by
  have hwords : words (verb ++ ' ' :: text) = verb :: words text := linesOf_append_cons hverb text
  rw [readCommand, hwords]
  cases words text with
  | nil => rfl
  | cons object arguments => simp [hadd, hdelete]

theorem readCommand_comment (text : Text) : readCommand t0 (Line.text (.comment text)) = none :=
  readCommand_of_verb t0 (chars "##") (by decide) (by decide) (by decide) text

theorem readCommand_initializeNode (node : UInt64) :
    readCommand t0 (Line.text (.command (.initializeNode node))) = none := by
  have htext : Line.text (.command (.initializeNode node)) =
      chars "1" ++ ' ' :: (decimal node.toNat ++ chars " ''") := by
    simp [Line.text, Command.text, word]
  rw [htext]
  exact readCommand_of_verb t0 (chars "1") (by decide) (by decide) (by decide) _

end lines

section files

variable (t0 : ℤ)

/-- A script is read line by line. -/
theorem commandsIn_scriptText {lines : List Line} (h : ∀ line ∈ lines, '\n' ∉ line.text) :
    commandsIn t0 (scriptText lines) = lines.filterMap fun line => readCommand t0 line.text := by
  have hlines : linesOf '\n' (scriptText lines) = lines.map Line.text :=
    linesOf_written (List.forall_mem_map.mpr h)
  rw [commandsIn, hlines, List.filterMap_map]
  rfl

/-- What is read from commands of one form. -/
theorem filterMap_commands {α : Type*} {write : α → Command} {value : α → AdminCommand}
    (h : ∀ a, readCommand t0 (write a).text = some (value a)) (l : List α) :
    (l.map fun a => Line.command (write a)).filterMap (fun line => readCommand t0 line.text) =
      l.map value := by
  have hread : (fun line => readCommand t0 (Line.text line)) ∘ (fun a => .command (write a)) =
      some ∘ value := funext h
  rw [List.filterMap_map, hread, List.filterMap_eq_map]

/-- The contact that the plan's contact becomes. -/
def createdFrom (contact : Contact) : ScheduledContact :=
  createdBy t0 contact.startTime contact.endTime contact.sourceNode contact.destNode
    contact.rateBps

theorem readCommand_contactCommand (contact : Contact) :
    readCommand t0 (contactCommand contact).text = some (.addContact (createdFrom t0 contact)) :=
  readCommand_addContact t0 _ _ _ _ _

theorem readCommand_rangeCommand (range : Range) :
    readCommand t0 (rangeCommand range).text = some (.addRange
      (firstDay t0 range.sourceNode range.destNode) (owltSeconds range.owltSecs)) :=
  readCommand_addRange t0 _ _ _

theorem filterMap_writeContactCommands (plan : ContactPlan) (node : UInt64) :
    (writeContactCommands plan node).filterMap (fun line => readCommand t0 line.text) =
      .addContact (createdBy t0 0 86400 node node 100000) ::
        plan.contacts.map fun contact => .addContact (createdFrom t0 contact) := by
  have hloopback : readCommand t0 (Line.text (.command (.addContact 0 86400 node node 100000))) =
      some (.addContact (createdBy t0 0 86400 node node 100000)) :=
    readCommand_addContact t0 _ _ _ _ _
  have hcontacts := filterMap_commands t0 (readCommand_contactCommand t0) plan.contacts
  have hblank : readCommand t0 (Line.text .blank) = none := rfl
  simp [writeContactCommands, readCommand_comment, hloopback, hcontacts, hblank]

theorem filterMap_writeRangeCommands (plan : ContactPlan) (node : UInt64) :
    (writeRangeCommands plan node).filterMap (fun line => readCommand t0 line.text) =
      .addRange (firstDay t0 node node) 0 :: plan.ranges.map fun range =>
        .addRange (firstDay t0 range.sourceNode range.destNode) (owltSeconds range.owltSecs) := by
  have hloopback : readCommand t0 (Line.text (.command (.addRange node node 0))) =
      some (.addRange (firstDay t0 node node) 0) := readCommand_addRange t0 _ _ _
  have hranges := filterMap_commands t0 (readCommand_rangeCommand t0) plan.ranges
  have hblank : readCommand t0 (Line.text .blank) = none := rfl
  simp [writeRangeCommands, readCommand_comment, hloopback, hranges, hblank]

theorem newline_notMem_ionrcLines (config : NetworkConfiguration) :
    ∀ line ∈ ionrcLines config, '\n' ∉ line.text := by
  simp only [newline_notMem_lineText_iff, ionrcLines, writeContactCommands, writeRangeCommands,
    List.forall_mem_append, List.forall_mem_cons, List.forall_mem_map]
  simp [lineTexts, commandTexts, contactCommand, rangeCommand, newline_notMem_decimal, chars]

/-- What ionadmin is told by the .ionrc file: the loopback contact and those of the plan, the
loopback range and those of the plan. -/
theorem commandsIn_generateIonrc (config : NetworkConfiguration) :
    commandsIn t0 (generateIonrc config) =
      (.addContact (createdBy t0 0 86400 config.localNode.nodeNumber config.localNode.nodeNumber
          100000) ::
        config.contactPlan.contacts.map fun contact => .addContact (createdFrom t0 contact)) ++
      (.addRange (firstDay t0 config.localNode.nodeNumber config.localNode.nodeNumber) 0 ::
        config.contactPlan.ranges.map fun range => .addRange
          (firstDay t0 range.sourceNode range.destNode) (owltSeconds range.owltSecs)) := by
  have hblank : readCommand t0 (Line.text .blank) = none := rfl
  have hstart : readCommand t0 (Line.text (.command .start)) = none := rfl
  have hproduction : readCommand t0 (Line.text (.command .manageProduction)) = none := rfl
  have hconsumption : readCommand t0 (Line.text (.command .manageConsumption)) = none := rfl
  rw [generateIonrc, commandsIn_scriptText t0 (newline_notMem_ionrcLines config), ionrcLines]
  simp only [List.filterMap_append, filterMap_writeContactCommands, filterMap_writeRangeCommands]
  simp [readCommand_comment, readCommand_initializeNode, hblank, hstart, hproduction, hconsumption]

/-- The contacts of the .ionrc file. -/
theorem contactsIn_generateIonrc (config : NetworkConfiguration) :
    contactsIn t0 (generateIonrc config) =
      createdBy t0 0 86400 config.localNode.nodeNumber config.localNode.nodeNumber 100000 ::
        config.contactPlan.contacts.map (createdFrom t0) := by
  rw [contactsIn, commandsIn_generateIonrc, List.filterMap_append, List.filterMap_cons,
    List.filterMap_cons]
  simp [AdminCommand.added, List.filterMap_map, Function.comp_def]

/-- The ranges of the .ionrc file. -/
theorem rangesIn_generateIonrc (config : NetworkConfiguration) :
    rangesIn t0 (generateIonrc config) =
      firstDay t0 config.localNode.nodeNumber config.localNode.nodeNumber ::
        config.contactPlan.ranges.map fun range =>
          firstDay t0 range.sourceNode range.destNode := by
  rw [rangesIn, commandsIn_generateIonrc, List.filterMap_append, List.filterMap_cons,
    List.filterMap_cons]
  simp [AdminCommand.ranged, List.filterMap_map, Function.comp_def]

/-- One command is piped, and then the end of the input. -/
theorem commandsIn_piped {c : Command} (h : commandTexts c = []) :
    commandsIn t0 (piped c) = (readCommand t0 c.text).toList := by
  have hcommand : '\n' ∉ Line.text (.command c) := by
    refine newline_notMem_commandText_iff.mpr ?_
    rw [h]
    exact fun _ hmem => absurd hmem List.not_mem_nil
  have hlines : ∀ line ∈ [Line.command c, .command .quit], '\n' ∉ line.text := by
    simp only [List.forall_mem_cons]
    exact ⟨hcommand, by decide, by simp⟩
  have hquit : readCommand t0 (Line.text (.command .quit)) = none := rfl
  rw [piped, commandsIn_scriptText t0 hlines, List.filterMap_cons, List.filterMap_cons, hquit]
  rfl

theorem contactsIn_addContact (contact : Contact) :
    contactsIn t0 (addContact contact) = [createdFrom t0 contact] := by
  rw [contactsIn, addContact, commandsIn_piped t0 rfl, readCommand_contactCommand]
  rfl

theorem removalsIn_removeContact (contact : Contact) :
    removalsIn t0 (removeContact (contactRef contact)) = [(createdFrom t0 contact).key] := by
  rw [removalsIn, removeContact, commandsIn_piped t0 rfl, readCommand_deleteContact]
  rfl

end files

section meaning

/-- What a contact of the plan means. -/
def meaning (contact : Contact) : ScheduledContact :=
  ⟨⟨contact.startTime.toInt, contact.endTime.toInt, contact.sourceNode.toNat,
    contact.destNode.toNat⟩, contact.rateBps.toNat⟩

/-- The contacts of a plan have the same meaning in the .ionrc file and in the commands that add
them, and the commands that remove them refer to what was added. -/
structure KeepsMeaning (t0 : ℤ) (plan : ContactPlan) (ionrc : Text) : Prop where
  /-- After the loopback, the file has the contacts of the plan. -/
  inFile : (contactsIn t0 ionrc).tail = plan.contacts.map meaning
  /-- Adding a contact adds what it means. -/
  added : ∀ contact ∈ plan.contacts, contactsIn t0 (addContact contact) = [meaning contact]
  /-- Removing a contact removes what was added. -/
  removed : ∀ contact ∈ plan.contacts, removalsIn t0 (removeContact (contactRef contact)) =
    (contactsIn t0 (addContact contact)).map ScheduledContact.key

theorem createdFrom_eq_meaning_iff (t0 : ℤ) (contact : Contact) :
    createdFrom t0 contact = meaning contact ↔ t0 = 0 ∧ contact.rateBps = 0 := by
  have hrate : contact.rateBps = 0 ↔ contact.rateBps.toNat = 0 := UInt64.toNat_inj.symm
  rw [hrate]
  simp only [createdFrom, createdBy, meaning, ScheduledContact.mk.injEq, Window.mk.injEq, and_true]
  constructor
  · rintro ⟨⟨hstart, -⟩, hbits⟩
    omega
  · rintro ⟨hstart, hbits⟩
    omega

/-- Contacts keep their meaning exactly if the engine starts at time zero and they carry nothing,
since neither the times nor the rates are converted. -/
theorem keepsMeaning_iff (t0 : ℤ) (config : NetworkConfiguration) :
    KeepsMeaning t0 config.contactPlan (generateIonrc config) ↔
      ∀ contact ∈ config.contactPlan.contacts, t0 = 0 ∧ contact.rateBps = 0 := by
  constructor
  · intro h contact hc
    have hadded := h.added contact hc
    rw [contactsIn_addContact] at hadded
    exact (createdFrom_eq_meaning_iff t0 contact).mp (List.cons.inj hadded).1
  · intro h
    have hmeaning : ∀ contact ∈ config.contactPlan.contacts,
        createdFrom t0 contact = meaning contact := by
      intro contact hc
      exact (createdFrom_eq_meaning_iff t0 contact).mpr (h contact hc)
    constructor
    · rw [contactsIn_generateIonrc, List.tail_cons]
      exact List.map_congr_left hmeaning
    · intro contact hc
      rw [contactsIn_addContact, hmeaning contact hc]
    · intro contact hc
      rw [removalsIn_removeContact, contactsIn_addContact]
      rfl

/-- A plan with one contact between a node and its neighbor. -/
def oneContact (contact : Contact) (ranges : List Range) : NetworkConfiguration :=
  ⟨chars "ion-dtn", ⟨10, none, []⟩, [⟨20, []⟩], ⟨[contact], ranges⟩, ⟨.cgr, []⟩, none, []⟩

/-- A contact at 9600 bits per second is made one at 76800, decades after the plan's times. -/
theorem contact_displaced :
    ¬ ∀ (config : NetworkConfiguration), validate config = .ok () → ∀ t0 : ℤ,
      KeepsMeaning t0 config.contactPlan (generateIonrc config) := by
  intro h
  let contact : Contact := ⟨10, 20, 1750000000, 1750003600, 9600⟩
  have hvalid : validate (oneContact contact []) = .ok () := by decide +kernel
  have hadded := (h _ hvalid 1749990000).added contact List.mem_cons_self
  rw [contactsIn_addContact] at hadded
  exact absurd (List.cons.inj hadded).1 (by decide +kernel)

end meaning

section coverage

variable {π : Type*} (pair : ℕ → ℕ → π)

/-- Some range of the plan is for the nodes of a contact. -/
def HasRange (plan : ContactPlan) (contact : Contact) : Prop :=
  ∃ range ∈ plan.ranges, pair range.sourceNode.toNat range.destNode.toNat =
    pair contact.sourceNode.toNat contact.destNode.toNat

/-- The command of a contact in the .ionrc file adds a contact whose whole interval lies in that
of a range of the file for the same nodes. -/
def Covered (t0 : ℤ) (ionrc : Text) (contact : Contact) : Prop :=
  ∃ created, readCommand t0 (contactCommand contact).text = some (.addContact created) ∧
    created ∈ contactsIn t0 ionrc ∧ ∃ window ∈ rangesIn t0 ionrc,
      pair window.source window.dest = pair contact.sourceNode.toNat contact.destNode.toNat ∧
        window.start ≤ created.window.start ∧ created.window.stop ≤ window.stop

variable {t0 : ℤ} {config : NetworkConfiguration}

/-- All ranges of the file are for the engine's first day. -/
theorem firstDay_of_mem_rangesIn {window : Window}
    (h : window ∈ rangesIn t0 (generateIonrc config)) :
    window.start = t0 ∧ window.stop = t0 + 86400 := by
  rw [rangesIn_generateIonrc, List.mem_cons, List.mem_map] at h
  rcases h with rfl | ⟨range, -, rfl⟩ <;> exact ⟨rfl, rfl⟩

theorem covered_iff {contact : Contact} (hc : contact ∈ config.contactPlan.contacts)
    (hrange : HasRange pair config.contactPlan contact) :
    Covered pair t0 (generateIonrc config) contact ↔
      0 ≤ contact.startTime ∧ contact.endTime ≤ 86400 := by
  have hread := readCommand_contactCommand t0 contact
  have htimes : (0 ≤ contact.startTime ∧ contact.endTime ≤ 86400) ↔
      0 ≤ contact.startTime.toInt ∧ contact.endTime.toInt ≤ 86400 := by
    rw [Int64.le_iff_toInt_le, Int64.le_iff_toInt_le]
    rfl
  rw [htimes]
  constructor
  · rintro ⟨created, hcreated, -, window, hw, -, hstart, hstop⟩
    obtain rfl : createdFrom t0 contact = created := by
      rw [hread] at hcreated
      exact AdminCommand.addContact.inj (Option.some.inj hcreated)
    obtain ⟨hfirst, hlast⟩ := firstDay_of_mem_rangesIn hw
    simp only [createdFrom, createdBy] at hstart hstop
    omega
  · rintro ⟨hstart, hend⟩
    obtain ⟨range, hr, hpair⟩ := hrange
    have hcreated : createdFrom t0 contact ∈ contactsIn t0 (generateIonrc config) := by
      rw [contactsIn_generateIonrc]
      exact List.mem_cons_of_mem _ (List.mem_map_of_mem hc)
    have hwindow : firstDay t0 range.sourceNode range.destNode ∈
        rangesIn t0 (generateIonrc config) := by
      rw [rangesIn_generateIonrc]
      exact List.mem_cons_of_mem _ (List.mem_map.mpr ⟨range, hr, rfl⟩)
    refine ⟨_, hread, hcreated, _, hwindow, hpair, ?_⟩
    simp only [createdFrom, createdBy, firstDay]
    omega

/-- Contacts between nodes with a range lie in a range of the file exactly if they lie in the
engine's first day, however the nodes of a contact are compared with those of a range. -/
theorem covered_iff_firstDay {π : Type*} (pair : ℕ → ℕ → π) (t0 : ℤ)
    (config : NetworkConfiguration) :
    (∀ contact ∈ config.contactPlan.contacts, HasRange pair config.contactPlan contact →
        Covered pair t0 (generateIonrc config) contact) ↔
      ∀ contact ∈ config.contactPlan.contacts, HasRange pair config.contactPlan contact →
        0 ≤ contact.startTime ∧ contact.endTime ≤ 86400 := by
  constructor
  · intro h contact hc hrange
    exact (covered_iff pair hc hrange).mp (h contact hc hrange)
  · intro h contact hc hrange
    exact (covered_iff pair hc hrange).mpr (h contact hc hrange)

/-- A contact at a Unix time is outside all ranges. -/
theorem contact_uncovered :
    ¬ ∀ (config : NetworkConfiguration), validate config = .ok () → ∀ (t0 : ℤ),
      ∀ contact ∈ config.contactPlan.contacts, HasRange Prod.mk config.contactPlan contact →
        Covered Prod.mk t0 (generateIonrc config) contact := by
  intro h
  let contact : Contact := ⟨10, 20, 1750000000, 1750003600, 9600⟩
  let range : Range := ⟨10, 20, .finite 2⟩
  have hvalid : validate (oneContact contact [range]) = .ok () := by decide +kernel
  have hc : contact ∈ (oneContact contact [range]).contactPlan.contacts := List.mem_cons_self
  have hrange : HasRange Prod.mk (oneContact contact [range]).contactPlan contact :=
    ⟨range, List.mem_cons_self, rfl⟩
  have htimes := (covered_iff Prod.mk hc hrange).mp (h _ hvalid 0 contact hc hrange)
  exact absurd htimes.2 (by decide +kernel)

end coverage

end CislunarDtn.IonContactPlans
