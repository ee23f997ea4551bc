import CislunarDtn.HdtnContacts
import Mathlib.Data.Finset.Lattice.Basic

/-!
# Validity of the HDTN contact plan

The plan is validated when it is loaded from a file. AddContact posts what it
is given and appends it without looking at its rate, its times or the length of
the list. The steps after which the list is no longer a valid plan, and those
that post a contact no valid plan could have, are determined here.
-/

namespace CislunarDtn.HdtnPlans

open Bundles LabelledRuns HdtnContacts

/-- What validation asks of one entry. -/
structure ValidContact (c : Contact) : Prop where
  /-- The rate is positive. -/
  rate : 0 < c.rateBitsPerSec
  /-- The window starts before it ends. -/
  window : c.startTime < c.endTime

theorem validContact_iff {c : Contact} :
    ValidContact c ↔ 0 < c.rateBitsPerSec ∧ c.startTime < c.endTime :=
  ⟨fun h => ⟨h.rate, h.window⟩, fun h => ⟨h.1, h.2⟩⟩

instance : DecidablePred ValidContact := fun _ => decidable_of_iff _ validContact_iff.symm

/-- The error of the first invalid entry, where the first one has this index. -/
def firstInvalid (i : ℕ) : List Contact → Option GoError
  | [] => none
  | c :: rest =>
    if c.rateBitsPerSec ≤ 0 then
      some (.errorf (ascii s!"contact[{i}]: rate must be greater than 0 (got " ++
        formatInt64 c.rateBitsPerSec ++ ascii ")"))
    else if c.startTime ≥ c.endTime then
      some (.errorf (ascii s!"contact[{i}]: start time (" ++ formatInt64 c.startTime ++
        ascii ") must be before end time (" ++ formatInt64 c.endTime ++ ascii ")"))
    else firstInvalid (i + 1) rest

/-- Validation of a list of contacts. -/
def validateContacts (contacts : List Contact) : Option GoError :=
  if contacts.length > 1000 then
    some (.errorf (ascii s!"contact plan exceeds maximum of 1000 entries (has {contacts.length})"))
  else firstInvalid 0 contacts

/-- What LoadFromFile finds at its path. -/
inductive PlanFile where
  /-- The file cannot be read. -/
  | unreadable (text : GoString)
  /-- A .json file, as it is parsed. -/
  | json (parsed : Except GoString (List Contact))
  /-- A .yaml or .yml file, as it is parsed. -/
  | yaml (parsed : Except GoString (List Contact))
  /-- A file with another extension. -/
  | unsupported (ext : GoString)

/-- The contacts of a file, or the error of reading it. -/
def PlanFile.contacts : PlanFile → Except GoError (List Contact)
  | .unreadable text => .error (.errorf (ascii "failed to read contact plan file: " ++ text))
  | .json (.error text) => .error (.errorf (ascii "failed to parse JSON contact plan: " ++ text))
  | .json (.ok contacts) => .ok contacts
  | .yaml (.error text) => .error (.errorf (ascii "failed to parse YAML contact plan: " ++ text))
  | .yaml (.ok contacts) => .ok contacts
  | .unsupported ext => .error (.errorf (ascii "unsupported file format: " ++ ext ++
      ascii " (use .json or .yaml)"))

/-- The request was sent, whatever came of it. -/
def sent : Response → Bool
  | .unbuilt _ => false
  | _ => true

/-- Posting contacts in order, from this index on: those that are sent and those
that the server applies, and the error that ends the loop. -/
def postEach (responses : ℕ → Response) : ℕ → List Contact →
    List Contact × List Contact × Option GoError
  | _, [] => ([], [], none)
  | i, c :: rest =>
    match (responses i).error "failed to marshal contact" with
    | none =>
      let later := postEach responses (i + 1) rest
      (c :: later.1, c :: later.2.1, later.2.2)
    | some cause =>
      (if sent (responses i) then [c] else [], [],
        some (.errorf (ascii s!"failed to apply contact[{i}] (source=" ++ formatInt64 c.source ++
          ascii ", dest=" ++ formatInt64 c.dest ++ ascii ", start=" ++ formatInt64 c.startTime ++
          ascii "): " ++ cause.text)))

/-- One step of the manager. -/
inductive Event where
  /-- A step of an AddContact or RemoveContact call. -/
  | call (e : HdtnContacts.Event)
  /-- LoadFromFile is called. -/
  | loadFromFile (file : PlanFile)
  /-- Apply is called, and its requests are answered in this way. -/
  | applyPlan (responses : ℕ → Response)

/-- LoadFromFile: the list is replaced if the file's contacts are valid. -/
def loadFromFile (s : System) (file : PlanFile) : System × Option GoError :=
  match file.contacts with
  | .error err => (s, some err)
  | .ok contacts =>
    match validateContacts contacts with
    | some err => (s, some err)
    | none => ({ s with contacts := contacts }, none)

/-- The system after a step. -/
def step (s : System) : Event → System
  | .call e => s.apply e
  | .loadFromFile file => (loadFromFile s file).1
  | .applyPlan responses =>
    let applied := (postEach responses 0 s.contacts).2.1
    { s with server := s.server ∪ (applied.map Contact.key).toFinset }

/-- The contacts posted to the server at a step. -/
def posts (s : System) : Event → List Contact
  | .call (.request i response) =>
    match s.clients[i]? with
    | some (.posting contact) => if sent response then [contact] else []
    | _ => []
  | .call _ => []
  | .loadFromFile _ => []
  | .applyPlan responses => (postEach responses 0 s.contacts).1

/-- The list passes validation. -/
def Validated (s : System) : Prop := validateContacts s.contacts = none

instance : DecidablePred Validated := fun s =>
  inferInstanceAs (Decidable (validateContacts s.contacts = none))

/-- Every contact posted at a step is valid. -/
def PostsValid (s : System) (e : Event) : Prop := ∀ c ∈ posts s e, ValidContact c

/-- A step of AddContact that validation would have let pass: it posts a contact
with a positive rate and a window that starts before it ends, and appends to
fewer than 1000 entries. -/
def Sound (s : System) : Event → Prop
  | .call (.request i response) =>
    match s.clients[i]? with
    | some (.posting contact) => sent response = true → ValidContact contact
    | _ => True
  | .call (.update i) =>
    match s.clients[i]? with
    | some (.posted _) => s.contacts.length < 1000
    | _ => True
  | _ => True

/-- A manager without contacts, and whatever plan the server has. -/
def newContactPlanManager (server : Finset ContactKey) (clients : ℕ) : System :=
  ⟨[], server, List.replicate clients .idle⟩

section validation

theorem firstInvalid_eq_none_iff {i : ℕ} {contacts : List Contact} :
    firstInvalid i contacts = none ↔ ∀ c ∈ contacts, ValidContact c := by
  induction contacts generalizing i with
  | nil => simp [firstInvalid]
  | cons c rest ih =>
    rw [List.forall_mem_cons, validContact_iff, firstInvalid]
    by_cases hrate : c.rateBitsPerSec ≤ 0
    · rw [if_pos hrate]
      have hno : ¬0 < c.rateBitsPerSec := Int64.not_lt.mpr hrate
      simp [hno]
    · rw [if_neg hrate]
      have hpos : 0 < c.rateBitsPerSec := Int64.not_le.mp hrate
      by_cases hwindow : c.startTime ≥ c.endTime
      · rw [if_pos hwindow]
        have hno : ¬c.startTime < c.endTime := Int64.not_lt.mpr hwindow
        simp [hno]
      · rw [if_neg hwindow, ih]
        have hlt : c.startTime < c.endTime := Int64.not_le.mp hwindow
        simp [hpos, hlt]

/-- A list passes validation when it is short enough and its entries are valid. -/
theorem validateContacts_eq_none_iff {contacts : List Contact} :
    validateContacts contacts = none ↔
      contacts.length ≤ 1000 ∧ ∀ c ∈ contacts, ValidContact c := by
  unfold validateContacts
  by_cases hlen : contacts.length > 1000
  · rw [if_pos hlen]
    have hno : ¬contacts.length ≤ 1000 := by omega
    simp [hno]
  · rw [if_neg hlen, firstInvalid_eq_none_iff]
    have hle : contacts.length ≤ 1000 := by omega
    simp [hle]

/-- Apply posts contacts of the list only. -/
theorem mem_of_mem_postEach {responses : ℕ → Response} {i : ℕ} {contacts : List Contact}
    {c : Contact} (h : c ∈ (postEach responses i contacts).1) : c ∈ contacts := by
  induction contacts generalizing i with
  | nil => exact h
  | cons d rest ih =>
    rw [postEach] at h
    split at h
    · rcases List.mem_cons.mp h with rfl | hlater
      · exact List.mem_cons_self
      · exact List.mem_cons_of_mem _ (ih hlater)
    · have hone : c ∈ [d] := by
        dsimp only at h
        split at h
        · exact h
        · exact absurd h List.not_mem_nil
      rw [List.mem_singleton.mp hone]
      exact List.mem_cons_self

end validation

/-- The list is valid, and so is every contact about to be appended to it. -/
structure Inv (s : System) : Prop where
  /-- The list passes validation. -/
  validated : Validated s
  /-- Contacts that the server has applied and the list does not have yet. -/
  posted : ∀ c, Client.posted c ∈ s.clients → ValidContact c

section steps

variable {s : System}

/-- Replacing a client by one that appends nothing keeps what is due valid. -/
theorem posted_set {i : ℕ} {client : Client} (h : ∀ c, Client.posted c ∈ s.clients → ValidContact c)
    (hclient : ∀ c, client = .posted c → ValidContact c) :
    ∀ c, Client.posted c ∈ s.clients.set i client → ValidContact c := by
  intro c hc
  rcases List.mem_or_eq_of_mem_set hc with hold | hnew
  · exact h c hold
  · exact hclient c hnew.symm

/-- A client that goes on without appending keeps the invariant. -/
theorem Inv.goTo (h : Inv s) (i : ℕ) {client : Client}
    (hclient : ∀ c, client = .posted c → ValidContact c) : Inv (s.goTo i client) :=
  ⟨h.validated, posted_set h.posted hclient⟩

/-- Loading keeps the list valid, whatever the file. -/
theorem Inv.loadFromFile (h : Inv s) (file : PlanFile) : Inv (loadFromFile s file).1 := by
  unfold HdtnPlans.loadFromFile
  split
  · exact h
  next contacts _ =>
    split
    · exact h
    next hvalid => exact ⟨hvalid, h.posted⟩

/-- An append keeps the list valid exactly where there is room for it. -/
theorem Inv.validated_append_iff (h : Inv s) {i : ℕ} {contact : Contact}
    (hc : s.clients[i]? = some (.posted contact)) :
    validateContacts (s.contacts ++ [contact]) = none ↔ s.contacts.length < 1000 := by
  have hvalid := validateContacts_eq_none_iff.mp h.validated
  have hcontact := h.posted contact (List.mem_of_getElem? hc)
  rw [validateContacts_eq_none_iff, List.length_append, List.length_singleton]
  constructor
  · rintro ⟨hlen, -⟩
    omega
  · intro hroom
    refine ⟨by omega, fun c hm => ?_⟩
    rcases List.mem_append.mp hm with hold | hnew
    · exact hvalid.2 c hold
    · rw [List.mem_singleton.mp hnew]
      exact hcontact

/-- Removing an entry keeps the list valid. -/
theorem Inv.validated_eraseP (h : Inv s) (p : Contact → Bool) :
    validateContacts (s.contacts.eraseP p) = none := by
  have hvalid := validateContacts_eq_none_iff.mp h.validated
  refine validateContacts_eq_none_iff.mpr ⟨?_, fun c hm => hvalid.2 c (List.mem_of_mem_eraseP hm)⟩
  exact List.length_eraseP_le.trans hvalid.1

/-- A response to a client whose request is sound keeps the invariant. -/
theorem Inv.request (h : Inv s) {i : ℕ} {response : Response}
    (hsound : Sound s (.call (.request i response))) :
    Inv (step s (.call (.request i response))) ∧
      PostsValid s (.call (.request i response)) := by
  rcases hc : s.clients[i]? with _ | _ | contact | contact | key | key
  case some.posting =>
    simp only [Sound, hc] at hsound
    constructor
    · simp only [step, System.apply, System.perform, hc]
      split
      next happlied =>
        have hsent : sent response = true := by
          cases response with
          | unbuilt text => exact absurd happlied Bool.false_ne_true
          | failed text => rfl
          | status code => rfl
        refine ⟨h.validated, posted_set h.posted fun c heq => ?_⟩
        rw [← Client.posted.inj heq]
        exact hsound hsent
      · exact h.goTo i (by simp)
    · intro c hm
      simp only [posts, hc] at hm
      split at hm
      next hsent =>
        rw [List.mem_singleton.mp hm]
        exact hsound hsent
      · exact absurd hm List.not_mem_nil
  case some.deleting =>
    refine ⟨?_, fun c hm => ?_⟩
    · simp only [step, System.apply, System.perform, hc]
      split
      · exact ⟨h.validated, posted_set h.posted (by simp)⟩
      · exact h.goTo i (by simp)
    · simp only [posts, hc] at hm
      exact absurd hm List.not_mem_nil
  all_goals
    refine ⟨?_, fun c hm => ?_⟩
    · simp only [step, System.apply, System.perform, hc]
      exact h
    · simp only [posts, hc] at hm
      exact absurd hm List.not_mem_nil

/-- So does the list that is updated after a request. -/
theorem Inv.update (h : Inv s) {i : ℕ} (hsound : Sound s (.call (.update i))) :
    Inv (step s (.call (.update i))) ∧ PostsValid s (.call (.update i)) := by
  refine ⟨?_, fun c hm => absurd hm List.not_mem_nil⟩
  rcases hc : s.clients[i]? with _ | _ | contact | contact | key | key
  case some.posted =>
    simp only [Sound, hc] at hsound
    simp only [step, System.apply, System.perform, hc]
    exact ⟨(h.validated_append_iff hc).mpr hsound, posted_set h.posted (by simp)⟩
  case some.deleted =>
    simp only [step, System.apply, System.perform, hc]
    exact ⟨h.validated_eraseP _, posted_set h.posted (by simp)⟩
  all_goals
    simp only [step, System.apply, System.perform, hc]
    exact h

/-- A sound step posts valid contacts and keeps the invariant. -/
theorem Inv.next (h : Inv s) {e : Event} (hsound : Sound s e) :
    Inv (step s e) ∧ PostsValid s e := by
  have hvalid := (validateContacts_eq_none_iff.mp h.validated).2
  cases e with
  | loadFromFile file => exact ⟨h.loadFromFile file, fun c hm => absurd hm List.not_mem_nil⟩
  | applyPlan responses =>
    exact ⟨⟨h.validated, h.posted⟩, fun c hm => hvalid c (mem_of_mem_postEach hm)⟩
  | call e =>
    cases e with
    | addContact i contact =>
      refine ⟨?_, fun c hm => absurd hm List.not_mem_nil⟩
      simp only [step, System.apply, System.perform]
      split
      · exact h.goTo i (by simp)
      · exact h
    | removeContact i key =>
      refine ⟨?_, fun c hm => absurd hm List.not_mem_nil⟩
      simp only [step, System.apply, System.perform]
      split
      · split
        · exact h.goTo i (by simp)
        · exact h
      · exact h
    | request i response => exact h.request hsound
    | update i => exact h.update hsound

/-- A step that posts valid contacts and leaves a valid list is sound. -/
theorem Inv.sound (h : Inv s) {e : Event} (hposts : PostsValid s e)
    (hvalidated : Validated (step s e)) : Sound s e := by
  cases e with
  | loadFromFile file => trivial
  | applyPlan responses => trivial
  | call e =>
    cases e with
    | addContact i contact => trivial
    | removeContact i key => trivial
    | request i response =>
      rcases hc : s.clients[i]? with _ | _ | contact | contact | key | key
      case some.posting =>
        simp only [Sound, hc]
        intro hsent
        refine hposts contact ?_
        simp only [posts, hc, hsent, if_true, List.mem_singleton]
      all_goals simp only [Sound, hc]
    | update i =>
      rcases hc : s.clients[i]? with _ | _ | contact | contact | key | key
      case some.posted =>
        simp only [Sound, hc]
        simp only [Validated, step, System.apply, System.perform, hc] at hvalidated
        exact (h.validated_append_iff hc).mp hvalidated
      all_goals simp only [Sound, hc]

end steps

section runs

theorem inv_newContactPlanManager (server : Finset ContactKey) (clients : ℕ) :
    Inv (newContactPlanManager server clients) := by
  refine ⟨rfl, fun c hc => ?_⟩
  have hidle := (List.mem_replicate.mp hc).2
  exact Client.noConfusion hidle

/-- The list is a valid plan throughout a run, and every contact posted is
valid, exactly when all steps of AddContact are sound. -/
theorem valid_prefixes_iff_sound (server : Finset ContactKey) (clients : ℕ)
    (events : List Event) :
    ((∀ first, first <+: events →
        Validated (run step (newContactPlanManager server clients) first)) ∧
      Along step PostsValid (newContactPlanManager server clients) events) ↔
      Along step Sound (newContactPlanManager server clients) events := by
  have hinv := inv_newContactPlanManager server clients
  have himp : ∀ s, Inv s → Validated s := fun _ h => h.validated
  have hiff := fun hp : Along step PostsValid (newContactPlanManager server clients) events =>
    forall_prefix_iff_along_of_imp himp (fun _ _ h _ hsound => (h.next hsound).1)
      (fun _ _ h hposts hv => h.sound hposts hv) hp hinv
  constructor
  · rintro ⟨hvalidated, hposts⟩
    exact (hiff hposts).mp hvalidated
  · intro hsound
    have hposts : Along step PostsValid (newContactPlanManager server clients) events :=
      hsound.mono_of_invariant (fun _ _ h hs => (h.next hs).2) (fun _ _ h hs => (h.next hs).1) hinv
    exact ⟨(hiff hposts).mpr hsound, hposts⟩

/-- AddContact takes a contact that no file could have brought in. -/
theorem invalid_contact_added :
    ¬ ∀ (server : Finset ContactKey) (clients : ℕ) (events : List Event),
      (∀ first, first <+: events →
          Validated (run step (newContactPlanManager server clients) first)) ∧
        Along step PostsValid (newContactPlanManager server clients) events := by
  intro h
  let silent : Contact := ⟨1, 2, 60, 60, 0⟩
  let events : List Event :=
    [.call (.addContact 0 silent), .call (.request 0 (.status 201)), .call (.update 0)]
  have hvalidated : Validated (run step (newContactPlanManager ∅ 1) events) :=
    (h ∅ 1 events).1 events List.prefix_rfl
  exact absurd hvalidated (by decide +kernel)

end runs

end CislunarDtn.HdtnPlans
