import CislunarDtn.Bundles
import CislunarDtn.LabelledRuns
import Mathlib.Data.Finset.Dedup
import Mathlib.Data.Finset.Erase
import Mathlib.Data.Finset.Insert

/-!
# Contacts mirrored from the HDTN server

Any number of clients call AddContact and RemoveContact of one contact plan
manager. A call takes its locked sections and its HTTP request as steps of
their own, in any order with the steps of the others. The server keeps a set
of keys and answers with a 2xx status exactly when it has applied a request.
-/

namespace CislunarDtn.HdtnContacts

open Bundles LabelledRuns

/-- A scheduled communication window of the server's plan. -/
structure Contact where
  /-- Source node. -/
  source : Int64
  /-- Destination node. -/
  dest : Int64
  /-- Start, Unix epoch seconds. -/
  startTime : Int64
  /-- End, Unix epoch seconds. -/
  endTime : Int64
  /-- Rate in bits per second. -/
  rateBitsPerSec : Int64
  deriving DecidableEq

/-- What identifies a contact. -/
structure ContactKey where
  /-- Source node. -/
  source : Int64
  /-- Destination node. -/
  dest : Int64
  /-- Start, Unix epoch seconds. -/
  startTime : Int64
  deriving DecidableEq

/-- Key of a contact. -/
def Contact.key (c : Contact) : ContactKey := ⟨c.source, c.dest, c.startTime⟩

/-- How an HTTP request can end. -/
inductive Response where
  /-- The request cannot be built. -/
  | unbuilt (text : GoString)
  /-- No answer is received. -/
  | failed (text : GoString)
  /-- An answer with this status. -/
  | status (code : ℕ)
  deriving DecidableEq

/-- The server has applied the request. -/
def Response.applied : Response → Bool
  | .status code => decide (200 ≤ code ∧ code < 300)
  | _ => false

/-- The error of a request, none where it was applied. -/
def Response.error (unbuiltLabel : String) (response : Response) : Option GoError :=
  if response.applied then none
  else
    match response with
    | .unbuilt text => some (.errorf (ascii unbuiltLabel ++ ascii ": " ++ text))
    | .failed text => some (.errorf (ascii "API request failed: " ++ text))
    | .status code => some (.errorf (ascii s!"API returned status {code}"))

/-- Where a client is. -/
inductive Client where
  /-- No call in flight. -/
  | idle
  /-- In AddContact, before its request. -/
  | posting (contact : Contact)
  /-- In AddContact, with its request applied. -/
  | posted (contact : Contact)
  /-- In RemoveContact, with an entry found and before its request. -/
  | deleting (key : ContactKey)
  /-- In RemoveContact, with its request applied. -/
  | deleted (key : ContactKey)
  deriving DecidableEq

/-- The manager's list, the server's set and the clients. -/
structure System where
  /-- Contacts of the manager. -/
  contacts : List Contact
  /-- Keys of the server. -/
  server : Finset ContactKey
  /-- The clients. -/
  clients : List Client
  deriving DecidableEq

/-- One step of the client in this place. -/
inductive Event where
  /-- AddContact is called. -/
  | addContact (i : ℕ) (contact : Contact)
  /-- RemoveContact is called, with its first locked section. -/
  | removeContact (i : ℕ) (key : ContactKey)
  /-- The call's request is answered. -/
  | request (i : ℕ) (response : Response)
  /-- The call's last locked section. -/
  | update (i : ℕ)
  deriving DecidableEq

namespace System

/-- The client in this place goes on to another point. -/
def goTo (s : System) (i : ℕ) (client : Client) : System :=
  { s with clients := s.clients.set i client }

/-- The error of a removal that finds nothing. -/
def notFound (key : ContactKey) : GoError :=
  .errorf (ascii "contact not found (source=" ++ formatInt64 key.source ++ ascii ", dest=" ++
    formatInt64 key.dest ++ ascii ", startTime=" ++ formatInt64 key.startTime ++ ascii ")")

/-- One step, with what the call returns if the step is its last. -/
def perform (s : System) : Event → System × Option (Option GoError)
  | .addContact i contact =>
    match s.clients[i]? with
    | some .idle => (s.goTo i (.posting contact), none)
    | _ => (s, none)
  | .removeContact i key =>
    match s.clients[i]? with
    | some .idle =>
      if s.contacts.any fun c => c.key = key then (s.goTo i (.deleting key), none)
      else (s, some (some (notFound key)))
    | _ => (s, none)
  | .request i response =>
    match s.clients[i]? with
    | some (.posting contact) =>
      if response.applied then
        ({ s.goTo i (.posted contact) with server := insert contact.key s.server }, none)
      else (s.goTo i .idle, some (response.error "failed to marshal contact"))
    | some (.deleting key) =>
      if response.applied then
        ({ s.goTo i (.deleted key) with server := s.server.erase key }, none)
      else (s.goTo i .idle, some (response.error "failed to create delete request"))
    | _ => (s, none)
  | .update i =>
    match s.clients[i]? with
    | some (.posted contact) =>
      ({ s.goTo i .idle with contacts := s.contacts ++ [contact] }, some none)
    | some (.deleted key) =>
      ({ s.goTo i .idle with contacts := s.contacts.eraseP fun c => c.key = key }, some none)
    | _ => (s, none)

/-- The system after a step. -/
def apply (s : System) (e : Event) : System := (s.perform e).1

/-- What a call returns at a step. -/
def returns (s : System) (e : Event) : Option (Option GoError) := (s.perform e).2

/-- The system before any call, with the server's set mirrored. -/
def start (contacts : List Contact) (clients : ℕ) : System :=
  ⟨contacts, (contacts.map Contact.key).toFinset, List.replicate clients .idle⟩

/-- No call is in flight. -/
def Quiescent (s : System) : Prop := ∀ client ∈ s.clients, client = .idle

instance : DecidablePred Quiescent := fun s =>
  inferInstanceAs (Decidable (∀ client ∈ s.clients, client = .idle))

/-- The manager's list has the server's keys. -/
def Mirrors (s : System) : Prop := (s.contacts.map Contact.key).toFinset = s.server

instance : DecidablePred Mirrors := fun s =>
  inferInstanceAs (Decidable ((s.contacts.map Contact.key).toFinset = s.server))

/-- The list changes at a step only where that step's call returns without an error by it. -/
def ChangesOnSuccess (s : System) (e : Event) : Prop :=
  (s.apply e).contacts ≠ s.contacts → s.returns e = some none

/-- Whether a client is about to append a contact with this key. -/
def appends (key : ContactKey) : Client → Bool
  | .posted contact => decide (contact.key = key)
  | _ => false

/-- Whether a client is about to remove an entry with this key. -/
def removes (key : ContactKey) : Client → Bool
  | .deleted key' => decide (key' = key)
  | _ => false

/-- Entries with this key, in the list or about to be appended. -/
def entries (s : System) (key : ContactKey) : ℕ :=
  (s.contacts.countP fun c => c.key = key) + s.clients.countP (appends key)

/-- Clients about to remove an entry with this key. -/
def removals (s : System) (key : ContactKey) : ℕ := s.clients.countP (removes key)

/-- No key has more removals due than entries, and the server has exactly the
keys with an entry left. -/
def Balanced (s : System) : Prop :=
  ∀ key, s.removals key ≤ s.entries key ∧ (key ∈ s.server ↔ s.removals key < s.entries key)

/-- A step that keeps list and server in balance: a key is deleted only while
exactly one entry of it is left, and a removal finds an entry in the list
unless the server has the key again. -/
def Tidy (s : System) : Event → Prop
  | .request i response =>
    match s.clients[i]? with
    | some (.deleting key) => response.applied = true → s.entries key = s.removals key + 1
    | _ => True
  | .update i =>
    match s.clients[i]? with
    | some (.deleted key) => key ∈ s.contacts.map Contact.key ∨ key ∈ s.server
    | _ => True
  | _ => True

end System

section counting

/-- Replacing an element moves the count of a property by the two elements. -/
theorem countP_set_add {l : List Client} {i : ℕ} {a : Client} (h : l[i]? = some a) (b : Client)
    (p : Client → Bool) :
    (l.set i b).countP p + (if p a then 1 else 0) = l.countP p + if p b then 1 else 0 := by
  obtain ⟨hi, ha⟩ := List.getElem?_eq_some_iff.mp h
  have hset := List.countP_set (p := p) (a := b) hi
  have hmem : l[i] ∈ l := List.getElem_mem hi
  rw [ha] at hset hmem
  have hpos : p a = true → 0 < l.countP p := fun hp => List.countP_pos_iff.mpr ⟨a, hmem, hp⟩
  rw [hset]
  by_cases hp : p a = true
  · have hone := hpos hp
    simp only [hp, if_true]
    omega
  · simp [hp]

/-- Removing the first entry with a key takes one off the count of that key only. -/
theorem countP_eraseP_key {l : List Contact} {key : ContactKey}
    (hm : key ∈ l.map Contact.key) (k : ContactKey) :
    (l.eraseP fun c => c.key = key).countP (fun c => c.key = k) + (if key = k then 1 else 0) =
      l.countP fun c => c.key = k := by
  obtain ⟨c, hc, hkey⟩ := List.mem_map.mp hm
  obtain ⟨a, front, back, -, ha, hl, herase⟩ :=
    List.exists_of_eraseP (p := fun c => decide (c.key = key)) hc (by simpa using hkey)
  have hkey' : a.key = key := by simpa using ha
  rw [herase, hl, List.countP_append, List.countP_append, List.countP_cons, hkey']
  simp only [decide_eq_true_eq]
  omega

theorem eraseP_of_notMem {l : List Contact} {key : ContactKey}
    (hm : key ∉ l.map Contact.key) : (l.eraseP fun c => c.key = key) = l := by
  refine List.eraseP_of_forall_not fun c hc => ?_
  have hne : c.key ≠ key := fun hkey => hm (hkey ▸ List.mem_map_of_mem hc)
  simpa using hne

end counting

namespace System

variable {s : System} {i : ℕ}

section counts

variable {a : Client}

/-- A client going on moves the entries by what it is about to append. -/
theorem entries_goTo (hc : s.clients[i]? = some a) (b : Client) (key : ContactKey) :
    (s.goTo i b).entries key + (if appends key a then 1 else 0) =
      s.entries key + if appends key b then 1 else 0 := by
  have h := countP_set_add hc b (appends key)
  simp only [entries, goTo]
  omega

/-- A client going on moves the removals by the one it is about to make. -/
theorem removals_goTo (hc : s.clients[i]? = some a) (b : Client) (key : ContactKey) :
    (s.goTo i b).removals key + (if removes key a then 1 else 0) =
      s.removals key + if removes key b then 1 else 0 :=
  countP_set_add hc b (removes key)

/-- Where entries, removals and server differ at one key at most, the balance
is decided there. -/
theorem Balanced.iff_of_eq_off {s' : System} (h : Balanced s) (key : ContactKey)
    (hsame : ∀ k, k ≠ key → s'.entries k = s.entries k ∧ s'.removals k = s.removals k ∧
      (k ∈ s'.server ↔ k ∈ s.server)) :
    Balanced s' ↔ s'.removals key ≤ s'.entries key ∧
      (key ∈ s'.server ↔ s'.removals key < s'.entries key) := by
  constructor
  · intro h'
    exact h' key
  · intro hkey k
    by_cases hk : k = key
    · subst hk
      exact hkey
    · obtain ⟨hentries, hremovals, hserver⟩ := hsame k hk
      rw [hentries, hremovals, hserver]
      exact h k

end counts

section balance

/-- A client going on with the same due before and after keeps the balance. -/
theorem Balanced.moved (h : Balanced s) {a : Client} (hc : s.clients[i]? = some a) (b : Client)
    (happends : ∀ key, appends key a = appends key b)
    (hremoves : ∀ key, removes key a = removes key b) : Balanced (s.goTo i b) := by
  intro key
  have hentries := entries_goTo hc b key
  have hremovals := removals_goTo hc b key
  rw [happends key] at hentries
  rw [hremoves key] at hremovals
  rw [Nat.add_right_cancel hentries, Nat.add_right_cancel hremovals]
  exact h key

/-- An applied addition keeps the balance. -/
theorem Balanced.posted (h : Balanced s) {contact : Contact}
    (hc : s.clients[i]? = some (.posting contact)) :
    Balanced { s.goTo i (.posted contact) with server := insert contact.key s.server } := by
  intro key
  obtain ⟨hle, hserver⟩ := h key
  have hentries := entries_goTo hc (.posted contact) key
  have hremovals := removals_goTo hc (.posted contact) key
  simp only [appends, removes, decide_eq_true_eq, Bool.false_eq_true, if_false, Nat.add_zero]
    at hentries hremovals
  change (s.goTo i (.posted contact)).removals key ≤ (s.goTo i (.posted contact)).entries key ∧
    (key ∈ insert contact.key s.server ↔
      (s.goTo i (.posted contact)).removals key < (s.goTo i (.posted contact)).entries key)
  rw [hentries, hremovals, Finset.mem_insert, hserver]
  by_cases hk : contact.key = key
  · rw [if_pos hk]
    refine ⟨by omega, ?_⟩
    constructor
    · intro _
      omega
    · intro _
      exact Or.inl hk.symm
  · have hk' : key ≠ contact.key := Ne.symm hk
    simp only [hk, hk', if_false, false_or, Nat.add_zero, and_true, iff_self]
    exact hle

/-- An applied removal keeps the balance exactly when one entry was left. -/
theorem Balanced.deleted_iff (h : Balanced s) {key : ContactKey}
    (hc : s.clients[i]? = some (.deleting key)) :
    Balanced { s.goTo i (.deleted key) with server := s.server.erase key } ↔
      s.entries key = s.removals key + 1 := by
  have hentries := entries_goTo hc (.deleted key)
  have hremovals := removals_goTo hc (.deleted key)
  simp only [appends, removes, decide_eq_true_eq, Bool.false_eq_true, if_false, Nat.add_zero]
    at hentries hremovals
  rw [h.iff_of_eq_off key]
  · change (s.goTo i (.deleted key)).removals key ≤ (s.goTo i (.deleted key)).entries key ∧
      (key ∈ s.server.erase key ↔
        (s.goTo i (.deleted key)).removals key < (s.goTo i (.deleted key)).entries key) ↔ _
    rw [hentries, hremovals, if_pos rfl]
    simp only [Finset.mem_erase, ne_eq, not_true, false_and, false_iff]
    omega
  · intro k hk
    have hk' : key ≠ k := Ne.symm hk
    refine ⟨hentries k, ?_, ?_⟩
    · have hr := hremovals k
      rw [if_neg hk'] at hr
      exact hr
    · exact ⟨fun hm => (Finset.mem_erase.mp hm).2, fun hm => Finset.mem_erase.mpr ⟨hk, hm⟩⟩

/-- The local update of an addition keeps the balance. -/
theorem balanced_appended_iff {contact : Contact} (hc : s.clients[i]? = some (.posted contact)) :
    Balanced { s.goTo i .idle with contacts := s.contacts ++ [contact] } ↔ Balanced s := by
  refine forall_congr' fun key => ?_
  have hclients := countP_set_add hc .idle (appends key)
  have hremovals := removals_goTo hc .idle key
  simp only [appends, removes, decide_eq_true_eq, Bool.false_eq_true, if_false, Nat.add_zero]
    at hclients hremovals
  have hentries : System.entries { s.goTo i .idle with contacts := s.contacts ++ [contact] } key =
      s.entries key := by
    simp only [entries, goTo, List.countP_append, List.countP_singleton, decide_eq_true_eq]
    omega
  rw [hentries]
  change (s.goTo i .idle).removals key ≤ _ ∧ (_ ↔ (s.goTo i .idle).removals key < _) ↔ _
  rw [hremovals]
  rfl

/-- The local update of a removal takes one entry of its key, if it finds one. -/
theorem entries_erased {key : ContactKey} (hc : s.clients[i]? = some (.deleted key))
    (k : ContactKey) :
    System.entries { s.goTo i .idle with
        contacts := s.contacts.eraseP fun c => c.key = key } k +
      (if key ∈ s.contacts.map Contact.key ∧ key = k then 1 else 0) = s.entries k := by
  have hclients := countP_set_add hc .idle (appends k)
  simp only [appends, Bool.false_eq_true, if_false, Nat.add_zero] at hclients
  by_cases hm : key ∈ s.contacts.map Contact.key
  · have herase := countP_eraseP_key hm k
    simp only [entries, goTo, hm, true_and]
    omega
  · rw [eraseP_of_notMem hm]
    simp only [entries, goTo, hm, false_and, if_false]
    omega

/-- The local update of a removal keeps the balance exactly when it finds an
entry or the server has the key again. -/
theorem Balanced.erased_iff (h : Balanced s) {key : ContactKey}
    (hc : s.clients[i]? = some (.deleted key)) :
    Balanced { s.goTo i .idle with contacts := s.contacts.eraseP fun c => c.key = key } ↔
      key ∈ s.contacts.map Contact.key ∨ key ∈ s.server := by
  have hentries := entries_erased hc
  have hremovals : ∀ k, System.removals { s.goTo i .idle with
      contacts := s.contacts.eraseP fun c => c.key = key } k + (if key = k then 1 else 0) =
        s.removals k := by
    intro k
    have hr := removals_goTo hc .idle k
    simp only [removes, decide_eq_true_eq, Bool.false_eq_true, if_false, Nat.add_zero] at hr
    exact hr
  by_cases hm : key ∈ s.contacts.map Contact.key
  · -- The entry and the removal due go together.
    refine iff_of_true (fun k => ?_) (Or.inl hm)
    obtain ⟨hle, hserver⟩ := h k
    have hentries' := hentries k
    have hremovals' := hremovals k
    change _ ∧ (k ∈ s.server ↔ _)
    rw [hserver]
    by_cases hk : key = k
    · rw [if_pos ⟨hm, hk⟩] at hentries'
      rw [if_pos hk] at hremovals'
      omega
    · rw [if_neg fun hboth => hk hboth.2] at hentries'
      rw [if_neg hk] at hremovals'
      omega
  · -- Only the removal goes, so that an entry of the key is left afterwards.
    have hsame : ∀ k, System.entries { s.goTo i .idle with
        contacts := s.contacts.eraseP fun c => c.key = key } k = s.entries k := by
      intro k
      have hentries' := hentries k
      rw [if_neg fun hboth => hm hboth.1] at hentries'
      exact hentries'
    rw [h.iff_of_eq_off key]
    · obtain ⟨hle, hserver⟩ := h key
      have hremovals' := hremovals key
      rw [if_pos rfl] at hremovals'
      change _ ∧ (key ∈ s.server ↔ _) ↔ _
      rw [hsame key]
      constructor
      · intro hbalanced
        exact Or.inr (hbalanced.2.mpr (by omega))
      · intro hfound
        have hs : key ∈ s.server := hfound.resolve_left hm
        exact ⟨by omega, iff_of_true hs (by omega)⟩
    · intro k hk
      have hr := hremovals k
      rw [if_neg (Ne.symm hk)] at hr
      exact ⟨hsame k, hr, Iff.rfl⟩

/-- A step keeps the balance exactly when it is tidy. -/
theorem Balanced.apply_iff (h : Balanced s) (e : Event) : Balanced (s.apply e) ↔ s.Tidy e := by
  cases e with
  | addContact i contact =>
    simp only [apply, perform, Tidy, iff_true]
    split
    next hc => exact h.moved hc _ (fun _ => rfl) (fun _ => rfl)
    next => exact h
  | removeContact i key =>
    simp only [apply, perform, Tidy, iff_true]
    split
    next hc =>
      split
      · exact h.moved hc _ (fun _ => rfl) (fun _ => rfl)
      · exact h
    next => exact h
  | request i response =>
    rcases hc : s.clients[i]? with _ | _ | contact | contact | key | key
    case some.posting =>
      simp only [apply, perform, Tidy, hc, iff_true]
      split
      · exact h.posted hc
      · exact h.moved hc _ (fun _ => rfl) (fun _ => rfl)
    case some.deleting =>
      simp only [apply, perform, Tidy, hc]
      by_cases happlied : response.applied = true
      · simp only [happlied, if_true, true_implies]
        exact h.deleted_iff hc
      · simp only [happlied, Bool.false_eq_true, if_false, false_implies, iff_true]
        exact h.moved hc _ (fun _ => rfl) (fun _ => rfl)
    all_goals
      simp only [apply, perform, Tidy, hc, iff_true]
      exact h
  | update i =>
    rcases hc : s.clients[i]? with _ | _ | contact | contact | key | key
    case some.posted =>
      simp only [apply, perform, Tidy, hc, iff_true]
      exact (balanced_appended_iff hc).mpr h
    case some.deleted =>
      simp only [apply, perform, Tidy, hc]
      exact h.erased_iff hc
    all_goals
      simp only [apply, perform, Tidy, hc, iff_true]
      exact h

end balance

section runs

/-- A list that changes at a step does so by that step's success. -/
theorem changesOnSuccess (s : System) (e : Event) : s.ChangesOnSuccess e := by
  intro hne
  cases e with
  | addContact i contact =>
    refine absurd ?_ hne
    simp only [apply, perform]
    split <;> rfl
  | removeContact i key =>
    refine absurd ?_ hne
    simp only [apply, perform]
    split
    · split <;> rfl
    · rfl
  | request i response =>
    refine absurd ?_ hne
    simp only [apply, perform]
    split
    · split <;> rfl
    · split <;> rfl
    · rfl
  | update i =>
    rcases hc : s.clients[i]? with _ | _ | contact | contact | key | key
    case some.posted => simp only [returns, perform, hc]
    case some.deleted => simp only [returns, perform, hc]
    all_goals
      refine absurd ?_ hne
      simp only [apply, perform, hc]

/-- Without a call in flight nothing is due. -/
theorem Quiescent.entries_removals (hq : Quiescent s) (key : ContactKey) :
    s.entries key = (s.contacts.countP fun c => c.key = key) ∧ s.removals key = 0 := by
  have happends : s.clients.countP (appends key) = 0 := by
    refine List.countP_eq_zero.mpr fun client hclient => ?_
    rw [hq client hclient]
    exact Bool.false_ne_true
  have hremoves : s.clients.countP (removes key) = 0 := by
    refine List.countP_eq_zero.mpr fun client hclient => ?_
    rw [hq client hclient]
    exact Bool.false_ne_true
  exact ⟨by rw [entries, happends, Nat.add_zero], hremoves⟩

theorem countP_key_pos_iff {l : List Contact} {key : ContactKey} :
    0 < (l.countP fun c => c.key = key) ↔ key ∈ l.map Contact.key := by
  simp only [List.countP_pos_iff, List.mem_map, decide_eq_true_eq]

/-- With no call in flight, balance is agreement. -/
theorem Quiescent.balanced_iff (hq : Quiescent s) : Balanced s ↔ Mirrors s := by
  rw [Mirrors, Finset.ext_iff]
  refine forall_congr' fun key => ?_
  obtain ⟨hentries, hremovals⟩ := hq.entries_removals key
  rw [hentries, hremovals, List.mem_toFinset, countP_key_pos_iff]
  constructor
  · rintro ⟨-, hserver⟩
    exact hserver.symm
  · intro hkeys
    exact ⟨Nat.zero_le _, hkeys.symm⟩

/-- No call is in flight at the start. -/
theorem quiescent_start (contacts : List Contact) (clients : ℕ) :
    Quiescent (start contacts clients) :=
  fun _ hclient => (List.mem_replicate.mp hclient).2

/-- A system that starts with the server's keys is in balance. -/
theorem balanced_start (contacts : List Contact) (clients : ℕ) :
    Balanced (start contacts clients) :=
  (quiescent_start contacts clients).balanced_iff.mpr rfl

/-- The balance lasts throughout a run exactly when all its steps are tidy. -/
theorem balanced_prefixes_iff_tidy (contacts : List Contact) (clients : ℕ) (events : List Event) :
    (∀ first, first <+: events → Balanced (run apply (start contacts clients) first)) ↔
      Along apply Tidy (start contacts clients) events :=
  forall_prefix_iff_along (fun _ e h _ => h.apply_iff e) (along_true events)
    (balanced_start contacts clients)

/-- Along tidy steps the list changes by successful calls only, and its keys are
the server's whenever no call is in flight. -/
theorem mirrored_along (contacts : List Contact) (clients : ℕ) (events : List Event)
    (h : Along apply Tidy (start contacts clients) events) :
    Along apply ChangesOnSuccess (start contacts clients) events ∧
      ∀ first, first <+: events → Quiescent (run apply (start contacts clients) first) →
        Mirrors (run apply (start contacts clients) first) := by
  refine ⟨along_of_forall_mem (fun e _ s => changesOnSuccess s e) _, fun first hf hq => ?_⟩
  have hbalanced := (balanced_prefixes_iff_tidy contacts clients events).mpr h first hf
  exact hq.balanced_iff.mp hbalanced

/-- An addition and a removal that overlap end in agreement. -/
theorem mirrored_overlapping :
    let lease : Contact := ⟨1, 2, 0, 60, 9600⟩
    let pass : Contact := ⟨1, 3, 60, 120, 9600⟩
    let events : List Event := [.removeContact 0 lease.key, .addContact 1 pass,
      .request 1 (.status 201), .request 0 (.status 200), .update 0, .update 1]
    Quiescent (run apply (start [lease] 2) events) ∧
      (run apply (start [lease] 2) events).contacts = [pass] ∧
      Mirrors (run apply (start [lease] 2) events) := by
  intro lease pass events
  have htidy : Along apply Tidy (start [lease] 2) events :=
    ⟨trivial, trivial, trivial, fun _ => by decide +kernel, Or.inl (by decide +kernel),
      trivial, trivial⟩
  have hq : Quiescent (run apply (start [lease] 2) events) := by decide +kernel
  refine ⟨hq, by decide +kernel, ?_⟩
  exact (mirrored_along [lease] 2 events htidy).2 events List.prefix_rfl hq

/-- A contact added twice stays in the list when it is removed. -/
theorem duplicate_outlives_removal :
    ¬ ∀ (contacts : List Contact) (clients : ℕ) (events : List Event),
      Along apply ChangesOnSuccess (start contacts clients) events ∧
        ∀ first, first <+: events → Quiescent (run apply (start contacts clients) first) →
          Mirrors (run apply (start contacts clients) first) := by
  intro h
  let pass : Contact := ⟨1, 3, 60, 120, 9600⟩
  let events : List Event := [.addContact 0 pass, .request 0 (.status 200), .update 0,
    .addContact 0 pass, .request 0 (.status 200), .update 0,
    .removeContact 0 pass.key, .request 0 (.status 200), .update 0]
  have hq : Quiescent (run apply (start [] 1) events) := by decide +kernel
  have hm : Mirrors (run apply (start [] 1) events) :=
    (h [] 1 events).2 events List.prefix_rfl hq
  exact absurd hm (by decide +kernel)

end runs

end System

end CislunarDtn.HdtnContacts
