import CislunarDtn.NodeDelivery
import CislunarDtn.NodePings
import Mathlib.Algebra.BigOperators.Group.Finset.Basic
import Mathlib.Algebra.Order.Group.Multiset
import Mathlib.Tactic.Abel

/-!
# Nodes on a shared medium

Any number of nodes run their cycles in any order, and what they send is in
flight until a node receives it or the medium loses it. Before each cycle the
adapter of its node may be brought into any state, so it fails, buffers and
reorders as it likes; all that is asked of the medium is that a node receives
only what is in flight. The copies of all bundles are accounted for, and none
is delivered or answered more often than it was put into the network.
-/

namespace CislunarDtn.NodeNetworks

open KeyedMaps Bundles BundleStorage BundleAgents ContactPlans ConvergenceLayers NodeControllers
  NodeCycles NodeAcceptances NodeDelivery NodePings StorageEvictions StorageAccounting LabelledRuns

/-- A bundle received in a cycle, if any, and how its processing went. -/
abbrev Received := Option (Bundle × Reception)

namespace Received

/-- The copy taken from the medium. -/
def arrivals : Received → Multiset Bundle
  | none => 0
  | some (bundle, _) => {bundle}

/-- What was put into the store. -/
def keptCopies : Received → Multiset Bundle
  | none => 0
  | some (bundle, reception) => (kept bundle reception).toList

/-- A request that was answered, with its answer. -/
def answers : Received → Multiset (Bundle × Bundle)
  | some (bundle, ⟨_, .ok (.answered response)⟩) => {(bundle, response)}
  | _ => 0

/-- What was delivered. -/
def deliveries : Received → Multiset Bundle
  | some (bundle, ⟨_, .ok .delivered⟩) => {bundle}
  | _ => 0

/-- What was refused, or noted and nothing done about it. -/
def refusals : Received → Multiset Bundle
  | some (bundle, ⟨_, .ok .noted⟩) => {bundle}
  | some (bundle, ⟨_, .error _⟩) => {bundle}
  | _ => 0

/-- What was evicted to make room. -/
def evictions : Received → Multiset Bundle
  | none => 0
  | some (_, reception) => reception.evicted

/-- A copy that arrived is kept, answered, delivered or refused; an answer is kept. -/
theorem arrivals_add_answers (received : Received) :
    received.arrivals + received.answers.map Prod.snd =
      received.keptCopies + received.answers.map Prod.fst + received.deliveries +
        received.refusals := by
  cases received with
  | none => rfl
  | some pair =>
    obtain ⟨bundle, evicted, outcome⟩ := pair
    cases outcome with
    | error err => rfl
    | ok acceptance =>
      cases acceptance with
      | stored => rfl
      | answered response => exact add_comm ({bundle} : Multiset Bundle) {response}
      | delivered => rfl
      | noted => rfl

end Received

section networks

variable (ι σ : Type*) [Sha256]

/-- The nodes and the medium, with what has become of the copies so far. -/
structure Network where
  /-- The nodes. -/
  nodes : ι → NodeController σ
  /-- Copies on the medium. -/
  flight : Multiset Bundle
  /-- Copies put into the network from outside. -/
  originated : Multiset Bundle
  /-- Requests answered, with their answers. -/
  answered : Multiset (Bundle × Bundle)
  /-- Copies delivered, with the node that delivered them. -/
  delivered : Multiset (ι × Bundle)
  /-- Copies refused, noted, evicted, expired or lost. -/
  discarded : Multiset Bundle

/-- What can happen. -/
inductive NetworkEvent where
  /-- A bundle is put into the store of a node. -/
  | originate (node : ι) (bundle : Bundle)
  /-- A bundle is put on the medium from outside. -/
  | inject (bundle : Bundle)
  /-- The medium loses a copy. -/
  | lose (bundle : Bundle)
  /-- A node runs a cycle with its adapter in this state. -/
  | cycle (node : ι) (cla : σ) (input : CycleInput)

variable {ι σ}

/-- The stored copies of a node. -/
def copiesAt (nc : NodeController σ) : Multiset Bundle := nc.store.bundles.values

/-- All stored copies. -/
def storedCopies [Fintype ι] (nodes : ι → NodeController σ) : Multiset Bundle :=
  ∑ i, copiesAt (nodes i)

/-- A network of nodes before anything has happened; what they hold came from outside. -/
def Network.start [Fintype ι] (nodes : ι → NodeController σ) : Network ι σ :=
  ⟨nodes, 0, storedCopies nodes, 0, 0, 0⟩

section steps

variable (A : ConvergenceLayerAdapter σ)

/-- What a node sends in a cycle. -/
def sentCopies (nc : NodeController σ) (input : CycleInput) : Multiset Bundle :=
  sentIn (afterContacts A nc input).2

/-- What a node receives in a cycle. -/
def receivedBy (nc : NodeController σ) (input : CycleInput) : Received :=
  (afterReception A nc input).2

/-- What expires at a node in a cycle. -/
def expiredCopies (nc : NodeController σ) (input : CycleInput) : Multiset Bundle :=
  expiredIn (afterReception A nc input).1.store input.expireOrder input.currentTime

variable [DecidableEq ι]

/-- The network after an event. -/
def Network.step (w : Network ι σ) : NetworkEvent ι σ → Network ι σ
  | .originate i bundle =>
    match (w.nodes i).store.store bundle with
    | (_, some _) => w
    | (store, none) =>
      { w with
        nodes := Function.update w.nodes i { w.nodes i with store }
        originated := w.originated + {bundle} }
  | .inject bundle =>
    { w with flight := w.flight + {bundle}, originated := w.originated + {bundle} }
  | .lose bundle =>
    { w with flight := w.flight - {bundle}, discarded := w.discarded + {bundle} }
  | .cycle i cla input =>
    let nc := { w.nodes i with cla }
    let received := receivedBy A nc input
    { nodes := Function.update w.nodes i (NodeControllers.cycle A nc input)
      flight := w.flight + sentCopies A nc input - received.arrivals
      originated := w.originated
      answered := w.answered + received.answers
      delivered := w.delivered + received.deliveries.map (Prod.mk i)
      discarded := w.discarded + received.refusals + received.evictions +
        expiredCopies A nc input }

/-- The medium delivers and loses only what is in flight. -/
def Carried (w : Network ι σ) : NetworkEvent ι σ → Prop
  | .lose bundle => {bundle} ≤ w.flight
  | .cycle i cla input =>
    (receivedBy A { w.nodes i with cla } input).arrivals ≤
      w.flight + sentCopies A { w.nodes i with cla } input
  | _ => True

instance decidableCarried (w : Network ι σ) : DecidablePred (Carried A w)
  | .lose bundle => inferInstanceAs (Decidable ({bundle} ≤ w.flight))
  | .cycle i cla input => inferInstanceAs (Decidable
      ((receivedBy A { w.nodes i with cla } input).arrivals ≤
        w.flight + sentCopies A { w.nodes i with cla } input))
  | .originate _ _ => isTrue trivial
  | .inject _ => isTrue trivial

end steps

section balance

variable (A : ConvergenceLayerAdapter σ)

/-- Dropping distinct stored bundles takes one copy of each. -/
theorem values_dropAll {bs : BundleStore} {l : List Bundle} (hl : ∀ a ∈ l, a ∈ bs.bundles)
    (hn : l.Nodup) : (bs.bundles.values : Multiset Bundle) =
      l + ((dropAll bs l).bundles.values : Multiset Bundle) := by
  rw [dropAll_bundles, Multiset.coe_add]
  exact Multiset.coe_eq_coe.mpr (KeyedMap.perm_append_eraseAll hl hn)

/-- A bundle under a fresh identifier adds one copy. -/
theorem values_put {bs : BundleStore} {b : Bundle} (h : bs.bundles.lookup b.hash = none) :
    ((bs.put b).bundles.values : Multiset Bundle) =
      bs.bundles.values + ({b} : Multiset Bundle) := by
  have hvalues : (bs.put b).bundles.values = b :: bs.bundles.values :=
    KeyedMap.values_insert_of_none h
  rw [hvalues, ← Multiset.cons_coe, ← Multiset.singleton_add, add_comm]

/-- What a cycle does to the copies of its node. -/
theorem copiesAt_cycle (nc : NodeController σ) (input : CycleInput) :
    copiesAt (cycle A nc input) + expiredCopies A nc input + (receivedBy A nc input).evictions +
        sentCopies A nc input =
      copiesAt nc + (receivedBy A nc input).keptCopies := by
  have hcontacts := afterContacts_spec A nc input
  have hsent : copiesAt nc = sentCopies A nc input +
      ((afterContacts A nc input).1.store.bundles.values : Multiset Bundle) := by
    rw [hcontacts.store]
    exact values_dropAll (fun b hb => hcontacts.sent_mem hb) hcontacts.nodup
  have hreceived : ((afterReception A nc input).1.store.bundles.values : Multiset Bundle) +
      (receivedBy A nc input).evictions =
        (afterContacts A nc input).1.store.bundles.values +
          (receivedBy A nc input).keptCopies := by
    rcases afterReception_spec A nc input with ⟨hnone, hs, -⟩ | ⟨bundle, reception, hsome, hh, -⟩
    · rw [receivedBy, hnone, hs]
      rfl
    · have hevicted := values_dropAll (fun a ha => hh.evicted_mem ha) hh.evicted_nodup
      rw [receivedBy, hsome, hevicted, Received.evictions, Received.keptCopies]
      rcases hh.store with ⟨hk, hs⟩ | ⟨b, hk, hnew, hs⟩
      · rw [hs, hk, Option.toList_none, Multiset.coe_nil, add_zero, add_comm]
      · rw [hs, hk, values_put hnew, Option.toList_some, Multiset.coe_singleton]
        exact add_right_comm _ _ _ |>.trans (by rw [add_comm (Multiset.ofList _)])
  have hexpired : ((afterReception A nc input).1.store.bundles.values : Multiset Bundle) =
      expiredCopies A nc input + copiesAt (cycle A nc input) := by
    rw [copiesAt, cycle_store]
    exact values_dropAll (fun b hb => (mem_expiredIn.mp hb).1) (nodup_expiredIn _ _ _)
  rw [hsent, add_assoc (sentCopies A nc input), ← hreceived, hexpired]
  abel

variable [DecidableEq ι] [Fintype ι]

/-- Replacing a node replaces its copies. -/
theorem storedCopies_update (nodes : ι → NodeController σ) (i : ι) (nc : NodeController σ) :
    storedCopies (Function.update nodes i nc) + copiesAt (nodes i) =
      storedCopies nodes + copiesAt nc := by
  have hrest : ∀ j ∈ Finset.univ.erase i,
      copiesAt (Function.update nodes i nc j) = copiesAt (nodes j) := by
    intro j hj
    rw [Function.update_of_ne (Finset.ne_of_mem_erase hj)]
  unfold storedCopies
  rw [← Finset.add_sum_erase _ _ (Finset.mem_univ i), ← Finset.add_sum_erase _ _
    (Finset.mem_univ i), Finset.sum_congr rfl hrest, Function.update_self]
  abel

/-- All copies are accounted for. -/
def Balanced (w : Network ι σ) : Prop :=
  w.originated + w.answered.map Prod.snd =
    w.answered.map Prod.fst + w.delivered.map Prod.snd + w.discarded + w.flight +
      storedCopies w.nodes

theorem balanced_step {w : Network ι σ} (h : Balanced w) (e : NetworkEvent ι σ)
    (hcarried : Carried A w e) : Balanced (w.step A e) := by
  cases e with
  | originate i bundle =>
    rcases store_cases (w.nodes i).store bundle with ⟨err, hs⟩ | ⟨hnew, hs⟩
    · simp only [Network.step, hs]
      exact h
    · have hstored := storedCopies_update w.nodes i
        { w.nodes i with store := (w.nodes i).store.put bundle }
      have hput : copiesAt { w.nodes i with store := (w.nodes i).store.put bundle } =
          copiesAt (w.nodes i) + {bundle} := values_put hnew
      have hsum : storedCopies (Function.update w.nodes i
          { w.nodes i with store := (w.nodes i).store.put bundle }) =
            storedCopies w.nodes + {bundle} := by
        rw [hput, ← add_assoc, add_right_comm] at hstored
        exact add_right_cancel hstored
      simp only [Balanced, Network.step, hs] at h ⊢
      rw [hsum, add_right_comm, h, add_assoc]
  | inject bundle =>
    simp only [Balanced, Network.step] at h ⊢
    rw [add_right_comm, h]
    abel
  | lose bundle =>
    have hflight : w.flight - {bundle} + {bundle} = w.flight := tsub_add_cancel_of_le hcarried
    simp only [Balanced, Network.step] at h ⊢
    generalize w.flight - {bundle} = rest at hflight ⊢
    rw [h, ← hflight]
    abel
  | cycle i cla input =>
    have hcycle := copiesAt_cycle A { w.nodes i with cla } input
    have hfates := (receivedBy A { w.nodes i with cla } input).arrivals_add_answers
    have hstored := storedCopies_update w.nodes i (cycle A { w.nodes i with cla } input)
    have hsame : copiesAt { w.nodes i with cla } = copiesAt (w.nodes i) := rfl
    have hflight := tsub_add_cancel_of_le hcarried
    rw [hsame] at hcycle
    simp only [Balanced, Network.step] at h ⊢
    simp only [Multiset.map_add, Multiset.map_map, Function.comp_def, Multiset.map_id']
    generalize w.flight + sentCopies A { w.nodes i with cla } input -
      (receivedBy A { w.nodes i with cla } input).arrivals = rest at hflight ⊢
    refine Multiset.ext.mpr fun b => ?_
    have hcount := congrArg (Multiset.count b) h
    have hcount' := congrArg (Multiset.count b) hcycle
    have hfates' := congrArg (Multiset.count b) hfates
    have hstored' := congrArg (Multiset.count b) hstored
    have hflight' := congrArg (Multiset.count b) hflight
    simp only [Multiset.count_add] at hcount hcount' hfates' hstored' hflight' ⊢
    omega

omit [DecidableEq ι] in
theorem balanced_start (nodes : ι → NodeController σ) : Balanced (.start nodes) := by
  simp [Balanced, Network.start]

end balance

section provenance

variable [DecidableEq ι] {A : ConvergenceLayerAdapter σ}

/-- An answer is a ping response to the sender of the ping request it answers. -/
def Answers (request response : Bundle) : Prop :=
  request.bundleType = BundleType.pingRequest ∧
    response.bundleType = BundleType.pingResponse ∧ response.destination = request.id.sourceEID

/-- What has been answered and delivered was to be answered and delivered. -/
structure Proper (nodes : ι → NodeController σ) (w : Network ι σ) : Prop where
  /-- The local endpoints have stayed as they were. -/
  endpoints : ∀ i, (w.nodes i).bpa.localEndpoints = (nodes i).bpa.localEndpoints
  /-- Only ping requests have been answered. -/
  answered : ∀ pair ∈ w.answered, Answers pair.1 pair.2
  /-- Only data bundles have been delivered, and at nodes they were for. -/
  delivered : ∀ d ∈ w.delivered, d.2.bundleType = BundleType.data ∧
    (nodes d.1).bpa.isLocalEndpoint d.2.destination = true

omit [Sha256] in
theorem isLocalEndpoint_congr {bpa bpa' : BundleProtocolAgent}
    (h : bpa.localEndpoints = bpa'.localEndpoints) (endpoint : EndpointID) :
    bpa.isLocalEndpoint endpoint = bpa'.isLocalEndpoint endpoint := by
  rw [BundleProtocolAgent.isLocalEndpoint, BundleProtocolAgent.isLocalEndpoint, h]

theorem answers_of_mem {nc : NodeController σ} {input : CycleInput} {pair : Bundle × Bundle}
    (h : pair ∈ (receivedBy A nc input).answers) : Answers pair.1 pair.2 := by
  rcases afterReception_disposed A nc input with
    ⟨-, hnone⟩ | ⟨bundle, reception, -, hsome, hdisposed⟩
  · rw [receivedBy, hnone] at h
    simp [Received.answers] at h
  · rw [receivedBy, hsome] at h
    cases hdisposed with
    | answered response hping _ htype hdest _ =>
      obtain rfl := Multiset.mem_singleton.mp h
      exact ⟨hping, htype, hdest⟩
    | _ => simp [Received.answers] at h

theorem local_of_mem_deliveries {nc : NodeController σ} {input : CycleInput} {b : Bundle}
    (h : b ∈ (receivedBy A nc input).deliveries) :
    b.bundleType = BundleType.data ∧ nc.bpa.isLocalEndpoint b.destination = true := by
  rcases afterReception_disposed A nc input with
    ⟨-, hnone⟩ | ⟨bundle, reception, -, hsome, hdisposed⟩
  · rw [receivedBy, hnone] at h
    simp [Received.deliveries] at h
  · rw [receivedBy, hsome] at h
    cases hdisposed with
    | delivered hdata _ hlocal =>
      obtain rfl := Multiset.mem_singleton.mp h
      rw [(afterContacts_spec A nc input).bpa] at hlocal
      exact ⟨hdata, hlocal⟩
    | _ => simp [Received.deliveries] at h

theorem proper_step {nodes : ι → NodeController σ} {w : Network ι σ} (h : Proper nodes w)
    (e : NetworkEvent ι σ) : Proper nodes (w.step A e) := by
  cases e with
  | originate i bundle =>
    rcases store_cases (w.nodes i).store bundle with ⟨err, hs⟩ | ⟨hnew, hs⟩
    · simp only [Network.step, hs]
      exact h
    · simp only [Network.step, hs]
      refine ⟨fun j => ?_, h.answered, h.delivered⟩
      dsimp only
      by_cases hj : j = i
      · subst hj
        rw [Function.update_self]
        exact h.endpoints j
      · rw [Function.update_of_ne hj]
        exact h.endpoints j
  | inject bundle => exact ⟨h.endpoints, h.answered, h.delivered⟩
  | lose bundle => exact ⟨h.endpoints, h.answered, h.delivered⟩
  | cycle i cla input =>
    refine ⟨fun j => ?_, fun pair hpair => ?_, fun d hd => ?_⟩
    · by_cases hj : j = i
      · subst hj
        have hkeeps := (cycle_bpa A { w.nodes j with cla } input).1
        simp only [Network.step, Function.update_self]
        exact hkeeps.trans (h.endpoints j)
      · simp only [Network.step, Function.update_of_ne hj]
        exact h.endpoints j
    · rcases Multiset.mem_add.mp hpair with hold | hnew
      · exact h.answered pair hold
      · exact answers_of_mem hnew
    · rcases Multiset.mem_add.mp hd with hold | hnew
      · exact h.delivered d hold
      · obtain ⟨b, hb, rfl⟩ := Multiset.mem_map.mp hnew
        obtain ⟨hdata, hlocal⟩ := local_of_mem_deliveries hb
        exact ⟨hdata, (isLocalEndpoint_congr (h.endpoints i) _).symm.trans hlocal⟩

end provenance

section arrival

variable {A : ConvergenceLayerAdapter σ}

/-- Over a ready link everything stored for an active contact is sent. -/
theorem mem_sentCopies_of_ready (works : AlwaysWorks A) (nc : NodeController σ)
    {input : CycleInput} (hready : works.ready nc.cla) {window : ContactWindow}
    (hwindow : window ∈ nc.planner.getActiveContacts input.currentTime) {b : Bundle}
    (hb : b ∈ copiesAt nc) (hdest : b.destination = contactEndpoint window) :
    b ∈ sentCopies A nc input := by
  have hspec := afterContacts_spec A nc input
  have hworked := (serveContacts_of_ready works input.currentTime
    (nc.planner.getActiveContacts input.currentTime) input.listOrders nc hready).2
  have hwithin := (ContactPlanManager.mem_getActiveContacts.mp hwindow).2
  simp only [ContactWindow.isActive, decide_eq_true_eq] at hwithin
  rw [← hspec.windows] at hwindow
  obtain ⟨report, hr, rfl⟩ := List.mem_map.mp hwindow
  exact hspec.complete report hr (hworked report hr).1 hwithin.2 (hworked report hr).2 b hb hdest

/-- A valid data bundle that arrives at a node it is for is delivered. -/
theorem deliveries_of_arrivals {nc : NodeController σ} {input : CycleInput} {b : Bundle}
    (harrives : (receivedBy A nc input).arrivals = {b}) (hdata : b.bundleType = BundleType.data)
    (hvalid : BundleProtocolAgent.validateBundle b input.currentTime = none)
    (hlocal : nc.bpa.isLocalEndpoint b.destination = true) :
    (receivedBy A nc input).deliveries = {b} := by
  have hbpa := (afterContacts_spec A nc input).bpa
  rcases afterReception_disposed A nc input with
    ⟨-, hnone⟩ | ⟨bundle, reception, -, hsome, hdisposed⟩
  · rw [receivedBy, hnone] at harrives
    exact absurd harrives (Multiset.singleton_ne_zero b).symm
  · rw [receivedBy, hsome] at harrives ⊢
    obtain rfl := Multiset.singleton_inj.mp harrives
    have hadmits : admitsData (afterContacts A nc input).1 bundle input = true := by
      rw [admitsData, hvalid, hbpa, hlocal]
      rfl
    cases hdisposed with
    | refused _ _ _ hnot => exact absurd hadmits (by simp [hnot])
    | delivered => rfl
    | stored _ _ _ hremote =>
      rw [hbpa, hlocal] at hremote
      cases hremote
    | answered _ hping =>
      rw [hdata] at hping
      exact absurd hping (by decide)
    | unanswered _ hping =>
      rw [hdata] at hping
      exact absurd hping (by decide)
    | noted hnot => exact absurd hdata hnot

variable [DecidableEq ι]

/-- What an event takes off the medium. -/
def takenCopies (A : ConvergenceLayerAdapter σ) (w : Network ι σ) :
    NetworkEvent ι σ → Multiset Bundle
  | .lose bundle => {bundle}
  | .cycle i cla input => (receivedBy A { w.nodes i with cla } input).arrivals
  | _ => 0

omit [Sha256] in
theorem mem_sub_of_notMem {s t : Multiset Bundle} {b : Bundle} (hs : b ∈ s) (ht : b ∉ t) :
    b ∈ s - t := by
  rw [← Multiset.count_pos, Multiset.count_sub, Multiset.count_eq_zero_of_notMem ht]
  exact Multiset.count_pos.mpr hs

/-- What is not taken stays in flight. -/
theorem mem_flight_step {w : Network ι σ} {e : NetworkEvent ι σ} {b : Bundle}
    (hb : b ∈ w.flight) (htaken : b ∉ takenCopies A w e) : b ∈ (w.step A e).flight := by
  cases e with
  | originate i bundle =>
    rcases store_cases (w.nodes i).store bundle with ⟨err, hs⟩ | ⟨-, hs⟩
    · simp only [Network.step, hs]
      exact hb
    · simp only [Network.step, hs]
      exact hb
  | inject bundle => exact Multiset.mem_add.mpr (.inl hb)
  | lose bundle => exact mem_sub_of_notMem hb htaken
  | cycle i cla input => exact mem_sub_of_notMem (Multiset.mem_add.mpr (.inl hb)) htaken

end arrival

section runs

variable [DecidableEq ι] [Fintype ι] (A : ConvergenceLayerAdapter σ)
  (nodes : ι → NodeController σ) (events : List (NetworkEvent ι σ))

theorem balanced_run (h : Along (Network.step A) (Carried A) (.start nodes) events) :
    Balanced (run (Network.step A) (.start nodes) events) := by
  have hstep : ∀ (w : Network ι σ) (e : NetworkEvent ι σ), Balanced w → Carried A w e →
      Balanced (w.step A e) := fun _ e hw => balanced_step A hw e
  exact h.invariant hstep (balanced_start nodes)

/-- Whatever the nodes, their adapters and the order of events, on a medium
that carries only what it was given every copy of every bundle is accounted
for: what was put in and the answers are what was answered, delivered and
discarded, what is in flight and what is stored. -/
theorem network_copies_balance
    (h : Along (Network.step A) (Carried A) (.start nodes) events) :
    let w := run (Network.step A) (.start nodes) events
    w.originated + w.answered.map Prod.snd =
      w.answered.map Prod.fst + w.delivered.map Prod.snd + w.discarded + w.flight +
        storedCopies w.nodes :=
  balanced_run A nodes events h

theorem proper_run : Proper nodes (run (Network.step A) (.start nodes) events) := by
  have hstep : ∀ (w : Network ι σ) (e : NetworkEvent ι σ), Proper nodes w →
      Proper nodes (w.step A e) := fun _ e hw => proper_step hw e
  refine run_invariant hstep ⟨fun _ => rfl, ?_, ?_⟩ events
  · simp [Network.start]
  · simp [Network.start]

/-- What is answered and what is delivered was put into the network as often. -/
theorem answered_add_delivered_le (h : Along (Network.step A) (Carried A) (.start nodes) events) :
    let w := run (Network.step A) (.start nodes) events
    w.answered.map Prod.fst + w.delivered.map Prod.snd ≤ w.originated := by
  intro w
  have hproper : Proper nodes w := proper_run A nodes events
  have hbalanced : Balanced w := balanced_run A nodes events h
  refine Multiset.le_iff_count.mpr fun b => ?_
  have hcount := congrArg (Multiset.count b) hbalanced
  simp only [Multiset.count_add] at hcount ⊢
  by_cases hresponse : b ∈ w.answered.map Prod.snd
  · -- a response is neither a ping request nor data
    obtain ⟨pair, hpair, rfl⟩ := Multiset.mem_map.mp hresponse
    have htype := (hproper.answered pair hpair).2.1
    have hrequest : pair.2 ∉ w.answered.map Prod.fst := by
      intro hmem
      obtain ⟨other, hother, heq⟩ := Multiset.mem_map.mp hmem
      have hping := (hproper.answered other hother).1
      rw [heq, htype] at hping
      exact absurd hping (by decide)
    have hdata : pair.2 ∉ w.delivered.map Prod.snd := by
      intro hmem
      obtain ⟨d, hd, heq⟩ := Multiset.mem_map.mp hmem
      have hdelivered := (hproper.delivered d hd).1
      rw [heq, htype] at hdelivered
      exact absurd hdelivered (by decide)
    rw [Multiset.count_eq_zero_of_notMem hrequest, Multiset.count_eq_zero_of_notMem hdata]
    exact Nat.zero_le _
  · rw [Multiset.count_eq_zero_of_notMem hresponse] at hcount
    omega

/-- No copy is delivered or answered that was not put into the network, none
twice, and what is delivered is data at a node it was for. -/
theorem network_delivers_at_most_once
    (h : Along (Network.step A) (Carried A) (.start nodes) events) :
    let w := run (Network.step A) (.start nodes) events
    w.answered.map Prod.fst + w.delivered.map Prod.snd ≤ w.originated ∧
      w.flight + storedCopies w.nodes ≤ w.originated + w.answered.map Prod.snd ∧
      (∀ pair ∈ w.answered, Answers pair.1 pair.2) ∧
      ∀ d ∈ w.delivered, d.2.bundleType = BundleType.data ∧
        (nodes d.1).bpa.isLocalEndpoint d.2.destination = true := by
  intro w
  have hproper : Proper nodes w := proper_run A nodes events
  have hbalanced : Balanced w := balanced_run A nodes events h
  refine ⟨answered_add_delivered_le A nodes events h, Multiset.le_iff_count.mpr fun b => ?_,
    hproper.answered, hproper.delivered⟩
  have hcount := congrArg (Multiset.count b) hbalanced
  simp only [Multiset.count_add] at hcount ⊢
  omega

/-- A bundle stored for an active contact over a working link is in flight after
the cycle and as long as nothing takes it; the node it is for may then receive
it, and where it is valid data delivers it, and that is its only delivery if
one copy of it was put into the network. -/
theorem network_delivers_exactly_once (works : AlwaysWorks A)
    {early late : List (NetworkEvent ι σ)} {i : ι} {cla : σ} {input : CycleInput} {b : Bundle}
    {window : ContactWindow}
    (hcarried : Along (Network.step A) (Carried A) (.start nodes)
      (early ++ .cycle i cla input :: late))
    (hstored : b ∈ copiesAt ((run (Network.step A) (.start nodes) early).nodes i))
    (hready : works.ready cla)
    (hwindow : window ∈ ((run (Network.step A) (.start nodes) early).nodes
      i).planner.getActiveContacts input.currentTime)
    (hdest : b.destination = contactEndpoint window)
    (huntaken : Along (Network.step A) (fun w e => b ∉ takenCopies A w e)
      (run (Network.step A) (.start nodes) early) (.cycle i cla input :: late)) :
    let w := run (Network.step A) (.start nodes) (early ++ .cycle i cla input :: late)
    b ∈ w.flight ∧ ∀ j cla' input',
      (receivedBy A { w.nodes j with cla := cla' } input').arrivals = {b} →
      b.bundleType = BundleType.data →
      BundleProtocolAgent.validateBundle b input'.currentTime = none →
      (w.nodes j).bpa.isLocalEndpoint b.destination = true →
      let w' := w.step A (.cycle j cla' input')
      Carried A w (.cycle j cla' input') ∧ (j, b) ∈ w'.delivered ∧
        (w'.originated.count b = 1 → w'.delivered.filter (·.2 = b) = {(j, b)}) := by
  intro w
  have hflight : b ∈ w.flight := by
    have hsent := mem_sentCopies_of_ready works
      { (run (Network.step A) (.start nodes) early).nodes i with cla := cla } hready hwindow
      hstored hdest
    have hnext : b ∈ ((run (Network.step A) (.start nodes) early).step A
        (.cycle i cla input)).flight :=
      mem_sub_of_notMem (Multiset.mem_add.mpr (.inr hsent)) huntaken.1
    have hstay : ∀ (w : Network ι σ) (e : NetworkEvent ι σ), b ∈ w.flight →
        b ∉ takenCopies A w e → b ∈ (w.step A e).flight := fun _ _ => mem_flight_step
    have hlate := huntaken.2.invariant hstay hnext
    rw [← run_cons (Network.step A), ← run_append] at hlate
    exact hlate
  refine ⟨hflight, fun j cla' input' harrives hdata hvalid hlocal => ?_⟩
  intro w'
  have hstep : Carried A w (.cycle j cla' input') := by
    rw [Carried, harrives, Multiset.singleton_le]
    exact Multiset.mem_add.mpr (.inl hflight)
  have hdelivered : (j, b) ∈ w'.delivered := by
    have hnew := @deliveries_of_arrivals σ _ A { w.nodes j with cla := cla' } input' b harrives
      hdata hvalid hlocal
    refine Multiset.mem_add.mpr (.inr ?_)
    rw [hnew]
    exact Multiset.mem_singleton_self _
  refine ⟨hstep, hdelivered, fun hone => ?_⟩
  have hall : Along (Network.step A) (Carried A) (.start nodes)
      (early ++ .cycle i cla input :: late ++ [.cycle j cla' input']) :=
    along_append.mpr ⟨hcarried, hstep, trivial⟩
  have hle := answered_add_delivered_le A nodes _ hall
  rw [run_append] at hle
  have hcount : (w'.delivered.map Prod.snd).count b ≤ 1 := by
    rw [← hone]
    exact (Multiset.count_le_of_le b ((Multiset.le_add_left _ _).trans hle))
  rw [Multiset.count_map] at hcount
  have hsame : w'.delivered.filter (fun d => b = d.2) = w'.delivered.filter (·.2 = b) :=
    Multiset.filter_congr fun _ _ => eq_comm
  rw [hsame] at hcount
  refine (Multiset.eq_of_le_of_card_le (Multiset.singleton_le.mpr ?_) hcount).symm
  exact Multiset.mem_filter.mpr ⟨hdelivered, rfl⟩

end runs

end networks

section scenarios

attribute [local instance] Sha256.transparent

/-- A data bundle for two nodes of one name is put on the medium and received
by one of them, and a ping request is answered by the other. -/
def received : List (NetworkEvent Bool (List Bundle)) :=
  [.inject specimenForMars, .inject (pingTo ⟨ascii "dtn", ascii "mars"⟩),
    .cycle true [specimenForMars] (.plain 200 0),
    .cycle false [pingTo ⟨ascii "dtn", ascii "mars"⟩] (.plain 200 0)]

theorem carried_received : Along (Network.step bufferedLink) (Carried bufferedLink)
    (.start fun _ => nodeOfMars []) received := by
  decide +kernel

theorem network_copies_balance_received :
    let w := run (Network.step bufferedLink) (.start fun _ => nodeOfMars []) received
    w.originated + w.answered.map Prod.snd =
      w.answered.map Prod.fst + w.delivered.map Prod.snd + w.discarded + w.flight +
        storedCopies w.nodes :=
  network_copies_balance bufferedLink _ received carried_received

theorem network_delivers_at_most_once_received :
    let w := run (Network.step bufferedLink) (.start fun _ => nodeOfMars []) received
    w.delivered = {(true, specimenForMars)} ∧ w.answered.card = 1 ∧
      w.answered.map Prod.fst + w.delivered.map Prod.snd ≤ w.originated :=
  ⟨by decide +kernel, by decide +kernel,
    (network_delivers_at_most_once bufferedLink _ received carried_received).1⟩

/-- A node on the Moon with a contact to Earth, and a node on Earth. -/
def moonAndEarth (onEarth : Bool) : NodeController ScriptedLink :=
  newNodeController (newBundleProtocolAgent
      [⟨ascii "dtn", if onEarth then ascii "earth" else ascii "moon"⟩])
    (newBundleStore 1000) ContactPlanManager.specimenPlanner ⟨false, [], false⟩

theorem network_delivers_exactly_once_to_earth :
    let early : List (NetworkEvent Bool ScriptedLink) := [.originate false specimen]
    let w := run (Network.step scriptedLink) (.start moonAndEarth)
      (early ++ .cycle false ⟨false, [], false⟩ (.plain 200 0) :: [])
    let w' := w.step scriptedLink (.cycle true ⟨true, [specimen], true⟩ (.plain 300 0))
    specimen ∈ w.flight ∧ w'.delivered.filter (·.2 = specimen) = {(true, specimen)} := by
  intro early w w'
  have hcarried : Along (Network.step scriptedLink) (Carried scriptedLink) (.start moonAndEarth)
      (early ++ .cycle false ⟨false, [], false⟩ (.plain 200 0) :: []) := by decide +kernel
  have hstored : specimen ∈ copiesAt ((run (Network.step scriptedLink) (.start moonAndEarth)
      early).nodes false) := by decide +kernel
  have hwindow : specimenWindow ∈ ((run (Network.step scriptedLink) (.start moonAndEarth)
      early).nodes false).planner.getActiveContacts (CycleInput.plain 200 0).currentTime := by
    decide +kernel
  have huntaken : Along (Network.step scriptedLink)
      (fun w e => specimen ∉ takenCopies scriptedLink w e)
      (run (Network.step scriptedLink) (.start moonAndEarth) early)
      (.cycle false ⟨false, [], false⟩ (.plain 200 0) :: []) := by decide +kernel
  obtain ⟨hflight, hdelivers⟩ := network_delivers_exactly_once scriptedLink moonAndEarth
    scriptedLink_alwaysWorks hcarried hstored ⟨rfl, rfl⟩ hwindow rfl huntaken
  have harrives : (receivedBy scriptedLink { w.nodes true with cla := ⟨true, [specimen], true⟩ }
      (.plain 300 0)).arrivals = {specimen} := by decide +kernel
  exact ⟨hflight, (hdelivers true ⟨true, [specimen], true⟩ (.plain 300 0) harrives rfl
    (by decide +kernel) (by decide +kernel)).2.2 (by decide +kernel)⟩

end scenarios

end CislunarDtn.NodeNetworks
