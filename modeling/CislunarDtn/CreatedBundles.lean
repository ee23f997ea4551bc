import CislunarDtn.NodeNetworks

/-!
# Bundles created by applications

Applications at the nodes of a network create data bundles and ping requests
through the agents of their nodes and put them into the stores at a later time,
in any order with each other and with the cycles of the nodes. The sequence
numbers of an agent are shared by what it creates and by its answers to pings.
As long as they last, and if no two nodes have an endpoint in common, every
bundle is in one place of the network at any time.
-/

namespace CislunarDtn.CreatedBundles

open KeyedMaps Bundles BundleStorage BundleAgents ContactPlans ConvergenceLayers NodeControllers
  NodeCycles NodeAcceptances NodeNetworks LabelledRuns

section creation

open BundleProtocolAgent (unixSeconds)

/-- Payload of a ping request. -/
def pingPayload : Payload := ⟨ascii "PING", by decide⟩

/-- Create a new data bundle. -/
def createBundle (bpa : BundleProtocolAgent) (source destination : EndpointID) (payload : Payload)
    (priority : Priority) (lifetime : Int64) (now : ℤ) :
    BundleProtocolAgent × Except GoError Bundle :=
  if destination.scheme = [] ∨ destination.ssp = [] then
    (bpa, .error (.errorf (ascii "invalid destination endpoint")))
  else if lifetime ≤ 0 then
    (bpa, .error (.errorf (ascii "lifetime must be greater than zero")))
  else if payload.bytes = [] then
    (bpa, .error (.errorf (ascii "payload cannot be empty")))
  else
    let seqNum := bpa.sequenceNum + 1
    ({ bpa with sequenceNum := seqNum }, .ok {
      id := ⟨source, unixSeconds now, seqNum⟩
      destination
      payload
      priority
      lifetime
      createdAt := unixSeconds now
      bundleType := BundleType.data })

/-- Create a ping request. -/
def createPing (bpa : BundleProtocolAgent) (source destination : EndpointID) (now : ℤ) :
    BundleProtocolAgent × Except GoError Bundle :=
  if destination.scheme = [] ∨ destination.ssp = [] then
    (bpa, .error (.errorf (ascii "invalid destination endpoint")))
  else
    let seqNum := bpa.sequenceNum + 1
    ({ bpa with sequenceNum := seqNum }, .ok {
      id := ⟨source, unixSeconds now, seqNum⟩
      destination
      payload := pingPayload
      priority := Priority.expedited
      lifetime := 300
      createdAt := unixSeconds now
      bundleType := BundleType.pingRequest })

/-- A call with which an application creates a bundle. -/
inductive CreateCall where
  /-- CreateBundle. -/
  | createBundle (source destination : EndpointID) (payload : Payload) (priority : Priority)
      (lifetime : Int64)
  /-- CreatePing. -/
  | createPing (source destination : EndpointID)

/-- The endpoint under which the bundle is to be created. -/
def CreateCall.source : CreateCall → EndpointID
  | .createBundle source .. => source
  | .createPing source _ => source

/-- Make the call. -/
def CreateCall.perform (bpa : BundleProtocolAgent) (now : ℤ) :
    CreateCall → BundleProtocolAgent × Except GoError Bundle
  | .createBundle source destination payload priority lifetime =>
    CreatedBundles.createBundle bpa source destination payload priority lifetime now
  | .createPing source destination => CreatedBundles.createPing bpa source destination now

/-- A call is refused without a trace, or takes the next sequence number. -/
theorem CreateCall.perform_cases (call : CreateCall) (bpa : BundleProtocolAgent) (now : ℤ) :
    (∃ err, call.perform bpa now = (bpa, .error err)) ∨
      ∃ b, call.perform bpa now = ({ bpa with sequenceNum := bpa.sequenceNum + 1 }, .ok b) ∧
        b.id = ⟨call.source, unixSeconds now, bpa.sequenceNum + 1⟩ := by
  cases call with
  | createBundle source destination payload priority lifetime =>
    simp only [perform, CreatedBundles.createBundle]
    split
    · exact Or.inl ⟨_, rfl⟩
    · split
      · exact Or.inl ⟨_, rfl⟩
      · split
        · exact Or.inl ⟨_, rfl⟩
        · exact Or.inr ⟨_, rfl, rfl⟩
  | createPing source destination =>
    simp only [perform, CreatedBundles.createPing]
    split
    · exact Or.inl ⟨_, rfl⟩
    · exact Or.inr ⟨_, rfl, rfl⟩

end creation

section numbers

/-- An agent has gone on, and if it has issued a bundle, that is its own and
has a number beyond those before. -/
structure Issues (bpa bpa' : BundleProtocolAgent) (fresh : Option Bundle) : Prop where
  /-- The endpoints stay. -/
  localEndpoints : bpa'.localEndpoints = bpa.localEndpoints
  /-- The numbers grow. -/
  counts : bpa.sequenceNum.toNat ≤ bpa'.sequenceNum.toNat
  /-- The bundle comes from a local endpoint. -/
  source : ∀ b ∈ fresh, bpa.isLocalEndpoint b.id.sourceEID = true
  /-- Its number is new. -/
  number : ∀ b ∈ fresh, bpa.sequenceNum.toNat < b.id.sequenceNumber.toNat ∧
    b.id.sequenceNumber.toNat ≤ bpa'.sequenceNum.toNat

/-- An agent that has numbers left. -/
def HasNumbers (bpa : BundleProtocolAgent) : Prop := bpa.sequenceNum.toNat + 1 < 2 ^ 64

instance : DecidablePred HasNumbers := fun _ => inferInstanceAs (Decidable (_ < _))

variable {bpa : BundleProtocolAgent}

theorem HasNumbers.toNat_next (h : HasNumbers bpa) :
    (bpa.sequenceNum + 1).toNat = bpa.sequenceNum.toNat + 1 := by
  rw [UInt64.toNat_add]
  exact Nat.mod_eq_of_lt h

theorem issues_refl (bpa : BundleProtocolAgent) : Issues bpa bpa none :=
  ⟨rfl, le_rfl, fun _ hb => absurd hb (Option.not_mem_none _),
    fun _ hb => absurd hb (Option.not_mem_none _)⟩

/-- The next number may be used for a bundle or be left unused. -/
theorem HasNumbers.issues (h : HasNumbers bpa) {fresh : Option Bundle}
    (hsource : ∀ b ∈ fresh, bpa.isLocalEndpoint b.id.sourceEID = true)
    (hnumber : ∀ b ∈ fresh, b.id.sequenceNumber = bpa.sequenceNum + 1) :
    Issues bpa { bpa with sequenceNum := bpa.sequenceNum + 1 } fresh := by
  refine ⟨rfl, ?_, hsource, fun b hb => ?_⟩
  · rw [h.toNat_next]
    exact Nat.le_succ _
  · rw [hnumber b hb, h.toNat_next]
    exact ⟨Nat.lt_succ_self _, le_rfl⟩

/-- Handling a ping issues the answer, if it makes one. -/
theorem handlePing_issues (h : HasNumbers bpa) (request : Bundle) (now : ℤ) :
    Issues bpa (bpa.handlePing request now).1 (bpa.handlePing request now).2.toOption := by
  unfold BundleProtocolAgent.handlePing
  split
  · exact issues_refl bpa
  · dsimp only
    split
    next => exact h.issues (fun _ hb => by cases hb) (fun _ hb => by cases hb)
    next source rest hlocal =>
      refine h.issues (fun b hb => ?_) (fun b hb => ?_)
      · obtain rfl := Option.some.inj hb
        simp [BundleProtocolAgent.isLocalEndpoint, hlocal]
      · obtain rfl := Option.some.inj hb
        rfl

end numbers

section cycles

variable {σ : Type*} [Sha256]

/-- The answer to a ping request, if it was stored. -/
def storedAnswer (reception : Reception) : Option Bundle :=
  match reception.outcome with
  | .ok (.answered response) => some response
  | _ => none

omit [Sha256] in
theorem answers_eq (bundle : Bundle) (reception : Reception) :
    (Received.answers (some (bundle, reception))).map Prod.snd =
      ((storedAnswer reception).toList : Multiset Bundle) := by
  obtain ⟨evicted, outcome⟩ := reception
  cases outcome with
  | error err => rfl
  | ok acceptance => cases acceptance <;> rfl

theorem answerPing_issues {nc : NodeController σ} (h : HasNumbers nc.bpa) (request : Bundle)
    (now : ℤ) : Issues nc.bpa (answerPing nc request now).1.bpa
      (storedAnswer (answerPing nc request now).2) := by
  have hissues := handlePing_issues h request now
  unfold answerPing
  generalize nc.bpa.handlePing request now = handled at hissues ⊢
  obtain ⟨bpa, result⟩ := handled
  cases result with
  | error err => exact hissues
  | ok response =>
    dsimp only
    cases nc.store.store response with
    | mk store refused =>
      cases refused with
      | some err =>
        exact ⟨hissues.localEndpoints, hissues.counts, fun _ hb => (by cases hb),
          fun _ hb => (by cases hb)⟩
      | none => exact hissues

/-- Processing a data bundle involves no number. -/
theorem processIncomingBundle_bpa (nc : NodeController σ) (bundle : Bundle) (input : CycleInput) :
    (processIncomingBundle nc bundle input.currentTime input.firstOrder
        input.secondOrder).1.bpa = nc.bpa := by
  rcases processIncomingBundle_cases nc bundle input.currentTime input.firstOrder
    input.secondOrder with ⟨_, _, -, heq⟩ | heq | ⟨_, -, -, heq⟩
  · rw [heq]
    rfl
  · rw [heq]
  · rw [heq]

theorem handleBundle_issues {nc : NodeController σ} (h : HasNumbers nc.bpa) (bundle : Bundle)
    (input : CycleInput) : Issues nc.bpa (handleBundle nc bundle input).1.bpa
      (storedAnswer (handleBundle nc bundle input).2) := by
  have hdisposed := disposed_handleBundle nc bundle input
  by_cases hping : bundle.bundleType = BundleType.pingRequest
  · unfold handleBundle
    rw [if_pos hping]
    exact answerPing_issues h bundle input.now
  · have hnone : storedAnswer (handleBundle nc bundle input).2 = none := by
      generalize (handleBundle nc bundle input).2 = reception at hdisposed ⊢
      cases hdisposed with
      | answered _ hrequest => exact absurd hrequest hping
      | _ => rfl
    have hbpa : (handleBundle nc bundle input).1.bpa = nc.bpa := by
      unfold handleBundle
      rw [if_neg hping]
      split
      · exact processIncomingBundle_bpa nc bundle input
      · rfl
    rw [hnone, hbpa]
    exact issues_refl _

/-- A cycle issues the answer that it stores. -/
theorem cycle_issues (A : ConvergenceLayerAdapter σ) (nc : NodeController σ)
    (h : HasNumbers nc.bpa) (input : CycleInput) :
    ∃ fresh : Option Bundle, (receivedBy A nc input).answers.map Prod.snd = fresh.toList ∧
      Issues nc.bpa (cycle A nc input).bpa fresh := by
  have hcontacts := (afterContacts_spec A nc input).bpa
  have hcycle : (cycle A nc input).bpa = (afterReception A nc input).1.bpa := rfl
  rw [hcycle, receivedBy]
  rcases afterReception_cases A nc input with
    ⟨-, hnone, hnode⟩ | ⟨bundle, -, node, hnode, heq⟩
  · refine ⟨none, by rw [hnone]; rfl, ?_⟩
    rw [hnode, hcontacts]
    exact issues_refl _
  · have hbpa : node.bpa = nc.bpa := by
      rw [hnode]
      exact hcontacts
    have hissues := handleBundle_issues (hbpa ▸ h) bundle input
    rw [heq, answers_eq]
    rw [hbpa] at hissues
    exact ⟨_, rfl, hissues⟩

end cycles

section networks

variable (ι σ : Type*) [Sha256]

/-- A network with the applications at its nodes. -/
structure Applications where
  /-- The nodes and the medium. -/
  network : Network ι σ
  /-- Bundles created and not yet stored, with the node of their application. -/
  inHand : Multiset (ι × Bundle)

/-- What can happen. -/
inductive AppEvent where
  /-- An application creates a bundle. -/
  | create (node : ι) (call : CreateCall) (now : ℤ)
  /-- An application tries to store a bundle that it has created. -/
  | submit (node : ι) (bundle : Bundle)
  /-- The medium loses a copy. -/
  | lose (bundle : Bundle)
  /-- A node runs a cycle with its adapter in this state. -/
  | cycle (node : ι) (cla : σ) (input : CycleInput)

variable {ι σ} [DecidableEq ι] (A : ConvergenceLayerAdapter σ)

namespace Applications

/-- Nodes that run no application so far. -/
def start [Fintype ι] (nodes : ι → NodeController σ) : Applications ι σ := ⟨.start nodes, 0⟩

/-- All bundles that were created or stored at the start, and all answers. -/
def everything (s : Applications ι σ) : Multiset Bundle :=
  s.network.originated + s.network.answered.map Prod.snd + s.inHand.map Prod.snd

/-- A node takes the state of its agent. -/
def withAgent (s : Applications ι σ) (i : ι) (bpa : BundleProtocolAgent) : Applications ι σ :=
  { s with network :=
    { s.network with nodes :=
        Function.update s.network.nodes i { s.network.nodes i with bpa } } }

/-- One step. -/
def step (s : Applications ι σ) : AppEvent ι σ → Applications ι σ
  | .create i call now =>
    match call.perform (s.network.nodes i).bpa now with
    | (bpa, .error _) => s.withAgent i bpa
    | (bpa, .ok bundle) => { s.withAgent i bpa with inHand := s.inHand + {(i, bundle)} }
  | .submit i bundle =>
    if (i, bundle) ∈ s.inHand ∧ ((s.network.nodes i).store.store bundle).2 = none then
      ⟨s.network.step A (.originate i bundle), s.inHand - {(i, bundle)}⟩
    else s
  | .lose bundle => { s with network := s.network.step A (.lose bundle) }
  | .cycle i cla input => { s with network := s.network.step A (.cycle i cla input) }

/-- The medium delivers and loses only what is in flight, applications create
bundles under endpoints of their nodes, and the numbers of the agents last. -/
def Allowed (s : Applications ι σ) : AppEvent ι σ → Prop
  | .create i call _ =>
    (s.network.nodes i).bpa.isLocalEndpoint call.source = true ∧
      HasNumbers (s.network.nodes i).bpa
  | .submit _ _ => True
  | .lose bundle => Carried A s.network (.lose bundle)
  | .cycle i cla input =>
    Carried A s.network (.cycle i cla input) ∧ HasNumbers (s.network.nodes i).bpa

instance decidableAllowed (s : Applications ι σ) : DecidablePred (Allowed A s)
  | .create i call _ => inferInstanceAs (Decidable
      ((s.network.nodes i).bpa.isLocalEndpoint call.source = true ∧
        HasNumbers (s.network.nodes i).bpa))
  | .submit _ _ => isTrue trivial
  | .lose bundle => inferInstanceAs (Decidable (Carried A s.network (.lose bundle)))
  | .cycle i cla input => inferInstanceAs (Decidable
      (Carried A s.network (.cycle i cla input) ∧ HasNumbers (s.network.nodes i).bpa))

/-- All places where a bundle can be: with its application, with the copies of
the network that were answered, delivered or discarded, on the medium, and in
the stores. -/
def places [Fintype ι] (s : Applications ι σ) : Multiset Bundle :=
  s.inHand.map Prod.snd + (s.network.answered.map Prod.fst + s.network.delivered.map Prod.snd +
    s.network.discarded + s.network.flight + storedCopies s.network.nodes)

/-- No two nodes have an endpoint in common. -/
def SeparateEndpoints (nodes : ι → NodeController σ) : Prop :=
  ∀ i j e, (nodes i).bpa.isLocalEndpoint e = true →
    (nodes j).bpa.isLocalEndpoint e = true → i = j

/-- Every bundle has an identifier of its own, issued by the one node that has
its source as an endpoint. -/
structure Numbered (nodes : ι → NodeController σ) (s : Applications ι σ) : Prop where
  /-- The local endpoints have stayed as they were. -/
  endpoints : ∀ i, (s.network.nodes i).bpa.localEndpoints = (nodes i).bpa.localEndpoints
  /-- The numbers of bundles have been issued. -/
  issued : ∀ b ∈ s.everything, ∃ i, (nodes i).bpa.isLocalEndpoint b.id.sourceEID = true ∧
    b.id.sequenceNumber.toNat ≤ (s.network.nodes i).bpa.sequenceNum.toNat
  /-- No identifier is used twice. -/
  distinct : (s.everything.map Bundle.id).Nodup

variable {A} {nodes : ι → NodeController σ} {s s' : Applications ι σ}

/-- One agent goes on, and what it issues joins the other bundles. -/
theorem Numbered.extend (h : Numbered nodes s)
    (hseparate : SeparateEndpoints nodes)
    {i : ι} {fresh : Option Bundle}
    (hissues : Issues (s.network.nodes i).bpa (s'.network.nodes i).bpa fresh)
    (hothers : ∀ j, j ≠ i → (s'.network.nodes j).bpa = (s.network.nodes j).bpa)
    (heverything : s'.everything = s.everything + (fresh.toList : Multiset Bundle)) :
    Numbered nodes s' := by
  have hgrows : ∀ j, (s.network.nodes j).bpa.sequenceNum.toNat ≤
      (s'.network.nodes j).bpa.sequenceNum.toNat := by
    intro j
    by_cases hj : j = i
    · subst hj
      exact hissues.counts
    · rw [hothers j hj]
  have hlocal : ∀ b ∈ fresh, (nodes i).bpa.isLocalEndpoint b.id.sourceEID = true := by
    intro b hb
    rw [← isLocalEndpoint_congr (h.endpoints i)]
    exact hissues.source b hb
  refine ⟨fun j => ?_, fun b hb => ?_, ?_⟩
  · by_cases hj : j = i
    · subst hj
      exact hissues.localEndpoints.trans (h.endpoints j)
    · rw [hothers j hj]
      exact h.endpoints j
  · rw [heverything] at hb
    rcases Multiset.mem_add.mp hb with hold | hnew
    · obtain ⟨j, hj, hnumber⟩ := h.issued b hold
      exact ⟨j, hj, hnumber.trans (hgrows j)⟩
    · have hb : b ∈ fresh := by simpa using hnew
      exact ⟨i, hlocal b hb, (hissues.number b hb).2⟩
  · rw [heverything, Multiset.map_add, Multiset.nodup_add]
    refine ⟨h.distinct, by cases fresh <;> simp, Multiset.disjoint_left.mpr fun hold hnew => ?_⟩
    obtain ⟨b, hb, rfl⟩ := Multiset.mem_map.mp hnew
    obtain ⟨old, hmem, hid⟩ := Multiset.mem_map.mp hold
    have hb : b ∈ fresh := by simpa using hb
    -- the old bundle comes from the same node and has an earlier number
    obtain ⟨j, hj, hnumber⟩ := h.issued old hmem
    rw [hid] at hj hnumber
    obtain rfl := hseparate i j _ (hlocal b hb) hj
    exact absurd hnumber (not_le.mpr (hissues.number b hb).1)

omit [DecidableEq ι] in
/-- A step that creates and answers nothing keeps the identifiers. -/
theorem Numbered.same (h : Numbered nodes s)
    (hbpa : ∀ j, (s'.network.nodes j).bpa = (s.network.nodes j).bpa)
    (heverything : s'.everything = s.everything) : Numbered nodes s' := by
  refine ⟨fun j => ?_, fun b hb => ?_, ?_⟩
  · rw [hbpa j]
    exact h.endpoints j
  · rw [heverything] at hb
    obtain ⟨j, hj, hnumber⟩ := h.issued b hb
    rw [← hbpa j] at hnumber
    exact ⟨j, hj, hnumber⟩
  · rw [heverything]
    exact h.distinct

/-- A stored bundle passes from its application to the network. -/
theorem submit_spec {i : ι} {bundle : Bundle} (hhand : (i, bundle) ∈ s.inHand)
    (hstore : ((s.network.nodes i).store.store bundle).2 = none) :
    (∀ j, ((s.network.step A (.originate i bundle)).nodes j).bpa = (s.network.nodes j).bpa) ∧
      (s.network.step A (.originate i bundle)).originated = s.network.originated + {bundle} ∧
      (s.network.step A (.originate i bundle)).answered = s.network.answered ∧
      s.inHand.map Prod.snd = (s.inHand - {(i, bundle)}).map Prod.snd + {bundle} := by
  have hrest : s.inHand = s.inHand - {(i, bundle)} + {(i, bundle)} :=
    (tsub_add_cancel_of_le (Multiset.singleton_le.mpr hhand)).symm
  have hmap := congrArg (Multiset.map Prod.snd) hrest
  rw [Multiset.map_add, Multiset.map_singleton] at hmap
  cases hs : (s.network.nodes i).store.store bundle with
  | mk store refused =>
    rw [hs] at hstore
    obtain rfl : refused = none := hstore
    simp only [Network.step, hs]
    refine ⟨fun j => ?_, trivial, trivial, hmap⟩
    by_cases hj : j = i
    · subst hj
      rw [Function.update_self]
    · rw [Function.update_of_ne hj]

theorem numbered_step (h : Numbered nodes s)
    (hseparate : SeparateEndpoints nodes)
    {e : AppEvent ι σ} (hallowed : Allowed A s e) : Numbered nodes (s.step A e) := by
  cases e with
  | create i call now =>
    obtain ⟨hlocal, hnumbers⟩ := hallowed
    simp only [step]
    rcases call.perform_cases (s.network.nodes i).bpa now with ⟨err, heq⟩ | ⟨b, heq, hid⟩
    · rw [heq]
      dsimp only
      refine h.same (fun j => ?_) rfl
      by_cases hj : j = i
      · subst hj
        simp only [withAgent, Function.update_self]
      · simp only [withAgent, Function.update_of_ne hj]
    · rw [heq]
      dsimp only
      have hissues : Issues (s.network.nodes i).bpa
          ((s.withAgent i { (s.network.nodes i).bpa with
            sequenceNum := (s.network.nodes i).bpa.sequenceNum + 1 }).network.nodes i).bpa
          (some b) := by
        simp only [withAgent, Function.update_self]
        refine hnumbers.issues (fun b' hb => ?_) (fun b' hb => ?_)
        · obtain rfl := Option.some.inj hb
          rw [hid]
          exact hlocal
        · obtain rfl := Option.some.inj hb
          rw [hid]
      refine h.extend hseparate hissues (fun j hj => ?_) ?_
      · simp only [withAgent, Function.update_of_ne hj]
      · simp only [everything, withAgent, Multiset.map_add, Multiset.map_singleton, add_assoc]
        rfl
  | submit i bundle =>
    simp only [step]
    split
    next hsubmit =>
      obtain ⟨hbpa, horiginated, hanswered, hhand⟩ := submit_spec (A := A) hsubmit.1 hsubmit.2
      refine h.same hbpa ?_
      simp only [everything, horiginated, hanswered, hhand]
      abel
    next => exact h
  | lose bundle => exact h.same (fun _ => rfl) rfl
  | cycle i cla input =>
    obtain ⟨-, hnumbers⟩ := hallowed
    obtain ⟨fresh, hanswers, hcycle⟩ :=
      cycle_issues A { s.network.nodes i with cla } hnumbers input
    have hissues : Issues (s.network.nodes i).bpa
        ((s.step A (.cycle i cla input)).network.nodes i).bpa fresh := by
      simpa only [step, Network.step, Function.update_self] using hcycle
    refine h.extend hseparate hissues (fun j hj => ?_) ?_
    · simp only [step, Network.step, Function.update_of_ne hj]
    · simp only [everything, step, Network.step, Multiset.map_add, hanswers]
      abel

variable [Fintype ι]

/-- What was created and answered is in one of the places. -/
def Placed (s : Applications ι σ) : Prop := s.everything = s.places

omit [DecidableEq ι] in
theorem placed_iff : Placed s ↔ NodeNetworks.Balanced s.network := by
  unfold Placed everything places NodeNetworks.Balanced
  rw [add_comm, add_right_inj]

theorem placed_step (h : Placed s) {e : AppEvent ι σ} (hallowed : Allowed A s e) :
    Placed (s.step A e) := by
  rw [placed_iff] at h ⊢
  cases e with
  | create i call now =>
    have hstored : ∀ bpa, storedCopies (s.withAgent i bpa).network.nodes =
        storedCopies s.network.nodes := by
      intro bpa
      have hupdate := storedCopies_update s.network.nodes i { s.network.nodes i with bpa }
      exact add_right_cancel hupdate
    have hbalanced : ∀ bpa, NodeNetworks.Balanced (s.withAgent i bpa).network := by
      intro bpa
      unfold NodeNetworks.Balanced
      rw [hstored bpa]
      exact h
    simp only [step]
    split
    · exact hbalanced _
    · exact hbalanced _
  | submit i bundle =>
    simp only [step]
    split
    · exact balanced_step A h _ trivial
    · exact h
  | lose bundle => exact balanced_step A h _ hallowed
  | cycle i cla input => exact balanced_step A h _ hallowed.1

/-- In a network of nodes with separate endpoints and empty stores, whatever the
adapters, the applications and the order of events: as long as the medium only
carries what it was given and the numbers of the agents last, everything that
was created and answered is in one place, and no two bundles anywhere have the
same identifier. -/
theorem every_bundle_in_one_place
    (hseparate : SeparateEndpoints nodes)
    (hempty : ∀ i, copiesAt (nodes i) = 0) (events : List (AppEvent ι σ))
    (hallowed : Along (step A) (Allowed A) (.start nodes) events) :
    let s := run (step A) (.start nodes) events
    s.everything = s.places ∧ (s.places.map Bundle.id).Nodup := by
  intro s
  have hstep : ∀ (s : Applications ι σ) (e : AppEvent ι σ), Placed s ∧ Numbered nodes s →
      Allowed A s e → Placed (s.step A e) ∧ Numbered nodes (s.step A e) :=
    fun _ _ h ha => ⟨placed_step h.1 ha, numbered_step h.2 hseparate ha⟩
  have hnothing : (start nodes).everything = 0 := by
    simp [everything, start, Network.start, storedCopies, hempty]
  have hstart : Placed (start nodes) ∧ Numbered nodes (start nodes) := by
    refine ⟨placed_iff.mpr (balanced_start nodes), fun _ => rfl, fun b hb => ?_, ?_⟩
    · rw [hnothing] at hb
      exact absurd hb (Multiset.notMem_zero b)
    · rw [hnothing]
      exact Multiset.nodup_zero
  have h : Placed s ∧ Numbered nodes s := hallowed.invariant hstep hstart
  refine ⟨h.1, ?_⟩
  rw [← h.1]
  exact h.2.distinct

end Applications

end networks

section scenarios

attribute [local instance] Sha256.transparent

/-- A bundle as an application on the Moon creates it. -/
def created : Bundle := { specimen with payload := ⟨[1], by decide⟩ }

/-- It is created, stored and sent, and received on Earth, where a ping request
has been created in the meantime. -/
def createdForEarth : List (AppEvent Bool ScriptedLink) :=
  [.create false (.createBundle ⟨ascii "dtn", ascii "moon"⟩ ⟨ascii "dtn", ascii "earth"⟩
      created.payload Priority.normal 3600) 100000000000,
    .submit false created, .cycle false ⟨false, [], false⟩ (.plain 200 0),
    .create true (.createPing ⟨ascii "dtn", ascii "earth"⟩ ⟨ascii "dtn", ascii "moon"⟩)
      250000000000,
    .cycle true ⟨true, [created], true⟩ (.plain 300 0)]

theorem separateEndpoints_moonAndEarth : Applications.SeparateEndpoints moonAndEarth := by
  have hssp : ∀ i e, (moonAndEarth i).bpa.isLocalEndpoint e = true →
      (if i then ascii "earth" else ascii "moon") = e.ssp := by
    intro i e h
    simp only [moonAndEarth, newNodeController, newBundleProtocolAgent,
      BundleProtocolAgent.isLocalEndpoint, List.any_cons, List.any_nil, Bool.or_false,
      decide_eq_true_eq] at h
    exact h.2
  intro i j e hi hj
  have hsame := (hssp i e hi).trans (hssp j e hj).symm
  cases i <;> cases j
  · rfl
  · exact absurd hsame (by decide)
  · exact absurd hsame (by decide)
  · rfl

theorem every_bundle_in_one_place_created :
    let s := run (Applications.step scriptedLink) (.start moonAndEarth) createdForEarth
    s.network.delivered = {(true, created)} ∧ s.inHand.card = 1 ∧
      (s.places.map Bundle.id).Nodup := by
  have hallowed : Along (Applications.step scriptedLink) (Applications.Allowed scriptedLink)
      (.start moonAndEarth) createdForEarth := by decide +kernel
  have hrun := Applications.every_bundle_in_one_place separateEndpoints_moonAndEarth
    (fun _ => rfl) createdForEarth hallowed
  exact ⟨by decide +kernel, by decide +kernel, hrun.2⟩

end scenarios

end CislunarDtn.CreatedBundles
