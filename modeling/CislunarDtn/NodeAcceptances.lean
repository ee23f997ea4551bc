import CislunarDtn.NodeCycles

/-!
# What the node accepts

Whether a received bundle is accepted is decided by the node before its
reception: by validation, the local endpoints and the room the store has or
can make for a data bundle, by the store alone for the answer to a ping. The
functions here compute that from the code's own parts, and agree with what
the reception does.
-/

namespace CislunarDtn.NodeAcceptances

open KeyedMaps Bundles BundleStorage BundleAgents ContactPlans ConvergenceLayers NodeControllers
  NodeCycles StorageEvictions StorageAccounting

section Receptions

variable [Sha256] {σ : Type*} (A : ConvergenceLayerAdapter σ)

/-- Whether a reception accepted its bundle: stored, answered or delivered it. -/
def accepted (reception : Reception) : Bool :=
  match reception.outcome with
  | .error _ => false
  | .ok .noted => false
  | .ok _ => true

/-- Whether the store takes a bundle in, evicting for it when it is full. -/
def takesIn (bs : BundleStore) (bundle : Bundle) (currentTime : Int64)
    (first second : IterationOrder Bundle) : Bool :=
  match (bs.store bundle).2 with
  | none => true
  | some err =>
    let freed := bs.evictToFreeSpace first second bundle.size64 currentTime
    isStoreFull err && (freed.2.err.isNone && (freed.1.store bundle).2.isNone)

/-- Whether a data bundle is valid and either local or taken in. -/
def admitsData (nc : NodeController σ) (bundle : Bundle) (input : CycleInput) : Bool :=
  (BundleProtocolAgent.validateBundle bundle input.currentTime).isNone &&
    (nc.bpa.isLocalEndpoint bundle.destination ||
      takesIn nc.store bundle input.currentTime input.firstOrder input.secondOrder)

/-- Whether a ping request has a response and the store has room for it. -/
def answersPing (nc : NodeController σ) (bundle : Bundle) (now : ℤ) : Bool :=
  match (nc.bpa.handlePing bundle now).2 with
  | .error _ => false
  | .ok response => (nc.store.store response).2.isNone

/-- Whether a received bundle is accepted. -/
def admits (nc : NodeController σ) (bundle : Bundle) (input : CycleInput) : Bool :=
  if bundle.bundleType = BundleType.pingRequest then answersPing nc bundle input.now
  else if bundle.bundleType = BundleType.data then admitsData nc bundle input
  else false

/-- The bundle received in a cycle, if any. -/
def arrival (nc : NodeController σ) (input : CycleInput) : Option Bundle :=
  (A.recvBundle (afterContacts A nc input).1.cla).2.toOption

omit [Sha256] in
theorem accepted_wrapError (label : String) (reception : Reception) :
    accepted (reception.wrapError label) = accepted reception := by
  unfold accepted Reception.wrapError
  cases reception.outcome with
  | error err => rfl
  | ok acceptance => cases acceptance <;> rfl

/-- Processing succeeds exactly for admitted data bundles. -/
theorem accepted_processIncomingBundle (nc : NodeController σ) (bundle : Bundle)
    (input : CycleInput) :
    accepted (processIncomingBundle nc bundle input.currentTime input.firstOrder
        input.secondOrder).2 = admitsData nc bundle input ∧
      (processIncomingBundle nc bundle input.currentTime input.firstOrder
        input.secondOrder).2.outcome.isOk = admitsData nc bundle input := by
  unfold admitsData
  cases hv : BundleProtocolAgent.validateBundle bundle input.currentTime with
  | some err =>
    rw [processIncomingBundle_of_invalid hv]
    exact ⟨rfl, rfl⟩
  | none =>
    cases hl : nc.bpa.isLocalEndpoint bundle.destination with
    | true =>
      rw [processIncomingBundle_of_local hv hl]
      exact ⟨rfl, rfl⟩
    | false =>
      simp only [Option.isNone_none, Bool.true_and, Bool.false_or]
      unfold processIncomingBundle takesIn
      simp only [hv, hl, Bool.false_eq_true, if_false]
      cases hs : nc.store.store bundle with
      | mk store result =>
        cases result with
        | none => exact ⟨rfl, rfl⟩
        | some err =>
          have hsame : store = nc.store := by
            rcases store_cases nc.store bundle with ⟨err', heq⟩ | ⟨-, heq⟩
            · rw [heq] at hs
              cases hs
              rfl
            · rw [heq] at hs
              cases hs
          rw [hsame]
          dsimp only
          cases hfull : isStoreFull err with
          | false => exact ⟨rfl, rfl⟩
          | true =>
            simp only [if_true, Bool.true_and]
            cases he : (nc.store.evictToFreeSpace input.firstOrder input.secondOrder
              bundle.size64 input.currentTime).2.err with
            | some evictErr => exact ⟨rfl, rfl⟩
            | none =>
              simp only [Option.isNone_none, Bool.true_and]
              cases ha : (nc.store.evictToFreeSpace input.firstOrder input.secondOrder
                bundle.size64 input.currentTime).1.store bundle with
              | mk store' again =>
                cases again with
                | none => exact ⟨rfl, rfl⟩
                | some err' => exact ⟨rfl, rfl⟩

theorem accepted_answerPing (nc : NodeController σ) (bundle : Bundle) (now : ℤ) :
    accepted (answerPing nc bundle now).2 = answersPing nc bundle now := by
  unfold answerPing answersPing
  cases hp : nc.bpa.handlePing bundle now with
  | mk bpa result =>
    cases result with
    | error err => rfl
    | ok response =>
      dsimp only
      cases hs : nc.store.store response with
      | mk store result =>
        cases result with
        | none => rfl
        | some err => rfl

/-- A received bundle is accepted exactly when it is admitted. -/
theorem accepted_handleBundle (nc : NodeController σ) (bundle : Bundle) (input : CycleInput) :
    accepted (handleBundle nc bundle input).2 = admits nc bundle input := by
  unfold handleBundle admits
  by_cases hping : bundle.bundleType = BundleType.pingRequest
  · rw [if_pos hping, if_pos hping]
    exact accepted_answerPing nc bundle input.now
  · rw [if_neg hping, if_neg hping]
    by_cases hdata : bundle.bundleType = BundleType.data
    · rw [if_pos hdata, if_pos hdata, accepted_wrapError]
      exact (accepted_processIncomingBundle nc bundle input).1
    · rw [if_neg hdata, if_neg hdata]
      rfl

/-- How a reception can end, and what the node was like for it to end so. -/
inductive Disposed (nc : NodeController σ) (bundle : Bundle) (input : CycleInput) :
    Reception → Prop
  /-- A data bundle is refused, whatever was evicted for it. -/
  | refused (taken : List Bundle) (err : GoError) :
      bundle.bundleType = BundleType.data → admitsData nc bundle input = false →
      Disposed nc bundle input ⟨taken, .error err⟩
  /-- A valid data bundle for a local endpoint is delivered. -/
  | delivered :
      bundle.bundleType = BundleType.data → admitsData nc bundle input = true →
      nc.bpa.isLocalEndpoint bundle.destination = true →
      Disposed nc bundle input ⟨[], .ok .delivered⟩
  /-- A valid data bundle for a remote endpoint is stored. -/
  | stored (taken : List Bundle) :
      bundle.bundleType = BundleType.data → admitsData nc bundle input = true →
      nc.bpa.isLocalEndpoint bundle.destination = false →
      Disposed nc bundle input ⟨taken, .ok .stored⟩
  /-- A ping request is answered from a local endpoint. -/
  | answered (response : Bundle) :
      bundle.bundleType = BundleType.pingRequest → answersPing nc bundle input.now = true →
      response.bundleType = BundleType.pingResponse →
      response.destination = bundle.id.sourceEID →
      nc.bpa.isLocalEndpoint response.id.sourceEID = true →
      Disposed nc bundle input ⟨[], .ok (.answered response)⟩
  /-- A ping request stays unanswered. -/
  | unanswered (err : GoError) :
      bundle.bundleType = BundleType.pingRequest → answersPing nc bundle input.now = false →
      Disposed nc bundle input ⟨[], .error err⟩
  /-- Nothing is done about any other type. -/
  | noted :
      bundle.bundleType ≠ BundleType.data → bundle.bundleType ≠ BundleType.pingRequest →
      Disposed nc bundle input ⟨[], .ok .noted⟩

/-- A ping request is answered or stays unanswered. -/
theorem disposed_answerPing {nc : NodeController σ} {bundle : Bundle} {input : CycleInput}
    (hping : bundle.bundleType = BundleType.pingRequest) :
    Disposed nc bundle input (answerPing nc bundle input.now).2 := by
  have hanswers := accepted_answerPing nc bundle input.now
  unfold answerPing at hanswers ⊢
  cases hp : nc.bpa.handlePing bundle input.now with
  | mk bpa result =>
    rw [hp] at hanswers
    cases result with
    | error err => exact .unanswered _ hping hanswers.symm
    | ok response =>
      obtain ⟨htype, hdest⟩ := BundleProtocolAgent.handlePing_ok hp
      dsimp only at hanswers ⊢
      cases hs : nc.store.store response with
      | mk store result =>
        rw [hs] at hanswers
        cases result with
        | some err => exact .unanswered _ hping hanswers.symm
        | none =>
          exact .answered response hping hanswers.symm htype hdest
            (BundleProtocolAgent.handlePing_source hp)

/-- A data bundle is refused, delivered or stored. -/
theorem disposed_processIncomingBundle {nc : NodeController σ} {bundle : Bundle}
    {input : CycleInput} (hdata : bundle.bundleType = BundleType.data) (label : String) :
    Disposed nc bundle input ((processIncomingBundle nc bundle input.currentTime
      input.firstOrder input.secondOrder).2.wrapError label) := by
  have hadmits := (accepted_processIncomingBundle nc bundle input).2
  cases hv : BundleProtocolAgent.validateBundle bundle input.currentTime with
  | some err =>
    rw [processIncomingBundle_of_invalid hv] at hadmits ⊢
    exact .refused [] _ hdata hadmits.symm
  | none =>
    cases hl : nc.bpa.isLocalEndpoint bundle.destination with
    | true =>
      rw [processIncomingBundle_of_local hv hl] at hadmits ⊢
      exact .delivered hdata hadmits.symm hl
    | false =>
      cases hd : nc.store.bundles.lookup bundle.hash with
      | some old =>
        rw [processIncomingBundle_of_duplicate hv hl hd] at hadmits ⊢
        exact .refused [] _ hdata hadmits.symm
      | none =>
        by_cases hfull : nc.store.usedBytes + bundle.size64 > nc.store.maxBytes
        · rcases processIncomingBundle_of_full hv hl hd hfull with
            ⟨-, -, -, heq⟩ | ⟨-, err, heq⟩
          · rw [heq] at hadmits ⊢
            exact .stored _ hdata hadmits.symm hl
          · rw [heq] at hadmits ⊢
            exact .refused _ _ hdata hadmits.symm
        · rw [processIncomingBundle_of_fits hv hl hd hfull] at hadmits ⊢
          exact .stored [] hdata hadmits.symm hl

/-- Every received bundle is disposed of. -/
theorem disposed_handleBundle (nc : NodeController σ) (bundle : Bundle) (input : CycleInput) :
    Disposed nc bundle input (handleBundle nc bundle input).2 := by
  unfold handleBundle
  by_cases hping : bundle.bundleType = BundleType.pingRequest
  · rw [if_pos hping]
    exact disposed_answerPing hping
  · rw [if_neg hping]
    by_cases hdata : bundle.bundleType = BundleType.data
    · rw [if_pos hdata]
      exact disposed_processIncomingBundle hdata _
    · rw [if_neg hdata]
      exact .noted hdata hping

/-- The reception of a cycle handles its arrival, counted first. -/
theorem afterReception_cases (nc : NodeController σ) (input : CycleInput) :
    (arrival A nc input = none ∧ (afterReception A nc input).2 = none ∧
      (afterReception A nc input).1 = { (afterContacts A nc input).1 with
        cla := (A.recvBundle (afterContacts A nc input).1.cla).1 }) ∨
    ∃ bundle, arrival A nc input = some bundle ∧
      ∃ node, node = NodeController.countReceived
          { (afterContacts A nc input).1 with
            cla := (A.recvBundle (afterContacts A nc input).1.cla).1 } bundle ∧
        afterReception A nc input =
          ((handleBundle node bundle input).1,
            some (bundle, (handleBundle node bundle input).2)) := by
  unfold arrival
  rcases receiveIncomingBundles_cases A (afterContacts A nc input).1 input with
    ⟨err, hr, heq⟩ | ⟨bundle, hr, heq⟩
  · left
    rw [afterReception, heq, hr]
    exact ⟨rfl, rfl, rfl⟩
  · right
    rw [afterReception, heq, hr]
    exact ⟨bundle, rfl, _, rfl, rfl⟩

/-- Only the agent and the store of the node matter for how a reception ends. -/
theorem Disposed.congr {nc nc' : NodeController σ} {bundle : Bundle} {input : CycleInput}
    {reception : Reception} (h : Disposed nc bundle input reception) (hbpa : nc.bpa = nc'.bpa)
    (hstore : nc.store = nc'.store) : Disposed nc' bundle input reception := by
  have hadmits : admitsData nc' bundle input = admitsData nc bundle input := by
    unfold admitsData
    rw [hbpa, hstore]
  have hanswers : answersPing nc' bundle input.now = answersPing nc bundle input.now := by
    unfold answersPing
    rw [hbpa, hstore]
  cases h with
  | refused taken err hdata h => exact .refused taken err hdata (hadmits.trans h)
  | delivered hdata h hlocal => exact .delivered hdata (hadmits.trans h) (hbpa ▸ hlocal)
  | stored taken hdata h hremote => exact .stored taken hdata (hadmits.trans h) (hbpa ▸ hremote)
  | answered response hping h htype hdest hsource =>
    exact .answered response hping (hanswers.trans h) htype hdest (hbpa ▸ hsource)
  | unanswered err hping h => exact .unanswered err hping (hanswers.trans h)
  | noted hdata hping => exact .noted hdata hping

/-- The reception of a cycle disposes of its arrival as the node is after its contacts. -/
theorem afterReception_disposed (nc : NodeController σ) (input : CycleInput) :
    (arrival A nc input = none ∧ (afterReception A nc input).2 = none) ∨
    ∃ bundle reception, arrival A nc input = some bundle ∧
      (afterReception A nc input).2 = some (bundle, reception) ∧
      Disposed (afterContacts A nc input).1 bundle input reception := by
  rcases afterReception_cases A nc input with
    ⟨harrival, hnone, -⟩ | ⟨bundle, harrival, node, hnode, heq⟩
  · exact Or.inl ⟨harrival, hnone⟩
  · have hdisposed := disposed_handleBundle node bundle input
    refine Or.inr ⟨bundle, _, harrival, by rw [heq], hdisposed.congr ?_ ?_⟩
    · rw [hnode]
      rfl
    · rw [hnode]
      rfl

/-- A cycle changes neither the local endpoints nor the rate limiter. -/
theorem cycle_bpa (nc : NodeController σ) (input : CycleInput) :
    (cycle A nc input).bpa.localEndpoints = nc.bpa.localEndpoints ∧
      (cycle A nc input).bpa.rateLimiter = nc.bpa.rateLimiter := by
  have hcontacts := (afterContacts_spec A nc input).bpa
  have hcycle : (cycle A nc input).bpa = (afterReception A nc input).1.bpa := rfl
  rw [hcycle, ← hcontacts]
  rcases afterReception_cases A nc input with
    ⟨-, -, hnode⟩ | ⟨bundle, -, node, hnode, heq⟩
  · rw [hnode]
    exact ⟨rfl, rfl⟩
  · have hhandled := handleBundle_spec node bundle input
    rw [heq, hhandled.localEndpoints, hhandled.rateLimiter, hnode]
    exact ⟨rfl, rfl⟩

end Receptions

section Scenarios

attribute [local instance] Sha256.transparent

/-- The node dtn://mars with an empty store, a contact with Earth and these
bundles buffered on its link. -/
def nodeOfMars (buffered : List Bundle) : NodeController (List Bundle) :=
  newNodeController (newBundleProtocolAgent [⟨ascii "dtn", ascii "mars"⟩]) (newBundleStore 1000)
    ContactPlanManager.specimenPlanner buffered

/-- The specimen addressed to the node dtn://mars. -/
def specimenForMars : Bundle := { specimen with destination := ⟨ascii "dtn", ascii "mars"⟩ }

end Scenarios

end CislunarDtn.NodeAcceptances
