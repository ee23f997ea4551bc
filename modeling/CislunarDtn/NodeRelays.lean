import CislunarDtn.NodeAcceptances
import CislunarDtn.NodeDelivery

/-!
# Bundles the node passes on for others

A contact passes whatever is stored for its endpoint, and a received data
bundle for a remote endpoint is stored whoever created it. The node therefore
relays nothing as long as no bundle of another node is stored for a contact
that begins, which holds throughout where it accepts from others only what
is for itself. The plans may be exchanged before every cycle.
-/

namespace CislunarDtn.NodeRelays

open KeyedMaps Bundles BundleStorage BundleAgents ContactPlans ConvergenceLayers NodeControllers
  NodeCycles NodeAcceptances NodeDelivery StorageEvictions LabelledRuns

/-- A cycle with the plans that the manager holds when it begins. -/
structure PlannedCycle where
  /-- Contact plan manager. -/
  planner : ContactPlanManager
  /-- Input of the cycle. -/
  input : CycleInput

section Relays

variable [Sha256] {σ : Type*} (A : ConvergenceLayerAdapter σ)

/-- The node under other plans. -/
def withPlans (nc : NodeController σ) (step : PlannedCycle) : NodeController σ :=
  { nc with planner := step.planner }

/-- The node after one cycle under its plans. -/
def plannedCycle (nc : NodeController σ) (step : PlannedCycle) : NodeController σ :=
  cycle A (withPlans nc step) step.input

/-- Whatever is passed to SendBundle in this cycle comes from a local endpoint
and is destined for the remote node of its contact. -/
def RelaysNothing (nc : NodeController σ) (step : PlannedCycle) : Prop :=
  ∀ report ∈ (runCycle A (withPlans nc step) step.input).2.contacts, ∀ call ∈ report.sends,
    nc.bpa.isLocalEndpoint call.bundle.id.sourceEID = true ∧
      call.bundle.destination = contactEndpoint report.window

/-- Before this cycle, no stored bundle for the endpoint of an active contact
comes from another node. -/
def NothingForeignForContacts (nc : NodeController σ) (step : PlannedCycle) : Prop :=
  ∀ w ∈ step.planner.getActiveContacts step.input.currentTime, ∀ b ∈ nc.store.bundles,
    b.destination = contactEndpoint w → nc.bpa.isLocalEndpoint b.id.sourceEID = true

/-- Every stored bundle comes from a local endpoint. -/
def HoldsOwn (nc : NodeController σ) : Prop :=
  ∀ b ∈ nc.store.bundles, nc.bpa.isLocalEndpoint b.id.sourceEID = true

/-- A data bundle accepted in this cycle is for a local endpoint or comes from one. -/
def AcceptsOnlyOwn (nc : NodeController σ) (step : PlannedCycle) : Prop :=
  ∀ bundle, arrival A (withPlans nc step) step.input = some bundle →
    bundle.bundleType = BundleType.data →
    admitsData (afterContacts A (withPlans nc step) step.input).1 bundle step.input = true →
    nc.bpa.isLocalEndpoint bundle.destination = true ∨
      nc.bpa.isLocalEndpoint bundle.id.sourceEID = true

/-- Nothing is relayed in a cycle that begins with nothing foreign for its contacts. -/
theorem relaysNothing_of_nothingForeign {nc : NodeController σ} {step : PlannedCycle}
    (h : NothingForeignForContacts nc step) : RelaysNothing A nc step := by
  intro report hr call hc
  have hdest := ((afterContacts_spec A (withPlans nc step) step.input).passed report hr call hc).2
  have hown := @passed_of_stored _ _ A (fun b => nc.bpa.isLocalEndpoint b.id.sourceEID = true)
    (withPlans nc step) step.input h
  exact ⟨hown report hr call hc, hdest⟩

/-- A link that always works relays whatever foreign is stored for an active contact. -/
theorem nothingForeign_of_relaysNothing (works : AlwaysWorks A) {nc : NodeController σ}
    {step : PlannedCycle} (hready : works.ready nc.cla) (h : RelaysNothing A nc step) :
    NothingForeignForContacts nc step :=
  @stored_of_passed _ _ A works (fun b => nc.bpa.isLocalEndpoint b.id.sourceEID = true)
    (withPlans nc step) step.input hready
    (fun report hr call hc => (h report hr call hc).1)

/-- A cycle changes no local endpoint. -/
theorem isLocalEndpoint_cycle (nc : NodeController σ) (input : CycleInput)
    (endpoint : EndpointID) :
    (cycle A nc input).bpa.isLocalEndpoint endpoint = nc.bpa.isLocalEndpoint endpoint := by
  unfold BundleProtocolAgent.isLocalEndpoint
  rw [(cycle_bpa A nc input).1]

/-- A node that holds only its own bundles and accepts only those keeps it so. -/
theorem holdsOwn_plannedCycle {nc : NodeController σ} {step : PlannedCycle} (h : HoldsOwn nc)
    (haccepts : AcceptsOnlyOwn A nc step) : HoldsOwn (plannedCycle A nc step) := by
  intro b hb
  have hlocal := isLocalEndpoint_cycle A (withPlans nc step) step.input
  rw [plannedCycle, hlocal]
  rcases mem_cycle A hb with hstored | ⟨bundle, reception, hr, hk⟩
  · exact h b hstored
  · rcases afterReception_disposed A (withPlans nc step) step.input with
      ⟨-, hnone⟩ | ⟨bundle', reception', harrival, hr', hdisposed⟩
    · rw [hnone] at hr
      cases hr
    · rw [hr'] at hr
      cases hr
      have hbpa := (afterContacts_spec A (withPlans nc step) step.input).bpa
      cases hdisposed with
      | refused taken err hdata hrefused => cases hk
      | delivered hdata hadmits hdest => cases hk
      | stored taken hdata hadmits hremote =>
        cases hk
        rw [hbpa] at hremote
        rcases haccepts b harrival hdata hadmits with hdest | hsource
        · change nc.bpa.isLocalEndpoint b.destination = false at hremote
          rw [hremote] at hdest
          cases hdest
        · exact hsource
      | answered response hping hanswers htype hdest hsource =>
        cases hk
        rw [hbpa] at hsource
        exact hsource
      | unanswered err hping hanswers => cases hk
      | noted hdata hping => cases hk

/-- A node that holds only its own bundles, and accepts from others only what
is for itself, never begins a cycle with anything foreign for a contact. -/
theorem nothingForeign_along {nc : NodeController σ} {steps : List PlannedCycle}
    (hown : HoldsOwn nc) (h : Along (plannedCycle A) (AcceptsOnlyOwn A) nc steps) :
    Along (plannedCycle A) NothingForeignForContacts nc steps := by
  induction steps generalizing nc with
  | nil => trivial
  | cons step steps ih =>
    refine ⟨fun w _ b hb _ => hown b hb, ih (holdsOwn_plannedCycle A hown h.1) h.2⟩

/-- Along every run, nothing is relayed if no cycle begins with a stored bundle
of another node for an active contact, and over a link that always works only
if. A node that starts with its own bundles meets the condition where it
accepts from others only what is for itself. -/
theorem relaysNothing_along (nc : NodeController σ) (steps : List PlannedCycle) :
    (Along (plannedCycle A) NothingForeignForContacts nc steps →
      Along (plannedCycle A) (RelaysNothing A) nc steps) ∧
    (∀ works : AlwaysWorks A, works.ready nc.cla →
      Along (plannedCycle A) (RelaysNothing A) nc steps →
        Along (plannedCycle A) NothingForeignForContacts nc steps) ∧
    (HoldsOwn nc → Along (plannedCycle A) (AcceptsOnlyOwn A) nc steps →
      Along (plannedCycle A) NothingForeignForContacts nc steps) := by
  refine ⟨fun h => h.mono fun _ _ hforeign => relaysNothing_of_nothingForeign A hforeign,
    fun works hready h => ?_, fun hown h => nothingForeign_along A hown h⟩
  have hboth : ∀ node step, works.ready node.cla →
      (RelaysNothing A node step ↔ NothingForeignForContacts node step) :=
    fun node step hr => ⟨nothingForeign_of_relaysNothing A works hr,
      relaysNothing_of_nothingForeign A⟩
  have hnext : ∀ node step, works.ready node.cla →
      works.ready (plannedCycle A node step).cla :=
    fun node step hr => ready_cycle works (withPlans node step) step.input hr
  exact (along_congr_of_invariant hboth hnext hready steps).mp h

end Relays

section Scenarios

attribute [local instance] Sha256.transparent

/-- A cycle at this second under the specimen plan. -/
def cycleAt (currentTime : Int64) : PlannedCycle :=
  ⟨ContactPlanManager.specimenPlanner, .plain currentTime 0⟩

/-- A bundle for the node itself is delivered and never passed on. -/
theorem relaysNothing_of_local_arrival :
    Along (plannedCycle bufferedLink) (RelaysNothing bufferedLink) (nodeOfMars [specimenForMars])
      [cycleAt 200, cycleAt 300] := by
  have hempty : HoldsOwn (nodeOfMars [specimenForMars]) := fun b hb => absurd hb List.not_mem_nil
  have hfirst : arrival bufferedLink (withPlans (nodeOfMars [specimenForMars]) (cycleAt 200))
      (cycleAt 200).input = some specimenForMars := by decide +kernel
  have hsecond : arrival bufferedLink (withPlans (plannedCycle bufferedLink
      (nodeOfMars [specimenForMars]) (cycleAt 200)) (cycleAt 300)) (cycleAt 300).input = none := by
    decide +kernel
  have haccepts : Along (plannedCycle bufferedLink) (AcceptsOnlyOwn bufferedLink)
      (nodeOfMars [specimenForMars]) [cycleAt 200, cycleAt 300] := by
    refine ⟨fun bundle harrival _ _ => ?_, fun bundle harrival _ _ => ?_, trivial⟩
    · rw [hfirst] at harrival
      cases harrival
      exact Or.inl (by decide +kernel)
    · rw [hsecond] at harrival
      cases harrival
  have hruns := relaysNothing_along bufferedLink (nodeOfMars [specimenForMars])
    [cycleAt 200, cycleAt 300]
  exact hruns.1 (hruns.2.2 hempty haccepts)

/-- A bundle of dtn://moon for dtn://earth, received at second 200, is passed on
in the contact of second 300. -/
theorem not_relaysNothing_of_foreign_arrival :
    ¬∀ (σ : Type) (A : ConvergenceLayerAdapter σ) (nc : NodeController σ)
      (steps : List PlannedCycle), HoldsOwn nc →
      Along (plannedCycle A) (RelaysNothing A) nc steps := by
  intro h
  have hempty : HoldsOwn (nodeOfMars [specimen]) := fun b hb => absurd hb List.not_mem_nil
  have hsecond := (h (List Bundle) bufferedLink (nodeOfMars [specimen]) [cycleAt 200, cycleAt 300]
    hempty).2.1
  unfold RelaysNothing at hsecond
  exact absurd hsecond (by decide +kernel)

end Scenarios

end CislunarDtn.NodeRelays
