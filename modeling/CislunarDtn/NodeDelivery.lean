import CislunarDtn.NodeCycles

/-!
# Which bundles a cycle passes to the adapter

Contacts are served before old bundles are expired, so a bundle that expired
since the last cycle is still sent. And a contact looks for its bundles under
the scheme dtn, while the planner finds a contact for any endpoint by its
scheme-specific part alone.
-/

namespace CislunarDtn.NodeDelivery

open KeyedMaps Bundles BundleStorage BundleAgents ContactPlans ConvergenceLayers NodeControllers
  NodeCycles LabelledRuns

section WorkingLink

variable [Sha256] {σ : Type*} {A : ConvergenceLayerAdapter σ} (works : AlwaysWorks A)

/-- A streaming link sends everything it is passed. -/
theorem transmit_of_streaming (contactWindow : ContactWindow) (currentTime : Int64)
    (bundles : List Bundle) {st : Transmission σ} (h : works.streaming st.cla)
    (hsends : ∀ call ∈ st.sends, call.err = none) :
    works.streaming (transmit A contactWindow currentTime bundles st).cla ∧
      ∀ call ∈ (transmit A contactWindow currentTime bundles st).sends, call.err = none := by
  induction bundles generalizing st with
  | nil => exact ⟨h, hsends⟩
  | cons b bundles ih =>
    by_cases hend : currentTime ≥ contactWindow.endTime
    · rw [transmit_of_ended hend]
      exact ⟨h, hsends⟩
    · have hsend := works.send_ok st.cla b h
      cases hs : A.sendBundle st.cla b with
      | mk cla result =>
        rw [hs] at hsend
        cases result with
        | some err => exact absurd hsend.1 (Option.some_ne_none err)
        | none =>
          have hmore : ∀ call ∈ st.sends ++ [⟨b, none⟩], call.err = none := by
            intro call hc
            rcases List.mem_append.mp hc with hc | hc
            · exact hsends call hc
            · rw [List.mem_singleton.mp hc]
          obtain ⟨store, stats, hrest⟩ := transmit_cons_of_sent hend hs bundles
          rw [hrest]
          exact ih hsend.2 hmore

/-- A ready link opens for a contact, sends everything and is ready again. -/
theorem executeContactWindow_of_ready (nc : NodeController σ) (contactWindow : ContactWindow)
    (currentTime : Int64) (order : IterationOrder Bundle) (h : works.ready nc.cla) :
    works.ready (executeContactWindow A nc contactWindow currentTime order).1.cla ∧
      (executeContactWindow A nc contactWindow currentTime order).2.openError = none ∧
      ∀ call ∈ (executeContactWindow A nc contactWindow currentTime order).2.sends,
        call.err = none := by
  have hopen := works.open_ok nc.cla contactWindow h
  unfold executeContactWindow
  cases ho : A.openLink nc.cla contactWindow with
  | mk cla result =>
    rw [ho] at hopen
    cases result with
    | some err => exact absurd hopen.1 (Option.some_ne_none err)
    | none =>
      have hsent := @transmit_of_streaming _ _ A works contactWindow currentTime
        (nc.store.listByDestination order (contactEndpoint contactWindow))
        ⟨nc.store, cla, nc.stats, []⟩ hopen.2 (fun call hc => absurd hc List.not_mem_nil)
      exact ⟨works.close_ready _ hsent.1, rfl, hsent.2⟩

/-- A ready link serves all contacts without failures and is ready again. -/
theorem serveContacts_of_ready (currentTime : Int64) (contacts : List ContactWindow)
    (orders : ℕ → IterationOrder Bundle) (nc : NodeController σ) (h : works.ready nc.cla) :
    works.ready (serveContacts A currentTime contacts orders nc).1.cla ∧
      ∀ report ∈ (serveContacts A currentTime contacts orders nc).2,
        report.openError = none ∧ ∀ call ∈ report.sends, call.err = none := by
  induction contacts generalizing orders nc with
  | nil => exact ⟨h, fun report hr => absurd hr List.not_mem_nil⟩
  | cons w contacts ih =>
    have hone := executeContactWindow_of_ready works nc w currentTime (orders 0) h
    have hrest := ih (fun k => orders (k + 1)) _ hone.1
    refine ⟨hrest.1, fun report hr => ?_⟩
    rcases List.mem_cons.mp hr with rfl | hr
    · exact hone.2
    · exact hrest.2 report hr

/-- A ready link is ready again after a cycle. -/
theorem ready_cycle (nc : NodeController σ) (input : CycleInput) (h : works.ready nc.cla) :
    works.ready (cycle A nc input).cla := by
  have hserved := (serveContacts_of_ready works input.currentTime
    (nc.planner.getActiveContacts input.currentTime) input.listOrders nc h).1
  have hrecv := works.recv_ready _ hserved
  change works.ready (afterReception A nc input).1.cla
  rw [afterReception]
  have hcla : ∀ (node : NodeController σ) (bundle : Bundle),
      (handleBundle node bundle input).1.cla = node.cla := fun node bundle =>
    handleBundle_cla node bundle input
  rcases receiveIncomingBundles_cases A (afterContacts A nc input).1 input with
    ⟨_, -, heq⟩ | ⟨bundle, -, heq⟩
  · rw [heq]
    exact hrecv
  · rw [heq]
    rw [hcla]
    exact hrecv

/-- What holds of everything stored for the endpoints of the active contacts
holds of everything passed to SendBundle. -/
theorem passed_of_stored (A : ConvergenceLayerAdapter σ) {P : Bundle → Prop}
    {nc : NodeController σ} {input : CycleInput}
    (h : ∀ w ∈ nc.planner.getActiveContacts input.currentTime, ∀ b ∈ nc.store.bundles,
      b.destination = contactEndpoint w → P b) :
    ∀ report ∈ (runCycle A nc input).2.contacts, ∀ call ∈ report.sends, P call.bundle := by
  rw [runCycle_contacts]
  intro report hr call hc
  have hspec := afterContacts_spec A nc input
  obtain ⟨hmem, hdest⟩ := hspec.passed report hr call hc
  refine h report.window ?_ call.bundle hmem hdest
  rw [← hspec.windows]
  exact List.mem_map_of_mem hr

/-- Over a ready link the converse holds: everything stored for the endpoint of
an active contact is passed. -/
theorem stored_of_passed {P : Bundle → Prop} {nc : NodeController σ} {input : CycleInput}
    (hready : works.ready nc.cla)
    (h : ∀ report ∈ (runCycle A nc input).2.contacts, ∀ call ∈ report.sends, P call.bundle) :
    ∀ w ∈ nc.planner.getActiveContacts input.currentTime, ∀ b ∈ nc.store.bundles,
      b.destination = contactEndpoint w → P b := by
  intro w hw b hb hdest
  have hspec := afterContacts_spec A nc input
  have hworked := (serveContacts_of_ready works input.currentTime
    (nc.planner.getActiveContacts input.currentTime) input.listOrders nc hready).2
  rw [← hspec.windows] at hw
  obtain ⟨report, hr, hwindow⟩ := List.mem_map.mp hw
  have hactive : report.window ∈ nc.planner.getActiveContacts input.currentTime := by
    rw [← hspec.windows]
    exact List.mem_map_of_mem hr
  have hwithin := (ContactPlanManager.mem_getActiveContacts.mp hactive).2
  simp only [ContactWindow.isActive, decide_eq_true_eq] at hwithin
  rw [← hwindow] at hdest
  have hsent := hspec.complete report hr (hworked report hr).1 hwithin.2 (hworked report hr).2
    b hb hdest
  obtain ⟨other, hother, hcall⟩ := List.mem_flatMap.mp hsent
  rw [runCycle_contacts] at h
  exact h other hother ⟨b, none⟩ (mem_sentBundles.mp hcall)

end WorkingLink

section Expiry

variable [Sha256] {σ : Type*} (A : ConvergenceLayerAdapter σ)

/-- No expired bundle is passed to SendBundle in this cycle. -/
def PassesNothingExpired (nc : NodeController σ) (input : CycleInput) : Prop :=
  ∀ report ∈ (runCycle A nc input).2.contacts, ∀ call ∈ report.sends,
    call.bundle.isExpired input.currentTime = false

/-- Before this cycle, no stored bundle for the endpoint of an active contact
is expired. -/
def NothingStaleForContacts (nc : NodeController σ) (input : CycleInput) : Prop :=
  ∀ w ∈ nc.planner.getActiveContacts input.currentTime, ∀ b ∈ nc.store.bundles,
    b.destination = contactEndpoint w → b.isExpired input.currentTime = false

/-- Where nothing stale is stored for an active contact, none is passed. -/
theorem passesNothingExpired_of_nothingStale {nc : NodeController σ} {input : CycleInput}
    (h : NothingStaleForContacts nc input) : PassesNothingExpired A nc input :=
  passed_of_stored A h

/-- A link that always works passes whatever stale is stored for an active contact. -/
theorem nothingStale_of_passesNothingExpired (works : AlwaysWorks A) {nc : NodeController σ}
    {input : CycleInput} (hready : works.ready nc.cla) (h : PassesNothingExpired A nc input) :
    NothingStaleForContacts nc input :=
  stored_of_passed works hready h

/-- Along every run, nothing expired is passed to the adapter if no cycle
starts with something stale for an active contact; and over a link that
always works, only if. -/
theorem passesNothingExpired_along (nc : NodeController σ) (inputs : List CycleInput) :
    (Along (cycle A) NothingStaleForContacts nc inputs →
      Along (cycle A) (PassesNothingExpired A) nc inputs) ∧
    ∀ works : AlwaysWorks A, works.ready nc.cla →
      Along (cycle A) (PassesNothingExpired A) nc inputs →
        Along (cycle A) NothingStaleForContacts nc inputs := by
  constructor
  · intro h
    exact h.mono fun _ _ hstale => passesNothingExpired_of_nothingStale A hstale
  · intro works hready h
    have hboth : ∀ node input, works.ready node.cla →
        (PassesNothingExpired A node input ↔ NothingStaleForContacts node input) :=
      fun node input hr => ⟨nothingStale_of_passesNothingExpired A works hr,
        passesNothingExpired_of_nothingStale A⟩
    have hnext : ∀ node input, works.ready node.cla → works.ready (cycle A node input).cla :=
      fun node input hr => ready_cycle works node input hr
    exact (along_congr_of_invariant hboth hnext hready inputs).mp h

end Expiry

section ExpiryScenarios

attribute [local instance] Sha256.transparent

/-- A node about to be in contact with Earth, with one stored bundle. -/
def nodeForEarth (bundle : Bundle) : NodeController ScriptedLink :=
  newNodeController (newBundleProtocolAgent []) ((newBundleStore 1000).put bundle)
    ContactPlanManager.specimenPlanner ⟨false, [], false⟩

/-- A bundle that is still alive when its contact begins is passed alive. -/
theorem passesNothingExpired_of_living_bundle :
    Along (cycle scriptedLink) (PassesNothingExpired scriptedLink) (nodeForEarth specimen)
      [.plain 200 0] := by
  refine (passesNothingExpired_along scriptedLink _ _).1 ⟨?_, trivial⟩
  unfold NothingStaleForContacts
  intro w _ b hb _
  have hspecimen : b = specimen := by
    have hvalues : (nodeForEarth specimen).store.bundles.values = [specimen] := by
      decide +kernel
    rw [KeyedMap.mem_def, hvalues] at hb
    exact List.mem_singleton.mp hb
  rw [hspecimen]
  decide +kernel

/-- A bundle that expired at second 400 is passed to the adapter at second 500. -/
theorem not_passesNothingExpired_of_stale_bundle :
    ¬∀ (σ : Type) (A : ConvergenceLayerAdapter σ) (nc : NodeController σ)
      (inputs : List CycleInput), Along (cycle A) (PassesNothingExpired A) nc inputs := by
  intro h
  have hone := (h ScriptedLink scriptedLink (nodeForEarth { specimen with lifetime := 300 })
    [.plain 500 0]).1
  unfold PassesNothingExpired at hone
  exact absurd hone (by decide +kernel)

end ExpiryScenarios

section Planning

variable [Sha256] {σ : Type*} (A : ConvergenceLayerAdapter σ)

/-- The bundle is passed to SendBundle in this cycle. -/
def IsPassed (nc : NodeController σ) (input : CycleInput) (bundle : Bundle) : Prop :=
  ∃ report ∈ (runCycle A nc input).2.contacts, ∃ call ∈ report.sends, call.bundle = bundle

/-- Where the planner finds an active contact for a stored bundle's
destination and no call of the adapter fails, the bundle is passed to
SendBundle exactly when its destination has the scheme dtn. -/
theorem isPassed_iff_dtn {nc : NodeController σ} {input : CycleInput} {bundle : Bundle}
    {t0 : Int64} {w : ContactWindow}
    (hplanned : nc.planner.getNextContactByEndpoint bundle.destination t0 = some w)
    (hactive : w.isActive input.currentTime = true) (hstored : bundle ∈ nc.store.bundles)
    (hworked : ∀ report ∈ (runCycle A nc input).2.contacts,
      report.openError = none ∧ ∀ call ∈ report.sends, call.err = none) :
    IsPassed A nc input bundle ↔ bundle.destination.scheme = ascii "dtn" := by
  have hspec := afterContacts_spec A nc input
  unfold IsPassed
  rw [runCycle_contacts] at hworked ⊢
  constructor
  · intro h
    obtain ⟨report, hr, call, hc, hcall⟩ := h
    have hdest := (hspec.passed report hr call hc).2
    rw [hcall] at hdest
    rw [hdest]
    rfl
  · intro hscheme
    obtain ⟨hin, hnode⟩ := ContactPlanManager.getNextContactByEndpoint_spec hplanned
    have hwindow : w ∈ (afterContacts A nc input).2.map ContactReport.window := by
      rw [hspec.windows]
      exact ContactPlanManager.mem_getActiveContacts.mpr ⟨hin, hactive⟩
    obtain ⟨report, hr, hreport⟩ := List.mem_map.mp hwindow
    have hdest : bundle.destination = contactEndpoint report.window := by
      have heta : bundle.destination =
          ⟨bundle.destination.scheme, bundle.destination.ssp⟩ := rfl
      rw [heta, hscheme, hreport, contactEndpoint, hnode]
    have hwithin := hactive
    simp only [ContactWindow.isActive, decide_eq_true_eq] at hwithin
    rw [← hreport] at hwithin
    have hsent := hspec.complete report hr (hworked report hr).1 hwithin.2 (hworked report hr).2
      bundle hstored hdest
    obtain ⟨other, hother, hcall⟩ := List.mem_flatMap.mp hsent
    exact ⟨other, hother, _, mem_sentBundles.mp hcall, rfl⟩

end Planning

section PlanningScenarios

attribute [local instance] Sha256.transparent

/-- A bundle for dtn://earth is passed during the contact with Earth. -/
theorem isPassed_of_dtn_destination :
    IsPassed scriptedLink (nodeForEarth specimen) (.plain 200 0) specimen :=
  (@isPassed_iff_dtn _ _ scriptedLink (nodeForEarth specimen) (.plain 200 0) specimen 0
    specimenWindow (by decide +kernel) (by decide +kernel) List.mem_cons_self
    (by decide +kernel)).mpr rfl

/-- A bundle for ipn://earth, for which the planner finds the same contact, is not. -/
theorem not_isPassed_of_ipn_destination :
    ¬∀ (σ : Type) (A : ConvergenceLayerAdapter σ) (nc : NodeController σ) (input : CycleInput)
      (bundle : Bundle) (t0 : Int64) (w : ContactWindow),
      (∃ plan, nc.planner.plan = some plan ∧ plan.validate = none) →
      BundleProtocolAgent.validateBundle bundle input.currentTime = none →
      nc.planner.getNextContactByEndpoint bundle.destination t0 = some w →
      w.isActive input.currentTime = true → bundle ∈ nc.store.bundles →
      (∀ report ∈ (runCycle A nc input).2.contacts,
        report.openError = none ∧ ∀ call ∈ report.sends, call.err = none) →
      IsPassed A nc input bundle := by
  intro h
  have hpassed := h ScriptedLink scriptedLink
    (nodeForEarth { specimen with destination := ⟨ascii "ipn", ascii "earth"⟩ }) (.plain 200 0)
    { specimen with destination := ⟨ascii "ipn", ascii "earth"⟩ } 0 specimenWindow
    ⟨⟨0, 2000, [specimenWindow], [], none⟩, by decide +kernel, by decide +kernel⟩
    (by decide +kernel) (by decide +kernel) (by decide +kernel) List.mem_cons_self
    (by decide +kernel)
  unfold IsPassed at hpassed
  exact absurd hpassed (by decide +kernel)

end PlanningScenarios

end CislunarDtn.NodeDelivery
