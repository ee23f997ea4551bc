import CislunarDtn.NodeCycles

/-!
# Reception after the contacts of a cycle

Every contact closes the link when it ends, and the cycle receives after its
last contact. So what is pending on the link when a contact is active reaches
the receive path only if the last Close of the contacts failed and left the
link open.
-/

namespace CislunarDtn.NodeReception

open KeyedMaps Bundles BundleStorage BundleAgents ContactPlans ConvergenceLayers NodeControllers
  NodeCycles

/-- The last contact of a cycle whose Open succeeded. -/
def lastOpened (reports : List ContactReport) : Option ContactReport :=
  (reports.filter fun report => report.openError.isNone).getLast?

theorem lastOpened_cons_of_opened {report : ContactReport} (h : report.openError = none)
    (reports : List ContactReport) :
    lastOpened (report :: reports) = some ((lastOpened reports).getD report) := by
  unfold lastOpened
  rw [List.filter_cons_of_pos (by rw [h]; rfl), List.getLast?_cons]

theorem lastOpened_cons_of_missed {report : ContactReport} (h : report.openError ≠ none)
    (reports : List ContactReport) : lastOpened (report :: reports) = lastOpened reports := by
  unfold lastOpened
  rw [List.filter_cons_of_neg (by rwa [Option.isNone_iff_eq_none])]

/-- Some contact opened exactly when there is a last one that did. -/
theorem exists_opened_iff {reports : List ContactReport} :
    (∃ report ∈ reports, report.openError = none) ↔ lastOpened reports ≠ none := by
  unfold lastOpened
  rw [ne_eq, List.getLast?_eq_none_iff, List.filter_eq_nil_iff]
  simp only [Option.isNone_iff_eq_none, not_forall, not_not, exists_prop]

/-- The link after contacts: as the Close of the last opened one left it, or
as it was before them. -/
def LinkAfter (openBefore : Prop) (reports : List ContactReport) : Prop :=
  match lastOpened reports with
  | none => openBefore
  | some report => report.closeError ≠ none

section Reception

variable [Sha256] {σ : Type*} {A : ConvergenceLayerAdapter σ} (laws : LinkLaws A)

/-- Step: a missed contact leaves the link as it was, another leaves it open
exactly when its Close fails. -/
theorem isOpen_executeContactWindow (nc : NodeController σ) (contactWindow : ContactWindow)
    (currentTime : Int64) (order : IterationOrder Bundle) :
    laws.isOpen (executeContactWindow A nc contactWindow currentTime order).1.cla ↔
      LinkAfter (laws.isOpen nc.cla)
        [(executeContactWindow A nc contactWindow currentTime order).2] := by
  have hok := laws.open_of_ok nc.cla contactWindow
  have herr := laws.open_of_err nc.cla contactWindow
  unfold executeContactWindow
  cases ho : A.openLink nc.cla contactWindow with
  | mk cla result =>
    rw [ho] at hok herr
    cases result with
    | some err =>
      dsimp only
      rw [LinkAfter, lastOpened_cons_of_missed (Option.some_ne_none _)]
      exact herr (Option.some_ne_none err)
    | none =>
      dsimp only
      rw [LinkAfter, lastOpened_cons_of_opened rfl]
      dsimp only [lastOpened, List.filter_nil, List.getLast?_nil, Option.getD_none]
      have hopen : laws.isOpen (transmit A contactWindow currentTime
          (nc.store.listByDestination order (contactEndpoint contactWindow))
          ⟨nc.store, cla, nc.stats, []⟩).cla :=
        transmit_cla A (fun s b h => (laws.send_isOpen s b).mpr h) contactWindow currentTime _
          (hok rfl)
      generalize (transmit A contactWindow currentTime _ _).cla = s at hopen ⊢
      by_cases hc : (A.close s).2 = none
      · exact iff_of_false (laws.close_of_ok s hc) (not_not.mpr hc)
      · exact iff_of_true ((laws.close_of_err s hc).mpr hopen) hc

/-- Step: a contact loses nothing pending. -/
theorem pending_executeContactWindow (nc : NodeController σ) (contactWindow : ContactWindow)
    (currentTime : Int64) (order : IterationOrder Bundle) :
    laws.pending nc.cla <+:
      laws.pending (executeContactWindow A nc contactWindow currentTime order).1.cla := by
  have hopened := laws.pending_open nc.cla contactWindow
  unfold executeContactWindow
  cases ho : A.openLink nc.cla contactWindow with
  | mk cla result =>
    rw [ho] at hopened
    cases result with
    | some err => exact hopened
    | none =>
      have hsent : laws.pending nc.cla <+: laws.pending (transmit A contactWindow currentTime
          (nc.store.listByDestination order (contactEndpoint contactWindow))
          ⟨nc.store, cla, nc.stats, []⟩).cla :=
        @transmit_cla _ _ A (fun s => laws.pending nc.cla <+: laws.pending s)
          (fun s b h => h.trans (laws.pending_send s b)) contactWindow currentTime _ _ hopened
      exact hsent.trans (laws.pending_close _)

/-- Run: the link after all contacts of a cycle. -/
theorem isOpen_serveContacts (currentTime : Int64) (contacts : List ContactWindow)
    (orders : ℕ → IterationOrder Bundle) (nc : NodeController σ) :
    laws.isOpen (serveContacts A currentTime contacts orders nc).1.cla ↔
      LinkAfter (laws.isOpen nc.cla) (serveContacts A currentTime contacts orders nc).2 := by
  induction contacts generalizing orders nc with
  | nil => exact Iff.rfl
  | cons w contacts ih =>
    have hone := isOpen_executeContactWindow laws nc w currentTime (orders 0)
    rw [serveContacts]
    dsimp only
    rw [ih]
    generalize (serveContacts A currentTime contacts _ _).2 = reports
    generalize (executeContactWindow A nc w currentTime (orders 0)).2 = report at hone ⊢
    unfold LinkAfter at hone ⊢
    by_cases ho : report.openError = none
    · rw [lastOpened_cons_of_opened ho] at hone ⊢
      cases hl : lastOpened reports with
      | none => exact hone
      | some last => exact Iff.rfl
    · rw [lastOpened_cons_of_missed ho] at hone ⊢
      cases hl : lastOpened reports with
      | none => exact hone
      | some last => exact Iff.rfl

/-- Run: the contacts of a cycle lose nothing pending. -/
theorem pending_serveContacts (currentTime : Int64) (contacts : List ContactWindow)
    (orders : ℕ → IterationOrder Bundle) (nc : NodeController σ) :
    laws.pending nc.cla <+:
      laws.pending (serveContacts A currentTime contacts orders nc).1.cla := by
  induction contacts generalizing orders nc with
  | nil => exact List.prefix_rfl
  | cons w contacts ih =>
    exact (pending_executeContactWindow laws nc w currentTime (orders 0)).trans
      (ih _ (executeContactWindow A nc w currentTime (orders 0)).1)

/-- The bundle was handed to the receive path in this cycle. -/
def HandedOver (A : ConvergenceLayerAdapter σ) (nc : NodeController σ) (input : CycleInput)
    (bundle : Bundle) : Prop :=
  ∃ reception, (runCycle A nc input).2.reception = some (bundle, reception)

/-- In a cycle in which some contact opened, the next pending bundle is handed
to the receive path exactly when the last opened contact failed to close. -/
theorem handedOver_iff (nc : NodeController σ) (input : CycleInput) {bundle : Bundle}
    {rest : List Bundle} (hpending : laws.pending nc.cla = bundle :: rest)
    (hopened : ∃ report ∈ (runCycle A nc input).2.contacts, report.openError = none) :
    HandedOver A nc input bundle ↔
      ∃ report, lastOpened (runCycle A nc input).2.contacts = some report ∧
        report.closeError ≠ none := by
  have hlink : laws.isOpen (afterContacts A nc input).1.cla ↔
      LinkAfter (laws.isOpen nc.cla) (runCycle A nc input).2.contacts :=
    isOpen_serveContacts laws input.currentTime _ input.listOrders nc
  have hkept : laws.pending nc.cla <+: laws.pending (afterContacts A nc input).1.cla :=
    pending_serveContacts laws input.currentTime _ input.listOrders nc
  obtain ⟨last, hlast⟩ := Option.ne_none_iff_exists'.mp (exists_opened_iff.mp hopened)
  have hclose : (∃ report, lastOpened (runCycle A nc input).2.contacts = some report ∧
      report.closeError ≠ none) ↔ laws.isOpen (afterContacts A nc input).1.cla := by
    rw [hlink, LinkAfter, hlast]
    constructor
    · intro h
      obtain ⟨report, hr, hc⟩ := h
      cases hr
      exact hc
    · intro h
      exact ⟨last, rfl, h⟩
  rw [hclose]
  unfold HandedOver
  rw [runCycle_reception, afterReception]
  constructor
  · intro h
    obtain ⟨reception, hr⟩ := h
    by_contra hclosed
    obtain ⟨err, herr⟩ := laws.recv_of_not_open _ hclosed
    rcases receiveIncomingBundles_cases A (afterContacts A nc input).1 input with
      ⟨_, -, heq⟩ | ⟨other, hok, -⟩
    · rw [heq] at hr
      cases hr
    · rw [herr] at hok
      cases hok
  · intro hopen
    obtain ⟨more, hmore⟩ := hkept
    rw [hpending, List.cons_append] at hmore
    have hrecv := laws.recv_of_open _ bundle _ hopen hmore.symm
    rcases receiveIncomingBundles_cases A (afterContacts A nc input).1 input with
      ⟨err, herr, -⟩ | ⟨other, hok, heq⟩
    · rw [hrecv] at herr
      cases herr
    · rw [hrecv] at hok
      cases hok
      rw [heq]
      exact ⟨_, rfl⟩

end Reception

section Scenarios

attribute [local instance] Sha256.transparent

/-- A node in contact with Earth over a link with one pending bundle. -/
def linkedNode (closeFails : Bool) : NodeController ScriptedLink :=
  newNodeController (newBundleProtocolAgent []) (newBundleStore 1000)
    ContactPlanManager.specimenPlanner ⟨false, [specimen], closeFails⟩

/-- The report of a contact that passed nothing, with the error of its Close. -/
def idleContact (closeError : Option GoError) : ContactReport :=
  ⟨specimenWindow, none, [], closeError⟩

/-- A link that cannot be closed hands over what is pending. -/
theorem handedOver_of_failing_close :
    HandedOver scriptedLink (linkedNode true) (.plain 200 0) specimen :=
  (handedOver_iff scriptedLink_linkLaws _ _ rfl
    ⟨idleContact (some (.errorf (ascii "failed to stop streaming"))), by decide +kernel, rfl⟩).mpr
    ⟨idleContact (some (.errorf (ascii "failed to stop streaming"))), by decide +kernel,
      Option.some_ne_none _⟩

/-- An ordinary contact closes the link before the pending bundle is received. -/
theorem not_handedOver_of_closed_link :
    ¬∀ (σ : Type) (A : ConvergenceLayerAdapter σ) (laws : LinkLaws A) (nc : NodeController σ)
      (input : CycleInput) (bundle : Bundle) (rest : List Bundle),
      laws.pending nc.cla = bundle :: rest →
      (∃ report ∈ (runCycle A nc input).2.contacts, report.openError = none) →
      HandedOver A nc input bundle := by
  intro h
  obtain ⟨reception, hr⟩ := h ScriptedLink scriptedLink scriptedLink_linkLaws (linkedNode false)
    (.plain 200 0) specimen [] rfl ⟨idleContact none, by decide +kernel, rfl⟩
  have hnone : (runCycle scriptedLink (linkedNode false) (.plain 200 0)).2.reception.isNone =
      true := by decide +kernel
  rw [hr] at hnone
  cases hnone

end Scenarios

end CislunarDtn.NodeReception
