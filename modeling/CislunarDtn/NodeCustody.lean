import CislunarDtn.NodeCycles
import CislunarDtn.CustodyLedgers

/-!
# Custody of stored bundles over runs of the node

Each cycle refines a custody ledger: the stored bundles after it are those
that settling its ledger leaves, and every release in the ledger is justified
by a successful send to the bundle's destination, by expiry, or by making
room after everything expired was gone. Along every run from an empty store
no bundle disappears otherwise, the byte counter stays exact, and nothing
expired survives a cycle.
-/

namespace CislunarDtn.NodeCustody

open KeyedMaps Bundles BundleStorage BundleAgents ContactPlans ConvergenceLayers NodeControllers
  NodeCycles StorageEvictions StorageAccounting LabelledRuns CustodyLedgers

/-- Why a bundle left the store. -/
inductive ReleaseReason where
  /-- It was sent in this contact. -/
  | sent (contactWindow : ContactWindow)
  /-- It had expired. -/
  | expired
  /-- It made room for an arriving bundle. -/
  | displaced
  deriving DecidableEq

/-- Releases of one contact: what was sent. -/
def contactLedger (report : ContactReport) : List (Movement Bundle ReleaseReason) :=
  (sentBundles report.sends).map fun b => .release b (.sent report.window)

/-- Movements of one reception: what made room, then what was kept. -/
def receptionLedger (currentTime : Int64) (bundle : Bundle) (reception : Reception) :
    List (Movement Bundle ReleaseReason) :=
  reception.evicted.map (fun b =>
    .release b (if b.isExpired currentTime then .expired else .displaced)) ++
  (kept bundle reception).toList.map Movement.enter

variable [Sha256] {σ : Type*} (A : ConvergenceLayerAdapter σ)

/-- The bundles a store holds. -/
def held (bs : BundleStore) : Set Bundle := {b | b ∈ bs.bundles}

/-- The custody ledger of a cycle. -/
def cycleLedger (nc : NodeController σ) (input : CycleInput) :
    List (Movement Bundle ReleaseReason) :=
  (afterContacts A nc input).2.flatMap contactLedger ++
  (match (afterReception A nc input).2 with
    | none => []
    | some (bundle, reception) => receptionLedger input.currentTime bundle reception) ++
  (expiredIn (afterReception A nc input).1.store input.expireOrder input.currentTime).map
    fun b => .release b .expired

/-- What justifies a release in a cycle. -/
def Justified (nc : NodeController σ) (input : CycleInput) (b : Bundle) : ReleaseReason → Prop
  | .sent w => w ∈ nc.planner.getActiveContacts input.currentTime ∧
      w.isActive input.currentTime = true ∧ b.destination = contactEndpoint w ∧
      ∃ report ∈ (runCycle A nc input).2.contacts, report.window = w ∧ ⟨b, none⟩ ∈ report.sends
  | .expired => b.isExpired input.currentTime = true
  | .displaced => ∃ bundle reception before after,
      (runCycle A nc input).2.reception = some (bundle, reception) ∧
      reception.evicted = before ++ b :: after ∧
      ∀ e ∈ (afterContacts A nc input).1.store.bundles, e.isExpired input.currentTime = true →
        e ∈ before

/-- Dropping stored bundles settles their releases. -/
theorem held_dropAll {bs : BundleStore} {l : List Bundle} (hl : ∀ a ∈ l, a ∈ bs.bundles)
    (reason : Bundle → ReleaseReason) :
    held (dropAll bs l) = settle (held bs) (l.map fun b => Movement.release b (reason b)) := by
  rw [settle_of_releases]
  · ext b
    simp only [held, Set.mem_ofPred_eq, Set.mem_sdiff, mem_dropAll hl, List.mem_map,
      Movement.release.injEq]
    refine and_congr_right fun _ => not_congr ?_
    constructor
    · intro hb
      exact ⟨reason b, b, hb, rfl, rfl⟩
    · intro h
      obtain ⟨_, a, ha, rfl, -⟩ := h
      exact ha
  · intro m hm
    obtain ⟨b, -, rfl⟩ := List.mem_map.mp hm
    exact ⟨b, reason b, rfl⟩

/-- Taking a bundle in under a fresh identifier settles its admission. -/
theorem held_put {bs : BundleStore} {b : Bundle} (h : bs.bundles.lookup b.hash = none) :
    held (bs.put b) = settle (held bs) [(Movement.enter b : Movement Bundle ReleaseReason)] := by
  ext c
  have hmem : c ∈ (bs.put b).bundles ↔ c = b ∨ c ∈ bs.bundles ∧ c.hash ≠ b.hash :=
    KeyedMap.mem_insert
  simp only [held, Set.mem_ofPred_eq, hmem, settle_cons, settle_nil, Movement.apply,
    Set.mem_insert_iff]
  refine or_congr_right ⟨fun hc => hc.1, fun hc => ⟨hc, ?_⟩⟩
  exact KeyedMap.lookup_eq_none_iff.mp h c hc

/-- Serving contacts settles their releases. -/
theorem held_afterContacts (nc : NodeController σ) (input : CycleInput) :
    held (afterContacts A nc input).1.store =
      settle (held nc.store) ((afterContacts A nc input).2.flatMap contactLedger) := by
  have hspec := afterContacts_spec A nc input
  rw [settle_of_releases, hspec.store]
  · ext b
    have hmem : b ∈ (dropAll nc.store (sentIn (afterContacts A nc input).2)).bundles ↔
        b ∈ nc.store.bundles ∧ b ∉ sentIn (afterContacts A nc input).2 :=
      mem_dropAll fun a ha => hspec.sent_mem ha
    simp only [held, Set.mem_ofPred_eq, Set.mem_sdiff, hmem]
    simp only [sentIn, List.mem_flatMap, contactLedger, List.mem_map, Movement.release.injEq]
    refine and_congr_right fun _ => not_congr ?_
    constructor
    · intro h
      obtain ⟨report, hr, hb⟩ := h
      exact ⟨.sent report.window, report, hr, b, hb, rfl, rfl⟩
    · intro h
      obtain ⟨_, report, hr, a, ha, rfl, -⟩ := h
      exact ⟨report, hr, ha⟩
  · intro m hm
    obtain ⟨report, -, hm⟩ := List.mem_flatMap.mp hm
    obtain ⟨b, -, rfl⟩ := List.mem_map.mp hm
    exact ⟨b, .sent report.window, rfl⟩

/-- Handling a received bundle settles its movements. -/
theorem held_handled {nc nc' : NodeController σ} {bundle : Bundle} {currentTime : Int64}
    {first second : IterationOrder Bundle} {reception : Reception}
    (h : Handled nc nc' bundle currentTime first second reception) :
    held nc'.store = settle (held nc.store) (receptionLedger currentTime bundle reception) := by
  have hdrop := held_dropAll (fun a ha => h.evicted_mem ha)
    fun b => if b.isExpired currentTime then ReleaseReason.expired else .displaced
  rw [receptionLedger, settle_append, ← hdrop]
  rcases h.store with ⟨hk, hs⟩ | ⟨b, hk, hnew, hs⟩
  · rw [hs, hk]
    rfl
  · rw [hs, hk, held_put hnew]
    rfl

/-- Refinement: a cycle settles its ledger. -/
theorem held_cycle (nc : NodeController σ) (input : CycleInput) :
    held (cycle A nc input).store = settle (held nc.store) (cycleLedger A nc input) := by
  have hexpired := held_dropAll (fun a (ha : a ∈ expiredIn (afterReception A nc input).1.store
    input.expireOrder input.currentTime) => (mem_expiredIn.mp ha).1) fun _ => .expired
  rw [cycle_store, hexpired, cycleLedger, settle_append, settle_append, ← held_afterContacts]
  congr 1
  rcases afterReception_spec A nc input with ⟨hnone, hs, -⟩ | ⟨bundle, reception, hsome, hh, -⟩
  · rw [hnone, hs]
    rfl
  · rw [hsome, held_handled hh]

/-- Every release in the ledger of a cycle is justified. -/
theorem justified_of_mem_cycleLedger {nc : NodeController σ} {input : CycleInput} {b : Bundle}
    {reason : ReleaseReason} (h : Movement.release b reason ∈ cycleLedger A nc input) :
    Justified A nc input b reason := by
  rcases List.mem_append.mp h with h | h
  · rcases List.mem_append.mp h with h | h
    · -- released by a contact: the report shows the send
      obtain ⟨report, hr, hm⟩ := List.mem_flatMap.mp h
      obtain ⟨a, ha, heq⟩ := List.mem_map.mp hm
      cases heq
      have hspec := afterContacts_spec A nc input
      have hcall := mem_sentBundles.mp ha
      have hactive : report.window ∈ nc.planner.getActiveContacts input.currentTime := by
        rw [← hspec.windows]
        exact List.mem_map_of_mem hr
      exact ⟨hactive, (ContactPlanManager.mem_getActiveContacts.mp hactive).2,
        (hspec.passed report hr _ hcall).2, report, hr, rfl, hcall⟩
    · rcases afterReception_spec A nc input with
        ⟨hnone, -, -⟩ | ⟨bundle, reception, hsome, hh, -⟩
      · rw [hnone] at h
        exact absurd h List.not_mem_nil
      · rw [hsome] at h
        rcases List.mem_append.mp h with h | h
        · obtain ⟨a, ha, heq⟩ := List.mem_map.mp h
          by_cases hexp : a.isExpired input.currentTime = true
          · rw [if_pos hexp] at heq
            cases heq
            exact hexp
          · rw [if_neg hexp] at heq
            cases heq
            -- an unexpired bundle makes room only behind all expired ones
            obtain ⟨before, after, hsplit⟩ := List.append_of_mem ha
            refine ⟨bundle, reception, before, after, hsome, hsplit, fun e he hee => ?_⟩
            rcases hh.evicted with hnil | hroom
            · rw [hnil] at ha
              exact absurd ha List.not_mem_nil
            · rw [hroom] at hsplit
              have hpre := expired_isPrefix_of_unexpired hsplit (Bool.not_eq_true _ ▸ hexp)
              exact hpre.subset (mem_expiredIn.mpr ⟨he, hee⟩)
        · obtain ⟨_, -, heq⟩ := List.mem_map.mp h
          cases heq
  · obtain ⟨a, ha, heq⟩ := List.mem_map.mp h
    cases heq
    exact (mem_expiredIn.mp ha).2

/-- What a cycle took in is in its ledger. -/
theorem enter_mem_cycleLedger {nc : NodeController σ} {input : CycleInput} {bundle b : Bundle}
    {reception : Reception} (h : (runCycle A nc input).2.reception = some (bundle, reception))
    (hk : kept bundle reception = some b) : Movement.enter b ∈ cycleLedger A nc input := by
  have hr : (afterReception A nc input).2 = some (bundle, reception) := h
  refine List.mem_append_left _ (List.mem_append_right _ ?_)
  rw [hr]
  refine List.mem_append_right _ ?_
  rw [hk]
  exact List.mem_map_of_mem (List.mem_singleton_self b)

/-- A cycle keeps the byte counter balanced. -/
theorem balanced_cycle {nc : NodeController σ} (h : Balanced nc.store) (input : CycleInput) :
    Balanced (cycle A nc input).store := by
  have hspec := afterContacts_spec A nc input
  have hcontacts : Balanced (afterContacts A nc input).1.store := by
    rw [hspec.store]
    exact h.dropAll (fun a ha => hspec.sent_mem ha) hspec.nodup
  have hreception : Balanced (afterReception A nc input).1.store := by
    rcases afterReception_spec A nc input with ⟨-, hs, -⟩ | ⟨bundle, reception, -, hh, -⟩
    · rw [hs]
      exact hcontacts
    · have hroom := hcontacts.dropAll (fun a ha => hh.evicted_mem ha) hh.evicted_nodup
      rcases hh.store with ⟨-, hs⟩ | ⟨b, -, hnew, hs⟩
      · rw [hs]
        exact hroom
      · rw [hs]
        exact hroom.put hnew
  rw [cycle_store]
  exact hreception.dropAll (fun a ha => (mem_expiredIn.mp ha).1) (nodup_expiredIn _ _ _)

/-- Nothing expired survives a cycle. -/
theorem not_isExpired_of_mem_cycle {nc : NodeController σ} {input : CycleInput} {b : Bundle}
    (h : b ∈ (cycle A nc input).store.bundles) : b.isExpired input.currentTime = false := by
  rw [cycle_store, mem_dropAll fun a ha => (mem_expiredIn.mp ha).1, mem_expiredIn] at h
  rw [← Bool.not_eq_true]
  exact fun hexp => h.2 ⟨h.1, hexp⟩

/-- What custody demands of one cycle. -/
structure CustodyKept (nc : NodeController σ) (input : CycleInput) : Prop where
  /-- A bundle stored before, or taken in on the way, and gone afterwards was
  released for a justified reason. -/
  released : ∀ b, (b ∈ nc.store.bundles ∨ ∃ bundle reception,
      (runCycle A nc input).2.reception = some (bundle, reception) ∧
      kept bundle reception = some b) →
    b ∉ (cycle A nc input).store.bundles → ∃ reason, Justified A nc input b reason
  /-- The store accounting holds after the cycle. -/
  integrity : ∀ order, (cycle A nc input).store.validateIntegrity order = none
  /-- No stored bundle is expired after the cycle. -/
  unexpired : ∀ b ∈ (cycle A nc input).store.bundles, b.isExpired input.currentTime = false

/-- One cycle from a balanced store keeps custody. -/
theorem custodyKept_of_balanced {nc : NodeController σ} (h : Balanced nc.store)
    (input : CycleInput) : CustodyKept A nc input := by
  refine ⟨fun b hin hout => ?_, fun order => ?_, fun b hb => not_isExpired_of_mem_cycle A hb⟩
  · have hmissing : b ∉ settle (held nc.store) (cycleLedger A nc input) := by
      rw [← held_cycle]
      exact hout
    have henter : b ∈ held nc.store ∨ Movement.enter b ∈ cycleLedger A nc input := by
      rcases hin with hin | ⟨bundle, reception, hr, hk⟩
      · exact Or.inl hin
      · exact Or.inr (enter_mem_cycleLedger A hr hk)
    obtain ⟨reason, hrel⟩ := released_of_missing henter hmissing
    exact ⟨reason, justified_of_mem_cycleLedger A hrel⟩
  · exact (validateIntegrity_eq_none_iff _ order).mpr (balanced_cycle A h input)

/-- Custody holds along every run of a node that starts with an empty store,
for any agent, plan, adapter and inputs. -/
theorem custody_along (bpa : BundleProtocolAgent) (maxBytes : Int64)
    (planner : ContactPlanManager) (cla : σ) (inputs : List CycleInput) :
    Along (cycle A) (CustodyKept A)
      (newNodeController bpa (newBundleStore maxBytes) planner cla) inputs := by
  have hstart : Balanced (newBundleStore maxBytes) := rfl
  exact @along_of_invariant _ _ (cycle A) (CustodyKept A) _ (fun nc => Balanced nc.store)
    (fun _ input h => balanced_cycle A h input)
    (fun _ input h => custodyKept_of_balanced A h input) hstart inputs

end CislunarDtn.NodeCustody
