import Mathlib.Algebra.Order.Group.Multiset
import Mathlib.Tactic.Abel
import CislunarDtn.NodeStatistics

/-!
# The health figures over runs of the node

HealthCheck computes the number of dropped bundles from three counters. The
history of a run records which data bundles were received, delivered and
sent; what is left of the received ones without the delivered, the sent and
the stored was lost. A cycle raises the figure by what it sent, what it
evicted and what it left lying, and not by what it refused or let expire, so
the figure is right exactly as long as the two balance.
-/

namespace CislunarDtn.NodeHealthChecks

open KeyedMaps Bundles BundleStorage BundleAgents ContactPlans ConvergenceLayers NodeControllers
  NodeCycles NodeAcceptances NodeStatistics StorageEvictions LabelledRuns WrappedInt64

/-- The data bundles of a list, counted with multiplicity. -/
def dataOf (l : List Bundle) : Multiset Bundle :=
  ↑(l.filter fun b => b.bundleType = BundleType.data)

@[simp]
theorem dataOf_nil : dataOf [] = 0 := rfl

theorem dataOf_append (l m : List Bundle) : dataOf (l ++ m) = dataOf l + dataOf m := by
  rw [dataOf, List.filter_append, ← Multiset.coe_add]
  rfl

theorem dataOf_perm {l m : List Bundle} (h : l.Perm m) : dataOf l = dataOf m :=
  Multiset.coe_eq_coe.mpr (h.filter _)

theorem dataOf_singleton_of_other {b : Bundle} (h : b.bundleType ≠ BundleType.data) :
    dataOf [b] = 0 := by
  unfold dataOf
  rw [List.filter_cons_of_neg (by rw [decide_eq_true_iff]; exact h)]
  rfl

theorem foldl_countSent_bundlesForwarded (l : List Bundle)
    (stats : NodeControllers.NodeStatistics) :
    (l.foldl NodeControllers.NodeStatistics.countSent stats).bundlesForwarded =
      stats.bundlesForwarded := by
  induction l generalizing stats with
  | nil => rfl
  | cons b l ih => exact ih (stats.countSent b)

/-- The bundle that a reception delivered, if any. -/
def deliveredBy (bundle : Bundle) (reception : Reception) : List Bundle :=
  match reception.outcome with
  | .ok .delivered => [bundle]
  | _ => []

section Cycles

variable [Sha256] {σ : Type*} (A : ConvergenceLayerAdapter σ)

/-- Bundles a cycle delivered. -/
def deliveredIn (nc : NodeController σ) (input : CycleInput) : List Bundle :=
  match (afterReception A nc input).2 with
  | none => []
  | some (bundle, reception) => deliveredBy bundle reception

/-- Bundles a cycle kept in the store. -/
def keptIn (nc : NodeController σ) (input : CycleInput) : List Bundle :=
  match (afterReception A nc input).2 with
  | none => []
  | some (bundle, reception) => (kept bundle reception).toList

/-- Bundles a cycle evicted to make room. -/
def evictedIn (nc : NodeController σ) (input : CycleInput) : List Bundle :=
  match (afterReception A nc input).2 with
  | none => []
  | some (_, reception) => reception.evicted

/-- Stored bundles that are expired when a cycle comes to its last step. -/
def expiringIn (nc : NodeController σ) (input : CycleInput) : List Bundle :=
  expiredIn (afterReception A nc input).1.store input.expireOrder input.currentTime

/-- The data bundle that a cycle received and did not admit, if any. -/
def refusedIn (nc : NodeController σ) (input : CycleInput) : List Bundle :=
  (arrival A nc input).toList.filter fun bundle =>
    decide (bundle.bundleType = BundleType.data ∧
      admitsData (afterContacts A nc input).1 bundle input = false)

/-- The bundle that a cycle received and neither treated as data nor answered, if any. -/
def idleIn (nc : NodeController σ) (input : CycleInput) : List Bundle :=
  (arrival A nc input).toList.filter fun bundle =>
    decide (bundle.bundleType ≠ BundleType.data ∧
      ¬(bundle.bundleType = BundleType.pingRequest ∧
        answersPing (afterContacts A nc input).1 bundle input.now = true))

/-- What a reception does to the stored bundles. -/
theorem perm_afterReception (nc : NodeController σ) (input : CycleInput) :
    (keptIn A nc input ++ (afterContacts A nc input).1.store.bundles.values).Perm
      (evictedIn A nc input ++ (afterReception A nc input).1.store.bundles.values) := by
  unfold keptIn evictedIn
  rcases afterReception_spec A nc input with ⟨hnone, hs, -⟩ | ⟨bundle, reception, hr, hh, -⟩
  · rw [hnone, hs]
  · have hroom := perm_append_dropAll (fun a ha => hh.evicted_mem ha) hh.evicted_nodup
    rw [hr]
    dsimp only
    rcases hh.store with ⟨hk, hs⟩ | ⟨b, hk, hnew, hs⟩
    · rw [hk, hs]
      exact hroom
    · have hvalues : ((dropAll (afterContacts A nc input).1.store reception.evicted).put
          b).bundles.values =
          b :: (dropAll (afterContacts A nc input).1.store reception.evicted).bundles.values :=
        KeyedMap.values_insert_of_none hnew
      rw [hk, hs, hvalues]
      exact (hroom.cons b).trans List.perm_middle.symm

/-- What a cycle does to the stored bundles: what was stored or kept is sent,
evicted, expired or stored afterwards. -/
theorem perm_cycle (nc : NodeController σ) (input : CycleInput) :
    (keptIn A nc input ++ nc.store.bundles.values).Perm
      (sentIn (afterContacts A nc input).2 ++ (evictedIn A nc input ++
        (expiringIn A nc input ++ (cycle A nc input).store.bundles.values))) := by
  have hspec := afterContacts_spec A nc input
  have hcontacts := perm_append_dropAll (fun a ha => hspec.sent_mem ha) hspec.nodup
  rw [← hspec.store] at hcontacts
  have hreception := perm_afterReception A nc input
  have hexpiry := perm_append_dropAll (fun a ha => (mem_expiredIn.mp ha).1)
    (nodup_expiredIn (afterReception A nc input).1.store input.expireOrder input.currentTime)
  rw [← cycle_store] at hexpiry
  have hfirst := hcontacts.append_left (keptIn A nc input)
  have hswap := List.perm_append_comm_assoc (keptIn A nc input)
    (sentIn (afterContacts A nc input).2) (afterContacts A nc input).1.store.bundles.values
  have hrest := hreception.trans (hexpiry.append_left (evictedIn A nc input))
  exact hfirst.trans (hswap.trans (hrest.append_left _))

/-- Where the arrival of a cycle goes. -/
structure ArrivalAccount (nc : NodeController σ) (input : CycleInput) : Prop where
  /-- A data bundle is delivered, kept or refused. -/
  data : dataOf (arrival A nc input).toList =
    dataOf (deliveredIn A nc input) + dataOf (keptIn A nc input) + dataOf (refusedIn A nc input)
  /-- What is counted is delivered, put into the store or left lying. -/
  counted : arrivalsCounted A nc input =
    (deliveredIn A nc input).length + (keptIn A nc input).length + (idleIn A nc input).length

theorem arrivalAccount (nc : NodeController σ) (input : CycleInput) :
    ArrivalAccount A nc input := by
  rcases afterReception_disposed A nc input with
    ⟨harrival, hnone⟩ | ⟨bundle, reception, harrival, hr, hdisposed⟩
  · constructor
    · simp [deliveredIn, keptIn, refusedIn, harrival, hnone]
    · simp [arrivalsCounted, deliveredIn, keptIn, idleIn, harrival, hnone]
  · have hpingData : BundleType.pingRequest ≠ BundleType.data := by decide
    have hresponseData : BundleType.pingResponse ≠ BundleType.data := by decide
    have hdataPing : BundleType.data ≠ BundleType.pingRequest := by decide
    cases hdisposed with
    | refused taken err hdata hadmits =>
      constructor
      · simp [deliveredIn, deliveredBy, keptIn, kept, refusedIn, harrival, hr, hdata, hadmits]
      · simp [arrivalsCounted, staysCounted, deliveredIn, deliveredBy, keptIn, kept, idleIn,
          harrival, hr, hdata, hadmits]
    | delivered hdata hadmits hlocal =>
      constructor
      · simp [deliveredIn, deliveredBy, keptIn, kept, refusedIn, harrival, hr, hdata, hadmits]
      · simp [arrivalsCounted, staysCounted, deliveredIn, deliveredBy, keptIn, kept, idleIn,
          harrival, hr, hdata, hadmits]
    | stored taken hdata hadmits hremote =>
      constructor
      · simp [deliveredIn, deliveredBy, keptIn, kept, refusedIn, harrival, hr, hdata, hadmits]
      · simp [arrivalsCounted, staysCounted, deliveredIn, deliveredBy, keptIn, kept, idleIn,
          harrival, hr, hdata, hadmits]
    | answered response hping hanswers htype hdest hsource =>
      have hrequest := dataOf_singleton_of_other (hping ▸ hpingData)
      constructor
      · simp [deliveredIn, deliveredBy, keptIn, kept, refusedIn, harrival, hr, hping, hpingData,
          hrequest, dataOf_singleton_of_other (htype ▸ hresponseData)]
      · simp [arrivalsCounted, staysCounted, deliveredIn, deliveredBy, keptIn, kept, idleIn,
          harrival, hr, hping, hanswers, hpingData]
    | unanswered err hping hanswers =>
      have hrequest := dataOf_singleton_of_other (hping ▸ hpingData)
      constructor
      · simp [deliveredIn, deliveredBy, keptIn, kept, refusedIn, harrival, hr, hping, hpingData,
          hrequest]
      · simp [arrivalsCounted, staysCounted, deliveredIn, deliveredBy, keptIn, kept, idleIn,
          harrival, hr, hping, hanswers, hpingData]
    | noted hdata hping =>
      constructor
      · simp [deliveredIn, deliveredBy, keptIn, kept, refusedIn, harrival, hr, hdata,
          dataOf_singleton_of_other hdata]
      · simp [arrivalsCounted, staysCounted, deliveredIn, deliveredBy, keptIn, kept, idleIn,
          harrival, hr, hdata, hping]

/-- Serving contacts delivers nothing locally. -/
theorem forwarded_serveContacts (currentTime : Int64) (contacts : List ContactWindow)
    (orders : ℕ → IterationOrder Bundle) (nc : NodeController σ) :
    (serveContacts A currentTime contacts orders nc).1.stats.bundlesForwarded =
      nc.stats.bundlesForwarded := by
  induction contacts generalizing orders nc with
  | nil => rfl
  | cons w contacts ih =>
    have hserved := (executeContactWindow_spec A nc w currentTime (orders 0)).stats
    have hone : (executeContactWindow A nc w currentTime (orders 0)).1.stats.bundlesForwarded =
        nc.stats.bundlesForwarded := by
      by_cases ho : (executeContactWindow A nc w currentTime (orders 0)).2.openError = none
      · rw [hserved.2 ho]
        exact foldl_countSent_bundlesForwarded _ nc.stats
      · rw [(hserved.1 ho).2]
    exact (ih (fun k => orders (k + 1)) _).trans hone

/-- Handling a bundle counts its delivery. -/
theorem forwarded_handleBundle (nc : NodeController σ) (bundle : Bundle) (input : CycleInput) :
    (handleBundle nc bundle input).1.stats.bundlesForwarded = nc.stats.bundlesForwarded +
      Int64.ofInt (deliveredBy bundle (handleBundle nc bundle input).2).length := by
  unfold handleBundle
  split
  · unfold answerPing
    split
    · simp [deliveredBy]
    · split <;> simp [deliveredBy]
  · split
    · rcases processIncomingBundle_cases nc bundle input.currentTime input.firstOrder
        input.secondOrder with ⟨_, _, -, heq⟩ | heq | ⟨_, -, -, heq⟩
      · simp [heq, deliveredBy, Reception.wrapError, NodeController.uncount, Except.mapError]
      · simp [heq, deliveredBy, Reception.wrapError, Except.mapError]
      · simp [heq, deliveredBy, Reception.wrapError, Except.mapError]
    · simp [deliveredBy]

/-- A cycle counts its delivery. -/
theorem forwarded_cycle (nc : NodeController σ) (input : CycleInput) :
    (cycle A nc input).stats.bundlesForwarded =
      nc.stats.bundlesForwarded + Int64.ofInt (deliveredIn A nc input).length := by
  have hcontacts : (afterContacts A nc input).1.stats.bundlesForwarded =
      nc.stats.bundlesForwarded :=
    forwarded_serveContacts A input.currentTime _ input.listOrders nc
  have hreception : (afterReception A nc input).1.stats.bundlesForwarded =
      nc.stats.bundlesForwarded + Int64.ofInt (deliveredIn A nc input).length := by
    unfold deliveredIn
    rcases afterReception_cases A nc input with
      ⟨-, hnone, hnode⟩ | ⟨bundle, -, node, hnode, heq⟩
    · rw [hnone, hnode]
      simp [hcontacts]
    · have hhandled := forwarded_handleBundle node bundle input
      have hbefore : node.stats.bundlesForwarded = nc.stats.bundlesForwarded := by
        rw [hnode]
        exact hcontacts
      rw [heq, hhandled, hbefore]
  rw [cycle_stats]
  split
  · exact hreception
  · exact hreception

/-- What a cycle adds to the number of dropped bundles: what it sent, evicted
or left lying. -/
def raisedBy (nc : NodeController σ) (input : CycleInput) : ℕ :=
  (sentIn (afterContacts A nc input).2).length + (evictedIn A nc input).length +
    (idleIn A nc input).length

theorem bundlesDropped_cycle (nc : NodeController σ) (input : CycleInput) :
    (healthCheck (cycle A nc input)).bundlesDropped =
      (healthCheck nc).bundlesDropped + Int64.ofInt (raisedBy A nc input) := by
  have hreceived := (cycle_counts A nc input).received
  have hforwarded := forwarded_cycle A nc input
  have hcounted := (arrivalAccount A nc input).counted
  have hsize := (perm_cycle A nc input).length_eq
  have hexpired : expiredCount A nc input = (expiringIn A nc input).length := rfl
  simp only [List.length_append] at hsize
  have hwords : Int64.ofInt (((keptIn A nc input).length +
      nc.store.bundles.values.length : ℕ) : ℤ) =
      Int64.ofInt (((sentIn (afterContacts A nc input).2).length +
        ((evictedIn A nc input).length + ((expiringIn A nc input).length +
          (cycle A nc input).store.bundles.values.length)) : ℕ) : ℤ) := by
    rw [hsize]
  unfold healthCheck BundleStore.capacity KeyedMap.size raisedBy
  dsimp only
  rw [hreceived, hforwarded, hcounted, hexpired]
  simp only [Nat.cast_add, Int64.ofInt_add, Int64.ofInt_eq_ofNat] at hwords ⊢
  grind

/-- Bundles lost in a cycle: refused, evicted or expired data bundles. -/
def lostIn (nc : NodeController σ) (input : CycleInput) : Multiset Bundle :=
  dataOf (refusedIn A nc input) + dataOf (evictedIn A nc input) +
    dataOf (expiringIn A nc input)

/-- Conservation: the data bundles received in a cycle or stored before it are
delivered, sent, stored after it or lost. -/
theorem conservation (nc : NodeController σ) (input : CycleInput) :
    dataOf (arrival A nc input).toList + dataOf nc.store.bundles.values =
      dataOf (deliveredIn A nc input) + dataOf (sentIn (afterContacts A nc input).2) +
        dataOf (cycle A nc input).store.bundles.values + lostIn A nc input := by
  have harrival := (arrivalAccount A nc input).data
  have hstored := dataOf_perm (perm_cycle A nc input)
  simp only [dataOf_append] at hstored
  calc dataOf (arrival A nc input).toList + dataOf nc.store.bundles.values
      = dataOf (deliveredIn A nc input) + dataOf (refusedIn A nc input) +
          (dataOf (keptIn A nc input) + dataOf nc.store.bundles.values) := by
        rw [harrival]
        abel
    _ = dataOf (deliveredIn A nc input) + dataOf (sentIn (afterContacts A nc input).2) +
          dataOf (cycle A nc input).store.bundles.values + lostIn A nc input := by
        rw [hstored, lostIn]
        abel


/-- A node and the data bundles it received, delivered and sent so far. -/
structure History (σ : Type*) where
  /-- The node. -/
  node : NodeController σ
  /-- Data bundles received. -/
  received : Multiset Bundle
  /-- Data bundles delivered locally. -/
  delivered : Multiset Bundle
  /-- Data bundles sent to a next hop. -/
  sent : Multiset Bundle

/-- The history of a node that has not run yet. -/
def History.start (nc : NodeController σ) : History σ := ⟨nc, 0, 0, 0⟩

/-- One more cycle of the node. -/
def recordCycle (s : History σ) (input : CycleInput) : History σ where
  node := cycle A s.node input
  received := s.received + dataOf (arrival A s.node input).toList
  delivered := s.delivered + dataOf (deliveredIn A s.node input)
  sent := s.sent + dataOf (sentIn (afterContacts A s.node input).2)

/-- Data bundles received so far that were neither delivered nor sent nor are
still stored. -/
def History.lost (s : History σ) : Multiset Bundle :=
  s.received - (s.delivered + s.sent + dataOf s.node.store.bundles.values)

/-- The number of dropped bundles that HealthCheck reports is right. -/
def ReportsLost (s : History σ) : Prop :=
  (healthCheck s.node).bundlesDropped.toInt = Multiset.card s.lost

instance (s : History σ) : Decidable (ReportsLost s) :=
  inferInstanceAs (Decidable ((healthCheck s.node).bundlesDropped.toInt = Multiset.card s.lost))

/-- What was delivered or sent or is stored was received. -/
def Conserved (s : History σ) : Prop :=
  s.delivered + s.sent + dataOf s.node.store.bundles.values ≤ s.received

/-- A cycle conserves data bundles and loses exactly those lost in it. -/
theorem Conserved.recordCycle {s : History σ} (h : Conserved s) (input : CycleInput) :
    Conserved (recordCycle A s input) ∧
      (recordCycle A s input).lost = s.lost + lostIn A s.node input := by
  have hsplit : s.received =
      s.delivered + s.sent + dataOf s.node.store.bundles.values + s.lost :=
    (add_tsub_cancel_of_le h).symm
  have hnext : (NodeHealthChecks.recordCycle A s input).received =
      (NodeHealthChecks.recordCycle A s input).delivered +
        (NodeHealthChecks.recordCycle A s input).sent +
        dataOf (NodeHealthChecks.recordCycle A s input).node.store.bundles.values +
        (s.lost + lostIn A s.node input) := by
    have hconserved := conservation A s.node input
    calc s.received + dataOf (arrival A s.node input).toList
        = s.delivered + s.sent + s.lost +
            (dataOf (arrival A s.node input).toList + dataOf s.node.store.bundles.values) := by
          rw [hsplit]
          abel
      _ = (s.delivered + dataOf (deliveredIn A s.node input)) +
            (s.sent + dataOf (sentIn (afterContacts A s.node input).2)) +
            dataOf (cycle A s.node input).store.bundles.values +
            (s.lost + lostIn A s.node input) := by
          rw [hconserved]
          abel
  constructor
  · unfold Conserved
    rw [hnext]
    exact Multiset.le_add_right _ _
  · rw [History.lost, hnext, add_tsub_cancel_left]

/-- Bundles that raise the figure in a cycle though they are not lost: what was
sent, evicted ping responses, and arrivals left lying. -/
def overcounted (nc : NodeController σ) (input : CycleInput) : ℕ :=
  (sentIn (afterContacts A nc input).2).length +
    ((evictedIn A nc input).filter fun b => b.bundleType ≠ BundleType.data).length +
    (idleIn A nc input).length

/-- Bundles lost in a cycle that do not raise the figure: refused and expired
data bundles. -/
def undercounted (nc : NodeController σ) (input : CycleInput) : ℕ :=
  (refusedIn A nc input).length +
    ((expiringIn A nc input).filter fun b => b.bundleType = BundleType.data).length

/-- The figure neither overcounts nor undercounts in this cycle, as 64-bit
words, and what was lost so far fits into one. -/
structure FigureBalanced (s : History σ) (input : CycleInput) : Prop where
  /-- What is wrongly counted balances what is wrongly left out. -/
  balanced : Int64.ofInt (overcounted A s.node input) = Int64.ofInt (undercounted A s.node input)
  /-- The number of lost bundles is representable. -/
  representable : Multiset.card s.lost + Multiset.card (lostIn A s.node input) < 2 ^ 63

/-- The figure rises by what was lost, and by what is overcounted less what is
undercounted. -/
theorem raisedBy_balance (nc : NodeController σ) (input : CycleInput) :
    raisedBy A nc input + undercounted A nc input =
      Multiset.card (lostIn A nc input) + overcounted A nc input := by
  have hrefused : Multiset.card (dataOf (refusedIn A nc input)) =
      (refusedIn A nc input).length := by
    unfold dataOf
    rw [Multiset.coe_card, List.filter_eq_self.mpr]
    intro b hb
    have hadmission := List.of_mem_filter hb
    rw [decide_eq_true_iff] at hadmission ⊢
    exact hadmission.1
  have hevicted : (evictedIn A nc input).length = Multiset.card (dataOf (evictedIn A nc input)) +
      ((evictedIn A nc input).filter fun b => b.bundleType ≠ BundleType.data).length := by
    have hsplit := List.length_eq_length_filter_add (l := evictedIn A nc input)
      fun b => decide (b.bundleType = BundleType.data)
    simp only [← decide_not] at hsplit
    exact hsplit
  have hexpiring : Multiset.card (dataOf (expiringIn A nc input)) =
      ((expiringIn A nc input).filter fun b => b.bundleType = BundleType.data).length := rfl
  unfold raisedBy undercounted overcounted lostIn
  rw [Multiset.card_add, Multiset.card_add]
  omega

/-- A right figure stays right in a cycle exactly when it is balanced. -/
theorem reportsLost_recordCycle_iff {s : History σ} (hconserved : Conserved s)
    (h : ReportsLost s) (input : CycleInput) :
    ReportsLost (recordCycle A s input) ↔ FigureBalanced A s input := by
  have hfigure := bundlesDropped_cycle A s.node input
  have hbalance := raisedBy_balance A s.node input
  have hlost := (hconserved.recordCycle A input).2
  have hiff := @toInt_eq_iff_of_gain _ _ (Multiset.card s.lost) (raisedBy A s.node input)
    (Multiset.card (lostIn A s.node input)) hfigure h
  have hwords : Int64.ofInt (raisedBy A s.node input) =
      Int64.ofInt (Multiset.card (lostIn A s.node input)) ↔
      Int64.ofInt (overcounted A s.node input) = Int64.ofInt (undercounted A s.node input) := by
    have hcast := congrArg (fun k : ℕ => Int64.ofInt k) hbalance
    simp only [Nat.cast_add, Int64.ofInt_add] at hcast
    constructor <;> intro heq <;> grind
  unfold ReportsLost
  rw [hlost, Multiset.card_add]
  constructor
  · intro hright
    obtain ⟨hsame, hrange⟩ := hiff.mp hright
    exact ⟨hwords.mp hsame, hrange⟩
  · intro hfits
    exact hiff.mpr ⟨hwords.mpr hfits.balanced, hfits.representable⟩

/-- The history of a new node with an empty store is conserved along every run. -/
theorem conserved_run (bpa : BundleProtocolAgent) (maxBytes : Int64)
    (planner : ContactPlanManager) (cla : σ) (inputs : List CycleInput) :
    Conserved (run (recordCycle A) (History.start
      (newNodeController bpa (newBundleStore maxBytes) planner cla)) inputs) := by
  have hstart : Conserved (History.start
      (newNodeController bpa (newBundleStore maxBytes) planner cla)) := le_refl 0
  exact run_invariant (fun s input h => (h.recordCycle A input).1) hstart inputs

/-- A new node reports no dropped bundles exactly when its store counts none. -/
theorem reportsLost_start_iff (bpa : BundleProtocolAgent) (bs : BundleStore)
    (planner : ContactPlanManager) (cla : σ) :
    ReportsLost (History.start (newNodeController bpa bs planner cla)) ↔
      Int64.ofNat bs.bundles.size = 0 := by
  have hlost : (History.start (newNodeController bpa bs planner cla)).lost = 0 :=
    Multiset.zero_sub _
  have hfigure : (healthCheck (newNodeController bpa bs planner cla)).bundlesDropped =
      0 - Int64.ofNat bs.bundles.size := by
    change (0 : Int64) - 0 - Int64.ofNat bs.bundles.size = _
    grind
  unfold ReportsLost
  rw [hlost, Multiset.card_zero]
  change (healthCheck (newNodeController bpa bs planner cla)).bundlesDropped.toInt = _ ↔ _
  rw [hfigure]
  constructor
  · intro h
    have hzero : 0 - Int64.ofNat bs.bundles.size = 0 := Int64.toInt.inj h
    grind
  · intro h
    rw [h]
    rfl

/-- A new node reports no dropped bundles exactly when its store is empty, up
to the word size; and from an empty store the figure is right throughout a run
exactly when it is balanced in every cycle. -/
theorem reportsLost_iff (bpa : BundleProtocolAgent) (planner : ContactPlanManager) (cla : σ)
    (maxBytes : Int64) (inputs : List CycleInput) :
    (∀ bs, ReportsLost (History.start (newNodeController bpa bs planner cla)) ↔
      Int64.ofNat bs.bundles.size = 0) ∧
    ((∀ first, first <+: inputs → ReportsLost (run (recordCycle A) (History.start
        (newNodeController bpa (newBundleStore maxBytes) planner cla)) first)) ↔
      Along (recordCycle A) (FigureBalanced A) (History.start
        (newNodeController bpa (newBundleStore maxBytes) planner cla)) inputs) := by
  constructor
  · intro bs
    exact reportsLost_start_iff bpa bs planner cla
  · have hstep : ∀ s input, Conserved s ∧ ReportsLost s → True →
        (Conserved (recordCycle A s input) ∧ ReportsLost (recordCycle A s input) ↔
          FigureBalanced A s input) := by
      intro s input h _
      rw [reportsLost_recordCycle_iff A h.1 h.2]
      exact and_iff_right (h.1.recordCycle A input).1
    have hconserved := conserved_run A bpa maxBytes planner cla
    have hstart := (reportsLost_start_iff bpa (newBundleStore maxBytes) planner cla).mpr rfl
    have hinv : Conserved (History.start
        (newNodeController bpa (newBundleStore maxBytes) planner cla)) ∧ ReportsLost (History.start
        (newNodeController bpa (newBundleStore maxBytes) planner cla)) := ⟨hconserved [], hstart⟩
    rw [← forall_prefix_iff_along hstep (along_true inputs) hinv]
    constructor
    · intro h first hfirst
      exact ⟨hconserved first, h first hfirst⟩
    · intro h first hfirst
      exact (h first hfirst).2

end Cycles

section Scenarios

attribute [local instance] Sha256.transparent

/-- A bundle that is received and delivered locally is not reported as dropped. -/
theorem reportsLost_of_delivery :
    ∀ first, first <+: [CycleInput.plain 200 0, .plain 300 0] →
      ReportsLost (run (recordCycle bufferedLink) (History.start (nodeOfMars [specimenForMars]))
        first) := by
  refine (reportsLost_iff bufferedLink (newBundleProtocolAgent [⟨ascii "dtn", ascii "mars"⟩])
    ContactPlanManager.specimenPlanner [specimenForMars] 1000
    [CycleInput.plain 200 0, .plain 300 0]).2.mpr ⟨⟨?_, ?_⟩, ⟨?_, ?_⟩, trivial⟩
  all_goals decide +kernel

/-- A bundle received at second 200 and sent in the contact of second 300 is
reported as dropped. -/
theorem not_reportsLost_of_sent_bundle :
    ¬∀ (σ : Type) (A : ConvergenceLayerAdapter σ) (bpa : BundleProtocolAgent)
      (maxBytes : Int64) (planner : ContactPlanManager) (cla : σ) (inputs : List CycleInput),
      ReportsLost (run (recordCycle A) (History.start
        (newNodeController bpa (newBundleStore maxBytes) planner cla)) inputs) := by
  intro h
  exact absurd (h (List Bundle) bufferedLink
    (newBundleProtocolAgent [⟨ascii "dtn", ascii "mars"⟩]) 1000
    ContactPlanManager.specimenPlanner [specimen] [.plain 200 0, .plain 300 0])
    (by decide +kernel)

end Scenarios

end CislunarDtn.NodeHealthChecks
