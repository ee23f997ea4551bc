import CislunarDtn.NodeAcceptances

/-!
# The cumulative counters over runs of the node

Sent bundles and bytes are only ever added. The count of received bundles is
taken back once for a refused data bundle, which is harmless since it was
just added, and once for every bundle that expires, counted or not. As long
as no counter overflows, the counters therefore grow in a cycle exactly when
no more bundles expire in it than it counted.
-/

namespace CislunarDtn.NodeStatistics

open KeyedMaps Bundles BundleStorage BundleAgents ContactPlans ConvergenceLayers NodeControllers
  NodeCycles NodeAcceptances StorageEvictions LabelledRuns WrappedInt64

/-- A counter is not negative afterwards and has not decreased. -/
def Grows (old new : Int64) : Prop := 0 ≤ new ∧ old ≤ new

/-- A counter that starts nonnegative and stays in range grows exactly when it
gains no less than it loses. -/
theorem grows_iff {old new : Int64} {gain loss : ℕ}
    (hnew : new = old + Int64.ofInt gain - Int64.ofNat loss) (hold : 0 ≤ old)
    (hgain : old.toInt + gain < 2 ^ 63) (hloss : loss < 2 ^ 63) :
    Grows old new ↔ loss ≤ gain := by
  have hpos := nonneg_iff.mp hold
  have hg : (Int64.ofInt gain).toInt = gain :=
    toInt_eq_of_eq_ofInt rfl (by omega) (by omega)
  have hl : (Int64.ofNat loss).toInt = loss := Int64.toInt_ofNat_of_lt hloss
  have hsum : (old + Int64.ofInt gain).toInt = old.toInt + gain := by
    rw [toInt_add_of_range] <;> omega
  have hexact : new.toInt = old.toInt + gain - loss := by
    rw [hnew, toInt_sub_of_range] <;> omega
  unfold Grows
  rw [nonneg_iff, Int64.le_iff_toInt_le]
  omega

/-- A counter that starts nonnegative and gains an amount in range grows. -/
theorem grows_of_gain {old new : Int64} {gain : ℕ} (hnew : new = old + Int64.ofInt gain)
    (hold : 0 ≤ old) (hgain : old.toInt + gain < 2 ^ 63) : Grows old new := by
  refine (grows_iff ?_ hold hgain (by decide)).mpr (Nat.zero_le gain)
  rw [hnew]
  simp

/-- Gains of a counter add up. -/
theorem add_gains (old : Int64) (m n : ℕ) :
    old + Int64.ofInt m + Int64.ofInt n = old + Int64.ofInt ((m + n : ℕ) : ℤ) := by
  rw [Nat.cast_add, Int64.ofInt_add, Int64.add_assoc]

/-- The counters after counting sent bundles: only those of sending move, by
the number and the bytes of the bundles. -/
structure CountsSent (stats stats' : NodeControllers.NodeStatistics) (l : List Bundle) :
    Prop where
  /-- Received bundles are not touched. -/
  received : stats'.totalBundlesReceived = stats.totalBundlesReceived
  /-- Received bytes are not touched. -/
  bytesReceived : stats'.totalBytesReceived = stats.totalBytesReceived
  /-- Every sent bundle is counted. -/
  sent : stats'.totalBundlesSent = stats.totalBundlesSent + Int64.ofInt l.length
  /-- Every sent byte is counted. -/
  bytesSent : stats'.totalBytesSent = stats.totalBytesSent + Int64.ofInt (sumSize l)

theorem CountsSent.nil (stats : NodeControllers.NodeStatistics) : CountsSent stats stats [] :=
  ⟨rfl, rfl, by simp, by simp [sumSize]⟩

theorem CountsSent.append {stats stats' stats'' : NodeControllers.NodeStatistics}
    {l m : List Bundle} (hl : CountsSent stats stats' l) (hm : CountsSent stats' stats'' m) :
    CountsSent stats stats'' (l ++ m) := by
  refine ⟨hm.received.trans hl.received, hm.bytesReceived.trans hl.bytesReceived, ?_, ?_⟩
  · rw [hm.sent, hl.sent, add_gains, List.length_append]
  · rw [hm.bytesSent, hl.bytesSent, add_gains, sumSize_append]

theorem countsSent_foldl (l : List Bundle) (stats : NodeControllers.NodeStatistics) :
    CountsSent stats (l.foldl NodeControllers.NodeStatistics.countSent stats) l := by
  induction l generalizing stats with
  | nil => exact CountsSent.nil stats
  | cons b l ih =>
    have hone : CountsSent stats (stats.countSent b) [b] := by
      refine ⟨rfl, rfl, rfl, ?_⟩
      simp only [sumSize, List.map_cons, List.map_nil, List.sum_cons, List.sum_nil,
        Nat.add_zero, Int64.ofInt_eq_ofNat]
      rfl
    exact hone.append (ih (stats.countSent b))

section Cycles

variable [Sha256] {σ : Type*} (A : ConvergenceLayerAdapter σ)

/-- Serving contacts counts what was sent in them. -/
theorem countsSent_serveContacts (currentTime : Int64) (contacts : List ContactWindow)
    (orders : ℕ → IterationOrder Bundle) (nc : NodeController σ) :
    CountsSent nc.stats (serveContacts A currentTime contacts orders nc).1.stats
      (sentIn (serveContacts A currentTime contacts orders nc).2) := by
  induction contacts generalizing orders nc with
  | nil => exact CountsSent.nil nc.stats
  | cons w contacts ih =>
    have hserved := executeContactWindow_spec A nc w currentTime (orders 0)
    have hone : CountsSent nc.stats
        (executeContactWindow A nc w currentTime (orders 0)).1.stats
        (sentBundles (executeContactWindow A nc w currentTime (orders 0)).2.sends) := by
      by_cases ho : (executeContactWindow A nc w currentTime (orders 0)).2.openError = none
      · have hcount := countsSent_foldl
          (sentBundles (executeContactWindow A nc w currentTime (orders 0)).2.sends) nc.stats
        rw [hserved.stats.2 ho]
        exact ⟨hcount.received, hcount.bytesReceived, hcount.sent, hcount.bytesSent⟩
      · obtain ⟨hsends, hstats⟩ := hserved.stats.1 ho
        rw [hsends, hstats]
        have hnil := CountsSent.nil nc.stats
        exact ⟨hnil.received, hnil.bytesReceived, hnil.sent, hnil.bytesSent⟩
    exact hone.append (ih (fun k => orders (k + 1)) _)

/-- The counters after processing a received bundle. -/
structure CountsHandled (stats stats' : NodeControllers.NodeStatistics) (counted : Bool) :
    Prop where
  /-- The count is taken back unless it stays. -/
  received : stats'.totalBundlesReceived =
    if counted then stats.totalBundlesReceived else stats.totalBundlesReceived - 1
  /-- Received bytes are not touched. -/
  bytesReceived : stats'.totalBytesReceived = stats.totalBytesReceived
  /-- Sent bundles are not touched. -/
  sent : stats'.totalBundlesSent = stats.totalBundlesSent
  /-- Sent bytes are not touched. -/
  bytesSent : stats'.totalBytesSent = stats.totalBytesSent

theorem countsHandled_processIncomingBundle (nc : NodeController σ) (bundle : Bundle)
    (currentTime : Int64) (first second : IterationOrder Bundle) :
    CountsHandled nc.stats (processIncomingBundle nc bundle currentTime first second).1.stats
      (processIncomingBundle nc bundle currentTime first second).2.outcome.isOk := by
  rcases processIncomingBundle_cases nc bundle currentTime first second with
    ⟨_, _, -, heq⟩ | heq | ⟨_, -, -, heq⟩
  · rw [heq]
    exact ⟨rfl, rfl, rfl, rfl⟩
  · rw [heq]
    exact ⟨rfl, rfl, rfl, rfl⟩
  · rw [heq]
    exact ⟨rfl, rfl, rfl, rfl⟩

/-- Whether a received bundle stays counted: refused data bundles do not. -/
def staysCounted (nc : NodeController σ) (bundle : Bundle) (input : CycleInput) : Bool :=
  !decide (bundle.bundleType = BundleType.data) || admitsData nc bundle input

theorem countsHandled_handleBundle (nc : NodeController σ) (bundle : Bundle)
    (input : CycleInput) :
    CountsHandled nc.stats (handleBundle nc bundle input).1.stats
      (staysCounted nc bundle input) := by
  unfold handleBundle staysCounted
  by_cases hping : bundle.bundleType = BundleType.pingRequest
  · have hdata : bundle.bundleType ≠ BundleType.data := by
      rw [hping]
      decide
    have hstats : (answerPing nc bundle input.now).1.stats = nc.stats := by
      unfold answerPing
      split
      · rfl
      · split <;> rfl
    rw [if_pos hping, hstats, decide_eq_false hdata]
    exact ⟨rfl, rfl, rfl, rfl⟩
  · rw [if_neg hping]
    by_cases hdata : bundle.bundleType = BundleType.data
    · rw [if_pos hdata, decide_eq_true hdata, Bool.not_true, Bool.false_or,
        ← (accepted_processIncomingBundle nc bundle input).2]
      exact countsHandled_processIncomingBundle nc bundle _ _ _
    · rw [if_neg hdata, decide_eq_false hdata]
      exact ⟨rfl, rfl, rfl, rfl⟩

/-- Bytes of the bundle received in a cycle. -/
def arrivedBytes (nc : NodeController σ) (input : CycleInput) : ℕ :=
  match arrival A nc input with
  | none => 0
  | some bundle => bundle.size

/-- Number of bundles a cycle counts as received and does not take back. -/
def arrivalsCounted (nc : NodeController σ) (input : CycleInput) : ℕ :=
  match arrival A nc input with
  | none => 0
  | some bundle => if staysCounted (afterContacts A nc input).1 bundle input then 1 else 0

/-- Number of stored bundles expired when the cycle comes to its last step. -/
def expiredCount (nc : NodeController σ) (input : CycleInput) : ℕ :=
  (expiredIn (afterReception A nc input).1.store input.expireOrder input.currentTime).length

/-- The counters after a cycle: exact gains, and the loss of what expired. -/
structure CycleCounts (nc : NodeController σ) (input : CycleInput)
    (stats' : NodeControllers.NodeStatistics) : Prop where
  /-- Counted arrivals are added and expired bundles taken off. -/
  received : stats'.totalBundlesReceived = nc.stats.totalBundlesReceived +
    Int64.ofInt (arrivalsCounted A nc input) - Int64.ofNat (expiredCount A nc input)
  /-- The bytes of the arrival are added. -/
  bytesReceived : stats'.totalBytesReceived =
    nc.stats.totalBytesReceived + Int64.ofInt (arrivedBytes A nc input)
  /-- Sent bundles are added. -/
  sent : stats'.totalBundlesSent =
    nc.stats.totalBundlesSent + Int64.ofInt (sentIn (afterContacts A nc input).2).length
  /-- Sent bytes are added. -/
  bytesSent : stats'.totalBytesSent =
    nc.stats.totalBytesSent + Int64.ofInt (sumSize (sentIn (afterContacts A nc input).2))

/-- The counters after the reception of a cycle, before expiry. -/
theorem counts_afterReception (nc : NodeController σ) (input : CycleInput) :
    (afterReception A nc input).1.stats.totalBundlesReceived =
      nc.stats.totalBundlesReceived + Int64.ofInt (arrivalsCounted A nc input) ∧
    (afterReception A nc input).1.stats.totalBytesReceived =
      nc.stats.totalBytesReceived + Int64.ofInt (arrivedBytes A nc input) ∧
    (afterReception A nc input).1.stats.totalBundlesSent =
      (afterContacts A nc input).1.stats.totalBundlesSent ∧
    (afterReception A nc input).1.stats.totalBytesSent =
      (afterContacts A nc input).1.stats.totalBytesSent := by
  have hcontacts : CountsSent nc.stats (afterContacts A nc input).1.stats
      (sentIn (afterContacts A nc input).2) :=
    countsSent_serveContacts A input.currentTime _ input.listOrders nc
  unfold arrivalsCounted arrivedBytes
  rcases afterReception_cases A nc input with
    ⟨harrival, -, hnode⟩ | ⟨bundle, harrival, node, hnode, heq⟩
  · rw [hnode, harrival]
    dsimp only
    rw [hcontacts.received, hcontacts.bytesReceived]
    refine ⟨?_, ?_, rfl, rfl⟩ <;> simp
  · have hhandled := countsHandled_handleBundle node bundle input
    have hcounted : staysCounted node bundle input =
        staysCounted (afterContacts A nc input).1 bundle input := by
      rw [hnode]
      rfl
    have hreceived : node.stats.totalBundlesReceived =
        (afterContacts A nc input).1.stats.totalBundlesReceived + 1 := by
      rw [hnode]
      rfl
    have hbytes : node.stats.totalBytesReceived =
        (afterContacts A nc input).1.stats.totalBytesReceived + bundle.size64 := by
      rw [hnode]
      rfl
    rw [heq, harrival]
    dsimp only
    rw [hhandled.received, hhandled.bytesReceived, hhandled.sent, hhandled.bytesSent, hcounted,
      hreceived, hbytes, hcontacts.received, hcontacts.bytesReceived, hnode]
    refine ⟨?_, ?_, rfl, rfl⟩
    · split
      · rfl
      · rw [Int64.add_sub_cancel]
        simp
    · rw [Int64.ofInt_eq_ofNat]
      rfl

/-- The last step of a cycle takes what expired off the received bundles. -/
theorem cycle_stats (nc : NodeController σ) (input : CycleInput) :
    (cycle A nc input).stats =
      if expiredCount A nc input > 0 then
        { (afterReception A nc input).1.stats with
          totalBundlesReceived := (afterReception A nc input).1.stats.totalBundlesReceived -
            Int64.ofNat (expiredCount A nc input) }
      else (afterReception A nc input).1.stats := by
  unfold cycle runCycle expiredCount
  simp only [evictExpired_eq]

theorem cycle_counts (nc : NodeController σ) (input : CycleInput) :
    CycleCounts A nc input (cycle A nc input).stats := by
  have hcontacts : CountsSent nc.stats (afterContacts A nc input).1.stats
      (sentIn (afterContacts A nc input).2) :=
    countsSent_serveContacts A input.currentTime _ input.listOrders nc
  obtain ⟨hreceived, hbytes, hsent, hsentBytes⟩ := counts_afterReception A nc input
  rw [cycle_stats]
  by_cases hexpired : expiredCount A nc input > 0
  · rw [if_pos hexpired]
    refine ⟨?_, hbytes, hsent.trans hcontacts.sent, hsentBytes.trans hcontacts.bytesSent⟩
    dsimp only
    rw [hreceived]
  · have hzero : expiredCount A nc input = 0 := by omega
    rw [if_neg hexpired]
    refine ⟨?_, hbytes, hsent.trans hcontacts.sent, hsentBytes.trans hcontacts.bytesSent⟩
    rw [hreceived, hzero]
    simp

/-- No counter of the node is negative. -/
structure CountersNonneg (stats : NodeControllers.NodeStatistics) : Prop where
  /-- Bundles received. -/
  received : 0 ≤ stats.totalBundlesReceived
  /-- Bytes received. -/
  bytesReceived : 0 ≤ stats.totalBytesReceived
  /-- Bundles sent. -/
  sent : 0 ≤ stats.totalBundlesSent
  /-- Bytes sent. -/
  bytesSent : 0 ≤ stats.totalBytesSent

/-- The four cumulative counters grow in a cycle. -/
structure CountersGrow (nc : NodeController σ) (input : CycleInput) : Prop where
  /-- Bundles received. -/
  received : Grows nc.stats.totalBundlesReceived (cycle A nc input).stats.totalBundlesReceived
  /-- Bytes received. -/
  bytesReceived : Grows nc.stats.totalBytesReceived (cycle A nc input).stats.totalBytesReceived
  /-- Bundles sent. -/
  sent : Grows nc.stats.totalBundlesSent (cycle A nc input).stats.totalBundlesSent
  /-- Bytes sent. -/
  bytesSent : Grows nc.stats.totalBytesSent (cycle A nc input).stats.totalBytesSent

/-- What a cycle adds to and takes off the counters fits into 64 bits. -/
structure CountersInRange (nc : NodeController σ) (input : CycleInput) : Prop where
  /-- Bundles received. -/
  received : nc.stats.totalBundlesReceived.toInt + arrivalsCounted A nc input < 2 ^ 63
  /-- Bundles expired. -/
  expired : expiredCount A nc input < 2 ^ 63
  /-- Bytes received. -/
  bytesReceived : nc.stats.totalBytesReceived.toInt + arrivedBytes A nc input < 2 ^ 63
  /-- Bundles sent. -/
  sent : nc.stats.totalBundlesSent.toInt + (sentIn (afterContacts A nc input).2).length < 2 ^ 63
  /-- Bytes sent. -/
  bytesSent :
    nc.stats.totalBytesSent.toInt + sumSize (sentIn (afterContacts A nc input).2) < 2 ^ 63

/-- No more bundles are expired at the end of a cycle than it counted as received. -/
def ExpiryCounted (nc : NodeController σ) (input : CycleInput) : Prop :=
  expiredCount A nc input ≤ arrivalsCounted A nc input

instance (nc : NodeController σ) (input : CycleInput) : Decidable (ExpiryCounted A nc input) :=
  inferInstanceAs (Decidable (expiredCount A nc input ≤ arrivalsCounted A nc input))

/-- In range, the counters grow in a cycle exactly when its expiry is counted. -/
theorem countersGrow_iff {nc : NodeController σ} {input : CycleInput}
    (hpos : CountersNonneg nc.stats) (hrange : CountersInRange A nc input) :
    CountersGrow A nc input ↔ ExpiryCounted A nc input := by
  have hcounts := cycle_counts A nc input
  have hreceived := grows_iff hcounts.received hpos.received hrange.received hrange.expired
  constructor
  · intro h
    exact hreceived.mp h.received
  · intro h
    exact ⟨hreceived.mpr h,
      grows_of_gain hcounts.bytesReceived hpos.bytesReceived hrange.bytesReceived,
      grows_of_gain hcounts.sent hpos.sent hrange.sent,
      grows_of_gain hcounts.bytesSent hpos.bytesSent hrange.bytesSent⟩

theorem CountersGrow.nonneg {nc : NodeController σ} {input : CycleInput}
    (h : CountersGrow A nc input) : CountersNonneg (cycle A nc input).stats :=
  ⟨h.received.1, h.bytesReceived.1, h.sent.1, h.bytesSent.1⟩

/-- Along a run of a new node whose counters stay in range, they grow in every
cycle exactly when every cycle counts at least what expires in it. -/
theorem countersGrow_along (bpa : BundleProtocolAgent) (store : BundleStore)
    (planner : ContactPlanManager) (cla : σ) (inputs : List CycleInput) :
    (Along (cycle A) (fun nc input => CountersInRange A nc input ∧ ExpiryCounted A nc input)
        (newNodeController bpa store planner cla) inputs →
      Along (cycle A) (CountersGrow A) (newNodeController bpa store planner cla) inputs) ∧
    (Along (cycle A) (CountersInRange A) (newNodeController bpa store planner cla) inputs →
      Along (cycle A) (CountersGrow A) (newNodeController bpa store planner cla) inputs →
      Along (cycle A) (ExpiryCounted A) (newNodeController bpa store planner cla) inputs) := by
  have hstart : CountersNonneg (newNodeController bpa store planner cla).stats :=
    ⟨Int64.le_refl 0, Int64.le_refl 0, Int64.le_refl 0, Int64.le_refl 0⟩
  have hiff : Along (cycle A) (CountersInRange A) (newNodeController bpa store planner cla) inputs →
      (Along (cycle A) (CountersGrow A) (newNodeController bpa store planner cla) inputs ↔
        Along (cycle A) (ExpiryCounted A) (newNodeController bpa store planner cla) inputs) :=
    fun hrange => @along_iff_along _ _ (cycle A) _ _ (ExpiryCounted A) (CountersInRange A)
      (fun nc => CountersNonneg nc.stats)
      (fun _ _ hpos hr => countersGrow_iff A hpos hr) (fun _ _ _ _ h => h.nonneg A)
      inputs hrange hstart
  constructor
  · intro h
    have hrange := h.mono fun _ _ hboth => hboth.1
    have hexpiry := h.mono fun _ _ hboth => hboth.2
    exact (hiff hrange).mpr hexpiry
  · intro hrange hgrow
    exact (hiff hrange).mp hgrow

end Cycles

section Scenarios

attribute [local instance] Sha256.transparent

/-- A node in contact with Earth over a link that cannot be closed, on which a
bundle for Mars with a lifetime of 300 seconds is pending. -/
def nodeAwaitingShortLived : NodeController ScriptedLink :=
  newNodeController (newBundleProtocolAgent []) (newBundleStore 1000)
    ContactPlanManager.specimenPlanner
    ⟨false, [{ specimen with destination := ⟨ascii "dtn", ascii "mars"⟩, lifetime := 300 }], true⟩

/-- Receiving the bundle and keeping it until second 300 counts it once. -/
theorem countersGrow_while_living :
    Along (cycle scriptedLink) (CountersGrow scriptedLink) nodeAwaitingShortLived
      [.plain 200 0, .plain 300 0] := by
  refine (countersGrow_along scriptedLink _ _ _ _ _).1 ⟨⟨⟨?_, ?_, ?_, ?_, ?_⟩, ?_⟩,
    ⟨⟨?_, ?_, ?_, ?_, ?_⟩, ?_⟩, trivial⟩
  all_goals decide +kernel

/-- Once it expires, the count of received bundles falls from 1 to 0. -/
theorem not_countersGrow_of_expiry :
    ¬∀ (σ : Type) (A : ConvergenceLayerAdapter σ) (bpa : BundleProtocolAgent)
      (maxBytes : Int64) (planner : ContactPlanManager) (cla : σ) (inputs : List CycleInput),
      Along (cycle A) (CountersGrow A)
        (newNodeController bpa (newBundleStore maxBytes) planner cla) inputs := by
  intro h
  have hsecond := (h ScriptedLink scriptedLink (newBundleProtocolAgent []) 1000
    ContactPlanManager.specimenPlanner nodeAwaitingShortLived.cla
    [.plain 200 0, .plain 500 0]).2.1.received
  unfold Grows at hsecond
  exact absurd hsecond (by decide +kernel)

end Scenarios

end CislunarDtn.NodeStatistics
