import CislunarDtn.NodeStatistics

/-!
# What one contact sends

A contact sends bundles for its node by descending priority, up to the first
one that fails. Those before it are deleted and counted, and nothing else is.
-/

namespace CislunarDtn.NodeTransmissions

open KeyedMaps Bundles BundleStorage ContactPlans ConvergenceLayers NodeControllers NodeCycles
  NodeStatistics StorageEvictions StorageAccounting

/-- The successful calls for some bundles. -/
def successes (bundles : List Bundle) : List SendCall := bundles.map fun bundle => ⟨bundle, none⟩

/-- The calls for listed bundles of which the first number succeeded, and the
next one failed if there was a call for it. -/
inductive SendsFirst (bundles : List Bundle) (number : ℕ) : List SendCall → Prop where
  | sent : SendsFirst bundles number (successes (bundles.take number))
  | failed (bundle : Bundle) (err : GoError) (h : bundles[number]? = some bundle) :
    SendsFirst bundles number (successes (bundles.take number) ++ [⟨bundle, some err⟩])

section calls

theorem sentBundles_successes (bundles : List Bundle) :
    sentBundles (successes bundles) = bundles := by
  have hall : (successes bundles).filter (fun call => call.err.isNone) = successes bundles := by
    refine List.filter_eq_self.mpr fun call hcall => ?_
    obtain ⟨bundle, -, rfl⟩ := List.mem_map.mp hcall
    rfl
  rw [sentBundles, hall, successes, List.map_map]
  exact List.map_id bundles

/-- The bundles sent are the first of those listed. -/
theorem SendsFirst.sentBundles_eq {bundles : List Bundle} {number : ℕ} {calls : List SendCall}
    (h : SendsFirst bundles number calls) : sentBundles calls = bundles.take number := by
  cases h with
  | sent => exact sentBundles_successes _
  | failed bundle err hnext =>
    have happend : sentBundles (successes (bundles.take number) ++ [⟨bundle, some err⟩]) =
        sentBundles (successes (bundles.take number)) ++ sentBundles [⟨bundle, some err⟩] := by
      simp only [sentBundles, List.filter_append, List.map_append]
    have hnone : sentBundles [⟨bundle, some err⟩] = [] := rfl
    rw [happend, hnone, List.append_nil, sentBundles_successes]

/-- A bundle sent before the others is the first of the calls. -/
theorem SendsFirst.cons {bundles : List Bundle} {number : ℕ} {calls : List SendCall}
    (bundle : Bundle) (h : SendsFirst bundles number calls) :
    SendsFirst (bundle :: bundles) (number + 1) (⟨bundle, none⟩ :: calls) := by
  cases h with
  | sent => exact .sent
  | failed other err hnext => exact .failed other err hnext

/-- Counting sent bundles moves two counters. -/
theorem foldl_countSent_eq (l : List Bundle) (stats : NodeControllers.NodeStatistics) :
    l.foldl NodeControllers.NodeStatistics.countSent stats =
      { stats with
        totalBundlesSent := stats.totalBundlesSent + Int64.ofInt l.length
        totalBytesSent := stats.totalBytesSent + Int64.ofInt (sumSize l) } := by
  induction l generalizing stats with
  | nil => simp [sumSize]
  | cons b l ih =>
    have hone : sumSize (b :: l) = b.size + sumSize l := by simp [sumSize]
    have hsize : b.size64 = Int64.ofInt b.size := (Int64.ofInt_eq_ofNat).symm
    have hnumber : (1 : Int64) = Int64.ofInt (1 : ℕ) := rfl
    rw [List.foldl_cons, ih, NodeControllers.NodeStatistics.countSent]
    simp only [hsize, hnumber, add_gains, hone, List.length_cons, Nat.add_comm 1]

end calls

section contacts

variable [Sha256] {σ : Type*} (A : ConvergenceLayerAdapter σ)

/-- The calls of the transmission loop: none after the end of the window, and
up to the first failure before it. -/
theorem transmit_sends (contactWindow : ContactWindow) (currentTime : Int64)
    (bundles : List Bundle) (st : Transmission σ) :
    ∃ number calls, (transmit A contactWindow currentTime bundles st).sends = st.sends ++ calls ∧
      number ≤ bundles.length ∧ SendsFirst bundles number calls ∧
      (currentTime ≥ contactWindow.endTime → calls = []) ∧
      (currentTime < contactWindow.endTime → calls = successes (bundles.take number) →
        number = bundles.length) := by
  induction bundles generalizing st with
  | nil => exact ⟨0, [], (List.append_nil _).symm, le_refl 0, .sent, fun _ => rfl, fun _ _ => rfl⟩
  | cons b bundles ih =>
    by_cases hend : currentTime ≥ contactWindow.endTime
    · rw [transmit_of_ended hend]
      exact ⟨0, [], (List.append_nil _).symm, Nat.zero_le _, .sent, fun _ => rfl,
        fun hlt _ => absurd hlt (Int64.not_lt.mpr hend)⟩
    · cases hs : A.sendBundle st.cla b with
      | mk cla result =>
        cases result with
        | some err =>
          rw [transmit_cons_of_failed hend hs]
          refine ⟨0, [⟨b, some err⟩], rfl, Nat.zero_le _, .failed b err rfl,
            fun h => absurd h hend, fun _ hcalls => ?_⟩
          exact absurd hcalls (List.cons_ne_nil _ _)
        | none =>
          obtain ⟨store, stats, hrest⟩ := transmit_cons_of_sent hend hs bundles
          obtain ⟨number, calls, hsends, hle, hfirst, -, hall⟩ :=
            ih ⟨store, cla, stats, st.sends ++ [⟨b, none⟩]⟩
          rw [hrest]
          refine ⟨number + 1, ⟨b, none⟩ :: calls, ?_, Nat.succ_le_succ hle, hfirst.cons b,
            fun h => absurd h hend, fun hlt hcalls => ?_⟩
          · rw [hsends, List.append_assoc]
            rfl
          · rw [List.length_cons, hall hlt (List.cons.inj hcalls).2]

/-- Bundles are listed by descending priority. -/
theorem pairwise_listByDestination (bs : BundleStore) (order : IterationOrder Bundle)
    (destination : EndpointID) :
    (bs.listByDestination order destination).Pairwise fun a b => b.priority ≤ a.priority := by
  have htotal : Std.Total fun a b : Bundle => b.priority ≤ a.priority :=
    ⟨fun a b => le_total b.priority a.priority⟩
  have htrans : IsTrans Bundle fun a b => b.priority ≤ a.priority :=
    ⟨fun a b c hab hbc => le_trans hbc hab⟩
  exact List.pairwise_insertionSort _ _

/-- The stored bundles for a contact, each once and by descending priority. -/
structure Listed (bs : BundleStore) (contactWindow : ContactWindow) (listed : List Bundle) :
    Prop where
  /-- No bundle is listed twice. -/
  nodup : listed.Nodup
  /-- Exactly the bundles for the contact's node are listed. -/
  mem : ∀ b, b ∈ listed ↔
    b ∈ bs.bundles ∧ b.destination = ⟨ascii "dtn", contactWindow.remoteNode⟩
  /-- No bundle is listed before one of higher priority. -/
  descending : listed.Pairwise fun a b => b.priority ≤ a.priority

/-- An opened contact that sends the first number of the listed bundles. -/
structure ServesFirst (nc nc' : NodeController σ) (contactWindow : ContactWindow)
    (currentTime : Int64) (calls : List SendCall) (listed : List Bundle) (number : ℕ) :
    Prop where
  /-- No more are sent than are listed. -/
  bound : number ≤ listed.length
  /-- Bundles are sent up to the first failure. -/
  sends : SendsFirst listed number calls
  /-- After the end of the window nothing is sent. -/
  ended : currentTime ≥ contactWindow.endTime → calls = []
  /-- Before it everything is sent unless a bundle fails. -/
  complete : currentTime < contactWindow.endTime →
    calls = successes (listed.take number) → number = listed.length
  /-- Exactly what was sent is deleted. -/
  deleted : ∀ b, b ∈ nc'.store.bundles ↔ b ∈ nc.store.bundles ∧ b ∉ listed.take number
  /-- What was sent is counted, and the contact. -/
  stats : nc'.stats =
    { nc.stats with
      totalBundlesSent := nc.stats.totalBundlesSent + Int64.ofInt number
      totalBytesSent := nc.stats.totalBytesSent + Int64.ofInt (sumSize (listed.take number))
      contactsCompleted := nc.stats.contactsCompleted + 1 }
  /-- The byte counter of the store keeps up. -/
  accounted : Accounted nc.store → Accounted nc'.store

/-- The laws of one contact: an opened one sends, a missed one is only counted. -/
structure ContactLaws (nc : NodeController σ) (contactWindow : ContactWindow)
    (currentTime : Int64) (order : IterationOrder Bundle) : Prop where
  /-- A contact that is not opened leaves the store and counts as missed. -/
  missed : (A.openLink nc.cla contactWindow).2 ≠ none →
    (executeContactWindow A nc contactWindow currentTime order).2.sends = [] ∧
    (executeContactWindow A nc contactWindow currentTime order).1.store = nc.store ∧
    (executeContactWindow A nc contactWindow currentTime order).1.stats =
      { nc.stats with contactsMissed := nc.stats.contactsMissed + 1 }
  /-- An opened one sends the first of the bundles for its node. -/
  opened : (A.openLink nc.cla contactWindow).2 = none → ∃ listed number,
    Listed nc.store contactWindow listed ∧
    ServesFirst nc (executeContactWindow A nc contactWindow currentTime order).1 contactWindow
      currentTime (executeContactWindow A nc contactWindow currentTime order).2.sends listed number

theorem listed_listByDestination (bs : BundleStore) (order : IterationOrder Bundle)
    (contactWindow : ContactWindow) :
    Listed bs contactWindow (bs.listByDestination order (contactEndpoint contactWindow)) :=
  ⟨nodup_listByDestination bs order _, fun _ => mem_listByDestination,
    pairwise_listByDestination bs order _⟩

/-- A contact that is not opened is only counted. -/
theorem executeContactWindow_of_missed {nc : NodeController σ} {contactWindow : ContactWindow}
    {cla : σ} {err : GoError} (h : A.openLink nc.cla contactWindow = (cla, some err))
    (currentTime : Int64) (order : IterationOrder Bundle) :
    executeContactWindow A nc contactWindow currentTime order =
      ({ nc with
          cla
          stats := { nc.stats with contactsMissed := nc.stats.contactsMissed + 1 } },
        ⟨contactWindow, some (err.wrap "failed to open link"), [], none⟩) := by
  simp only [executeContactWindow, h]

/-- An opened contact sends the first of the bundles that are listed for it. -/
theorem servesFirst_of_opened {nc : NodeController σ} {contactWindow : ContactWindow} {cla : σ}
    (h : A.openLink nc.cla contactWindow = (cla, none)) (currentTime : Int64)
    (order : IterationOrder Bundle) :
    ∃ number, ServesFirst nc (executeContactWindow A nc contactWindow currentTime order).1
      contactWindow currentTime (executeContactWindow A nc contactWindow currentTime order).2.sends
      (nc.store.listByDestination order (contactEndpoint contactWindow)) number := by
  have hserved := executeContactWindow_spec A nc contactWindow currentTime order
  have hlisted := listed_listByDestination nc.store order contactWindow
  have hopen : (executeContactWindow A nc contactWindow currentTime order).2.openError = none := by
    simp only [executeContactWindow, h]
  have hreport : (executeContactWindow A nc contactWindow currentTime order).2.sends =
      (transmit A contactWindow currentTime
        (nc.store.listByDestination order (contactEndpoint contactWindow))
        ⟨nc.store, cla, nc.stats, []⟩).sends := by
    simp only [executeContactWindow, h]
  generalize nc.store.listByDestination order (contactEndpoint contactWindow) = listed at *
  obtain ⟨number, calls, hsends, hle, hfirst, hended, hall⟩ :=
    transmit_sends A contactWindow currentTime listed ⟨nc.store, cla, nc.stats, []⟩
  rw [hsends, List.nil_append] at hreport
  have hsent := hfirst.sentBundles_eq
  have hstore := hserved.store
  have hstats := hserved.stats.2 hopen
  rw [hreport, hsent] at hstore hstats
  have hstored : ∀ b ∈ listed.take number, b ∈ nc.store.bundles :=
    fun b hb => ((hlisted.mem b).mp (List.mem_of_mem_take hb)).1
  have hdistinct : (listed.take number).Nodup :=
    hlisted.nodup.sublist (List.take_sublist number listed)
  have hlength : (listed.take number).length = number := by
    rw [List.length_take]
    omega
  refine ⟨number, ?_⟩
  rw [hreport]
  refine ⟨hle, hfirst, hended, hall, fun b => ?_, ?_, fun hacc => ?_⟩
  · rw [hstore]
    exact mem_dropAll hstored
  · rw [hstats, foldl_countSent_eq, hlength]
  · rw [hstore]
    exact hacc.dropAll hstored hdistinct

/-- Every contact keeps the laws, whatever the adapter does. -/
theorem contactLaws (nc : NodeController σ) (contactWindow : ContactWindow) (currentTime : Int64)
    (order : IterationOrder Bundle) : ContactLaws A nc contactWindow currentTime order := by
  cases ho : A.openLink nc.cla contactWindow with
  | mk cla result =>
    cases result with
    | some err =>
      refine ⟨fun _ => ?_, fun hok => ?_⟩
      · rw [executeContactWindow_of_missed A ho]
        exact ⟨rfl, rfl, rfl⟩
      · rw [ho] at hok
        cases hok
    | none =>
      refine ⟨fun hfailed => ?_, fun _ => ?_⟩
      · rw [ho] at hfailed
        exact absurd rfl hfailed
      · obtain ⟨number, hserves⟩ := servesFirst_of_opened A ho currentTime order
        exact ⟨_, number, listed_listByDestination nc.store order contactWindow, hserves⟩

end contacts

end CislunarDtn.NodeTransmissions
