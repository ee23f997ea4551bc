import CislunarDtn.NodeControllers
import CislunarDtn.StorageAccounting

/-!
# What one cycle does to the store

One specification for each function of the controller: transmission and
contacts drop what was sent, a reception drops what it evicted and takes in
at most one bundle, expiry drops what is expired. Later results cite these
and never unfold the controller.
-/

namespace CislunarDtn.NodeCycles

open KeyedMaps Bundles BundleStorage BundleAgents ContactPlans ConvergenceLayers NodeControllers
  StorageEvictions StorageAccounting

/-- A bundle was sent exactly when a call with it succeeded. -/
theorem mem_sentBundles {calls : List SendCall} {bundle : Bundle} :
    bundle ∈ sentBundles calls ↔ ⟨bundle, none⟩ ∈ calls := by
  simp only [sentBundles, List.mem_map, List.mem_filter, Option.isNone_iff_eq_none]
  constructor
  · intro h
    obtain ⟨call, ⟨hmem, herr⟩, hb⟩ := h
    cases call
    cases hb
    cases herr
    exact hmem
  · intro h
    exact ⟨⟨bundle, none⟩, ⟨h, rfl⟩, rfl⟩

/-- What was sent is among what was passed, in order. -/
theorem sentBundles_sublist (calls : List SendCall) :
    (sentBundles calls).Sublist (calls.map SendCall.bundle) :=
  (List.filter_sublist).map SendCall.bundle

theorem foldl_countSent_contactsCompleted (l : List Bundle) (stats : NodeStatistics) :
    (l.foldl NodeStatistics.countSent stats).contactsCompleted = stats.contactsCompleted := by
  induction l generalizing stats with
  | nil => rfl
  | cons b l ih => exact ih (stats.countSent b)

variable [Sha256] {σ : Type*} (A : ConvergenceLayerAdapter σ)

/-- The bundles listed for an endpoint are the stored ones destined to it. -/
theorem mem_listByDestination {bs : BundleStore} {order : IterationOrder Bundle}
    {destination : EndpointID} {b : Bundle} :
    b ∈ bs.listByDestination order destination ↔
      b ∈ bs.bundles ∧ b.destination = destination := by
  have hdest : (b.destination.scheme = destination.scheme ∧
      b.destination.ssp = destination.ssp) ↔ b.destination = destination := by
    constructor
    · intro h
      cases hb : b.destination
      cases hd : destination
      simp only [hb, hd] at h
      rw [h.1, h.2]
    · intro h
      rw [h]
      exact ⟨rfl, rfl⟩
  rw [BundleStore.listByDestination, sortHighestFirst, (List.perm_insertionSort _ _).mem_iff,
    List.mem_filter, order.mem_arrange, decide_eq_true_iff, hdest, KeyedMap.mem_def]

theorem nodup_listByDestination (bs : BundleStore) (order : IterationOrder Bundle)
    (destination : EndpointID) : (bs.listByDestination order destination).Nodup :=
  (List.perm_insertionSort _ _).nodup_iff.mpr ((KeyedMap.nodup_arrange bs.bundles order).filter _)

/-- Outcome of the transmission loop over listed bundles. -/
structure Transmitted (contactWindow : ContactWindow) (currentTime : Int64)
    (bundles : List Bundle) (st st' : Transmission σ) (calls : List SendCall) : Prop where
  /-- These calls were added. -/
  sends : st'.sends = st.sends ++ calls
  /-- Bundles were passed in the listed order, without gaps. -/
  listed : calls.map SendCall.bundle <+: bundles
  /-- What was sent was dropped. -/
  store : st'.store = dropAll st.store (sentBundles calls)
  /-- What was sent was counted. -/
  stats : st'.stats = (sentBundles calls).foldl NodeStatistics.countSent st.stats
  /-- Within the window and without failures, everything listed was passed. -/
  complete : currentTime < contactWindow.endTime → (∀ call ∈ calls, call.err = none) →
    calls.map SendCall.bundle = bundles

/-- The transmission loop, over distinct stored bundles. -/
theorem transmit_spec (contactWindow : ContactWindow) (currentTime : Int64)
    {bundles : List Bundle} {st : Transmission σ} (hmem : ∀ b ∈ bundles, b ∈ st.store.bundles)
    (hn : bundles.Nodup) :
    ∃ calls, Transmitted contactWindow currentTime bundles st
      (transmit A contactWindow currentTime bundles st) calls := by
  induction bundles generalizing st with
  | nil => exact ⟨[], by simp [transmit], List.prefix_rfl, rfl, rfl, fun _ _ => rfl⟩
  | cons b bundles ih =>
    by_cases hend : currentTime ≥ contactWindow.endTime
    · rw [transmit_of_ended hend]
      refine ⟨[], (List.append_nil _).symm, List.nil_prefix, rfl, rfl, fun hlt => ?_⟩
      exact absurd hlt (Int64.not_lt.mpr hend)
    · cases hs : A.sendBundle st.cla b with
      | mk cla result =>
        cases result with
        | some err =>
          rw [transmit_cons_of_failed hend hs]
          refine ⟨[⟨b, some err⟩], rfl, List.prefix_append [b] bundles, rfl, rfl, fun _ hok => ?_⟩
          have herr := hok ⟨b, some err⟩ List.mem_cons_self
          cases herr
        | none =>
          have hdel := delete_of_mem (hmem b List.mem_cons_self)
          have hnext : transmit A contactWindow currentTime (b :: bundles) st =
              transmit A contactWindow currentTime bundles
                ⟨st.store.drop b, cla, st.stats.countSent b, st.sends ++ [⟨b, none⟩]⟩ := by
            rw [transmit, if_neg hend, hs]
            simp only [hdel]
          obtain ⟨hb, hn⟩ := List.nodup_cons.mp hn
          have hstay : ∀ c ∈ bundles, c ∈ (st.store.drop b).bundles := by
            intro c hc
            refine (mem_drop (hmem b List.mem_cons_self)).mpr
              ⟨hmem c (List.mem_cons_of_mem b hc), fun hcb => hb ?_⟩
            rw [← hcb]
            exact hc
          obtain ⟨calls, hsends, hlisted, hstore, hstats, hall⟩ := @ih
            ⟨st.store.drop b, cla, st.stats.countSent b, st.sends ++ [⟨b, none⟩]⟩ hstay hn
          rw [hnext]
          refine ⟨⟨b, none⟩ :: calls, ?_, ?_, hstore, hstats, fun hlt hok => ?_⟩
          · rw [hsends, List.append_assoc]
            rfl
          · exact List.cons_prefix_cons.mpr ⟨rfl, hlisted⟩
          · rw [List.map_cons, hall hlt fun c hc => hok c (List.mem_cons_of_mem _ hc)]

/-- A property of the adapter that sending keeps is kept by the transmission loop. -/
theorem transmit_cla {P : σ → Prop} (hsend : ∀ s b, P s → P (A.sendBundle s b).1)
    (contactWindow : ContactWindow) (currentTime : Int64) (bundles : List Bundle)
    {st : Transmission σ} (h : P st.cla) :
    P (transmit A contactWindow currentTime bundles st).cla := by
  induction bundles generalizing st with
  | nil => exact h
  | cons b bundles ih =>
    by_cases hend : currentTime ≥ contactWindow.endTime
    · rw [transmit_of_ended hend]
      exact h
    · have hnext := hsend st.cla b h
      cases hs : A.sendBundle st.cla b with
      | mk cla result =>
        rw [hs] at hnext
        cases result with
        | some err =>
          rw [transmit_cons_of_failed hend hs]
          exact hnext
        | none =>
          obtain ⟨store, stats, hrest⟩ := transmit_cons_of_sent hend hs bundles
          rw [hrest]
          exact ih hnext

/-- Outcome of one contact. -/
structure Served (nc nc' : NodeController σ) (currentTime : Int64)
    (contactWindow : ContactWindow) (report : ContactReport) : Prop where
  /-- The report is about this window. -/
  window : report.window = contactWindow
  /-- What was passed was stored and destined to the contact's endpoint. -/
  passed : ∀ call ∈ report.sends, call.bundle ∈ nc.store.bundles ∧
    call.bundle.destination = contactEndpoint contactWindow
  /-- No bundle was passed twice. -/
  nodup : (report.sends.map SendCall.bundle).Nodup
  /-- What was sent was dropped. -/
  store : nc'.store = dropAll nc.store (sentBundles report.sends)
  /-- The agent was not involved. -/
  bpa : nc'.bpa = nc.bpa
  /-- The plan was not changed. -/
  planner : nc'.planner = nc.planner
  /-- A missed contact passes nothing and counts as missed; another counts what it sent. -/
  stats : (report.openError ≠ none → report.sends = [] ∧
      nc'.stats = { nc.stats with contactsMissed := nc.stats.contactsMissed + 1 }) ∧
    (report.openError = none →
      nc'.stats = { (sentBundles report.sends).foldl NodeStatistics.countSent nc.stats with
        contactsCompleted := nc.stats.contactsCompleted + 1 })
  /-- An opened contact without failures passes everything destined to its endpoint. -/
  complete : report.openError = none → currentTime < contactWindow.endTime →
    (∀ call ∈ report.sends, call.err = none) →
    ∀ b ∈ nc.store.bundles, b.destination = contactEndpoint contactWindow →
      ⟨b, none⟩ ∈ report.sends

theorem executeContactWindow_spec (nc : NodeController σ) (contactWindow : ContactWindow)
    (currentTime : Int64) (order : IterationOrder Bundle) :
    Served nc (executeContactWindow A nc contactWindow currentTime order).1 currentTime
      contactWindow (executeContactWindow A nc contactWindow currentTime order).2 := by
  unfold executeContactWindow
  cases ho : A.openLink nc.cla contactWindow with
  | mk cla result =>
    cases result with
    | some err =>
      refine ⟨rfl, fun call hc => absurd hc List.not_mem_nil, List.nodup_nil, rfl, rfl, rfl,
        ⟨fun _ => ⟨rfl, rfl⟩, fun hok => ?_⟩, fun hok => ?_⟩
      · cases hok
      · cases hok
    | none =>
      have hlisted : ∀ b ∈ nc.store.listByDestination order (contactEndpoint contactWindow),
          b ∈ nc.store.bundles ∧ b.destination = contactEndpoint contactWindow :=
        fun b hb => mem_listByDestination.mp hb
      have hn := nodup_listByDestination nc.store order (contactEndpoint contactWindow)
      obtain ⟨calls, hsends, hpre, hstore, hstats, hall⟩ := @transmit_spec _ _ A contactWindow
        currentTime (nc.store.listByDestination order (contactEndpoint contactWindow))
        ⟨nc.store, cla, nc.stats, []⟩ (fun b hb => (hlisted b hb).1) hn
      rw [List.nil_append] at hsends
      dsimp only
      rw [hsends]
      refine ⟨rfl, fun call hc => ?_, hn.sublist hpre.sublist, hstore, rfl, rfl,
        ⟨fun herr => absurd rfl herr, fun _ => ?_⟩, fun _ hlt hok b hb hdest => ?_⟩
      · exact hlisted _ (hpre.subset (List.mem_map_of_mem hc))
      · rw [hstats, foldl_countSent_contactsCompleted]
      · have hin : b ∈ calls.map SendCall.bundle := by
          rw [hall hlt hok]
          exact mem_listByDestination.mpr ⟨hb, hdest⟩
        obtain ⟨call, hc, hcb⟩ := List.mem_map.mp hin
        have hcall : call = ⟨b, none⟩ := by
          cases call
          cases hcb
          cases hok _ hc
          rfl
        rw [← hcall]
        exact hc

/-- Bundles sent in any of the contacts, in order. -/
def sentIn (reports : List ContactReport) : List Bundle :=
  reports.flatMap fun report => sentBundles report.sends

/-- Outcome of serving contacts. -/
structure ServedAll (nc nc' : NodeController σ) (currentTime : Int64)
    (contacts : List ContactWindow) (reports : List ContactReport) : Prop where
  /-- One report for each contact, in order. -/
  windows : reports.map ContactReport.window = contacts
  /-- What was passed was stored before and destined to its contact's endpoint. -/
  passed : ∀ report ∈ reports, ∀ call ∈ report.sends, call.bundle ∈ nc.store.bundles ∧
    call.bundle.destination = contactEndpoint report.window
  /-- No bundle was sent twice. -/
  nodup : (sentIn reports).Nodup
  /-- What was sent was dropped. -/
  store : nc'.store = dropAll nc.store (sentIn reports)
  /-- The agent was not involved. -/
  bpa : nc'.bpa = nc.bpa
  /-- The plan was not changed. -/
  planner : nc'.planner = nc.planner
  /-- An opened contact without failures leaves nothing destined to its endpoint unsent. -/
  complete : ∀ report ∈ reports, report.openError = none →
    currentTime < report.window.endTime → (∀ call ∈ report.sends, call.err = none) →
    ∀ b ∈ nc.store.bundles, b.destination = contactEndpoint report.window → b ∈ sentIn reports

/-- What was sent in the contacts was stored before. -/
theorem ServedAll.sent_mem {nc nc' : NodeController σ} {currentTime : Int64}
    {contacts : List ContactWindow} {reports : List ContactReport}
    (h : ServedAll nc nc' currentTime contacts reports) {b : Bundle}
    (hb : b ∈ sentIn reports) : b ∈ nc.store.bundles := by
  obtain ⟨report, hr, hsent⟩ := List.mem_flatMap.mp hb
  exact (h.passed report hr _ (mem_sentBundles.mp hsent)).1

theorem serveContacts_spec (currentTime : Int64) (contacts : List ContactWindow)
    (orders : ℕ → IterationOrder Bundle) (nc : NodeController σ) :
    ServedAll nc (serveContacts A currentTime contacts orders nc).1 currentTime contacts
      (serveContacts A currentTime contacts orders nc).2 := by
  induction contacts generalizing orders nc with
  | nil =>
    exact ⟨rfl, fun r hr => absurd hr List.not_mem_nil, List.nodup_nil, rfl, rfl, rfl,
      fun r hr => absurd hr List.not_mem_nil⟩
  | cons w contacts ih =>
    have hone := executeContactWindow_spec A nc w currentTime (orders 0)
    have hrest := ih (fun k => orders (k + 1))
      (executeContactWindow A nc w currentTime (orders 0)).1
    have hsent : ∀ b ∈ sentBundles (executeContactWindow A nc w currentTime (orders 0)).2.sends,
        b ∈ nc.store.bundles := fun b hb => (hone.passed _ (mem_sentBundles.mp hb)).1
    -- what is left for the other contacts was stored and was not sent in the first
    have hleft : ∀ b, b ∈ (executeContactWindow A nc w currentTime (orders 0)).1.store.bundles →
        b ∈ nc.store.bundles ∧
          b ∉ sentBundles (executeContactWindow A nc w currentTime (orders 0)).2.sends := by
      intro b hb
      rw [hone.store] at hb
      exact (mem_dropAll hsent).mp hb
    rw [serveContacts]
    refine ⟨?_, fun report hr call hc => ?_, ?_, ?_, ?_, ?_,
      fun report hr hopen hlt hok b hb hdest => ?_⟩
    · rw [List.map_cons, hone.window, hrest.windows]
    · rcases List.mem_cons.mp hr with rfl | hr
      · rw [hone.window]
        exact hone.passed call hc
      · have hpassed := hrest.passed report hr call hc
        exact ⟨(hleft _ hpassed.1).1, hpassed.2⟩
    · refine List.nodup_append'.mpr ⟨hone.nodup.sublist (sentBundles_sublist _), hrest.nodup, ?_⟩
      intro b hfirst hlater
      exact (hleft b (hrest.sent_mem hlater)).2 hfirst
    · rw [hrest.store, hone.store, ← dropAll_append]
      rfl
    · rw [hrest.bpa, hone.bpa]
    · rw [hrest.planner, hone.planner]
    · refine List.mem_append.mpr ?_
      by_cases hfirst : b ∈ sentBundles (executeContactWindow A nc w currentTime (orders 0)).2.sends
      · exact Or.inl hfirst
      · rcases List.mem_cons.mp hr with rfl | hr
        · rw [hone.window] at hlt hdest
          exact Or.inl (mem_sentBundles.mpr (hone.complete hopen hlt hok b hb hdest))
        · refine Or.inr (hrest.complete report hr hopen hlt hok b ?_ hdest)
          rw [hone.store]
          exact (mem_dropAll hsent).mpr ⟨hb, hfirst⟩

section Incoming

variable {nc : NodeController σ} {bundle : Bundle} {currentTime : Int64}
  {first second : IterationOrder Bundle}

/-- A bundle that does not validate is refused. -/
theorem processIncomingBundle_of_invalid {err : GoError}
    (h : BundleProtocolAgent.validateBundle bundle currentTime = some err) :
    processIncomingBundle nc bundle currentTime first second =
      (nc.uncount, ⟨[], .error (err.wrap "bundle validation failed")⟩) := by
  simp only [processIncomingBundle, h]

/-- A valid bundle for a local endpoint is delivered. -/
theorem processIncomingBundle_of_local
    (h : BundleProtocolAgent.validateBundle bundle currentTime = none)
    (hlocal : nc.bpa.isLocalEndpoint bundle.destination = true) :
    processIncomingBundle nc bundle currentTime first second =
      ({ nc with stats :=
          { nc.stats with bundlesForwarded := nc.stats.bundlesForwarded + 1 } },
        ⟨[], .ok .delivered⟩) := by
  simp only [processIncomingBundle, h, hlocal, if_true, BundleProtocolAgent.deliverBundle]

/-- A valid remote bundle already stored is refused. -/
theorem processIncomingBundle_of_duplicate
    (h : BundleProtocolAgent.validateBundle bundle currentTime = none)
    (hremote : nc.bpa.isLocalEndpoint bundle.destination = false) {old : Bundle}
    (hdup : nc.store.bundles.lookup bundle.hash = some old) :
    processIncomingBundle nc bundle currentTime first second =
      (nc.uncount, ⟨[], .error (GoError.wrap "failed to store bundle" (.errorf
        (ascii "bundle " ++ bundle.id.string ++ ascii " already exists in store")))⟩) := by
  simp only [processIncomingBundle, h, hremote, store_of_mem hdup, isStoreFull,
    Bool.false_eq_true, if_false]

/-- A valid remote bundle that fits is stored. -/
theorem processIncomingBundle_of_fits
    (h : BundleProtocolAgent.validateBundle bundle currentTime = none)
    (hremote : nc.bpa.isLocalEndpoint bundle.destination = false)
    (hnew : nc.store.bundles.lookup bundle.hash = none)
    (hfits : ¬nc.store.usedBytes + bundle.size64 > nc.store.maxBytes) :
    processIncomingBundle nc bundle currentTime first second =
      ({ nc with store := nc.store.put bundle }, ⟨[], .ok .stored⟩) := by
  simp only [processIncomingBundle, h, hremote, store_of_fits hnew hfits,
    Bool.false_eq_true, if_false]

/-- A valid remote bundle that does not fit costs the bundles that make room
for its full size; it is stored when that succeeds and it then fits. -/
theorem processIncomingBundle_of_full
    (h : BundleProtocolAgent.validateBundle bundle currentTime = none)
    (hremote : nc.bpa.isLocalEndpoint bundle.destination = false)
    (hnew : nc.store.bundles.lookup bundle.hash = none)
    (hfull : nc.store.usedBytes + bundle.size64 > nc.store.maxBytes) :
    let taken := makeRoom nc.store first second bundle.size64 currentTime
    let room := dropAll nc.store taken
    (taken ≠ [] ∧ bundle.size64 ≤ taken.foldl addFreed 0 ∧
      ¬room.usedBytes + bundle.size64 > room.maxBytes ∧
      processIncomingBundle nc bundle currentTime first second =
        ({ nc with store := room.put bundle }, ⟨taken, .ok .stored⟩)) ∨
    (¬(taken ≠ [] ∧ bundle.size64 ≤ taken.foldl addFreed 0 ∧
      ¬room.usedBytes + bundle.size64 > room.maxBytes) ∧
      ∃ err, processIncomingBundle nc bundle currentTime first second =
        (NodeController.uncount { nc with store := room }, ⟨taken, .error err⟩)) := by
  intro taken room
  have hstill : room.bundles.lookup bundle.hash = none := by
    refine KeyedMap.lookup_eq_none_iff.mpr fun a ha => ?_
    rw [mem_dropAll fun c hc => mem_of_mem_makeRoom hc] at ha
    exact KeyedMap.lookup_eq_none_iff.mp hnew a ha.1
  by_cases hfreed : taken ≠ [] ∧ bundle.size64 ≤ taken.foldl addFreed 0
  · by_cases hagain : room.usedBytes + bundle.size64 > room.maxBytes
    · refine Or.inr ⟨fun hall => hall.2.2 hagain,
        GoError.wrap "failed to store bundle after eviction" (.storeFull bundle.size64
          (room.maxBytes - room.usedBytes) room.maxBytes), ?_⟩
      simp only [processIncomingBundle, h, hremote, store_of_full hnew hfull, isStoreFull,
        evictToFreeSpace_eq, Bool.false_eq_true, if_false, if_true]
      rw [if_pos hfreed]
      simp only [taken, room, store_of_full hstill hagain]
    · refine Or.inl ⟨hfreed.1, hfreed.2, hagain, ?_⟩
      simp only [processIncomingBundle, h, hremote, store_of_full hnew hfull, isStoreFull,
        evictToFreeSpace_eq, Bool.false_eq_true, if_false, if_true]
      rw [if_pos hfreed]
      simp only [taken, room, store_of_fits hstill hagain]
  · refine Or.inr ⟨fun hall => hfreed ⟨hall.1, hall.2.1⟩,
      GoError.wrap "store full and eviction failed" (.errorf (ascii "could not free " ++
        formatInt64 bundle.size64 ++ ascii " bytes, only freed " ++
        formatInt64 (taken.foldl addFreed 0))), ?_⟩
    simp only [processIncomingBundle, h, hremote, store_of_full hnew hfull, isStoreFull,
      evictToFreeSpace_eq, Bool.false_eq_true, if_false, if_true]
    rw [if_neg hfreed]

/-- Processing refuses the bundle, at the cost of what was evicted for it, or
delivers it, or stores it under a fresh identifier after eviction. -/
theorem processIncomingBundle_cases (nc : NodeController σ) (bundle : Bundle)
    (currentTime : Int64) (first second : IterationOrder Bundle) :
    (∃ taken err, (taken = [] ∨
        taken = makeRoom nc.store first second bundle.size64 currentTime) ∧
      processIncomingBundle nc bundle currentTime first second =
        (NodeController.uncount { nc with store := dropAll nc.store taken },
          ⟨taken, .error err⟩)) ∨
    processIncomingBundle nc bundle currentTime first second =
      ({ nc with stats :=
          { nc.stats with bundlesForwarded := nc.stats.bundlesForwarded + 1 } },
        ⟨[], .ok .delivered⟩) ∨
    ∃ taken, (taken = [] ∨ taken = makeRoom nc.store first second bundle.size64 currentTime) ∧
      (dropAll nc.store taken).bundles.lookup bundle.hash = none ∧
      processIncomingBundle nc bundle currentTime first second =
        ({ nc with store := (dropAll nc.store taken).put bundle }, ⟨taken, .ok .stored⟩) := by
  cases hv : BundleProtocolAgent.validateBundle bundle currentTime with
  | some err => exact Or.inl ⟨[], _, Or.inl rfl, processIncomingBundle_of_invalid hv⟩
  | none =>
    cases hl : nc.bpa.isLocalEndpoint bundle.destination with
    | true => exact Or.inr (Or.inl (processIncomingBundle_of_local hv hl))
    | false =>
      cases hd : nc.store.bundles.lookup bundle.hash with
      | some old => exact Or.inl ⟨[], _, Or.inl rfl, processIncomingBundle_of_duplicate hv hl hd⟩
      | none =>
        by_cases hfull : nc.store.usedBytes + bundle.size64 > nc.store.maxBytes
        · rcases processIncomingBundle_of_full hv hl hd hfull with
            ⟨-, -, -, heq⟩ | ⟨-, err, heq⟩
          · refine Or.inr (Or.inr ⟨_, Or.inr rfl, ?_, heq⟩)
            refine KeyedMap.lookup_eq_none_iff.mpr fun a ha => ?_
            rw [mem_dropAll fun c hc => mem_of_mem_makeRoom hc] at ha
            exact KeyedMap.lookup_eq_none_iff.mp hd a ha.1
          · exact Or.inl ⟨_, err, Or.inr rfl, heq⟩
        · exact Or.inr (Or.inr ⟨[], Or.inl rfl, hd, processIncomingBundle_of_fits hv hl hd hfull⟩)

end Incoming

/-- The bundle that a reception put into the store, if any. -/
def kept (bundle : Bundle) (reception : Reception) : Option Bundle :=
  match reception.outcome with
  | .ok .stored => some bundle
  | .ok (.answered response) => some response
  | _ => none

/-- Outcome of processing a received bundle: nothing but eviction to make
room for it, and then at most one new bundle. -/
structure Handled (nc nc' : NodeController σ) (bundle : Bundle) (currentTime : Int64)
    (first second : IterationOrder Bundle) (reception : Reception) : Prop where
  /-- Evicted bundles are those that make room for the received one. -/
  evicted : reception.evicted = [] ∨
    reception.evicted = makeRoom nc.store first second bundle.size64 currentTime
  /-- What is kept is taken in after that, under a fresh identifier. -/
  store : (kept bundle reception = none ∧ nc'.store = dropAll nc.store reception.evicted) ∨
    ∃ b, kept bundle reception = some b ∧
      (dropAll nc.store reception.evicted).bundles.lookup b.hash = none ∧
      nc'.store = (dropAll nc.store reception.evicted).put b
  /-- The plan was not changed. -/
  planner : nc'.planner = nc.planner
  /-- The local endpoints were not changed. -/
  localEndpoints : nc'.bpa.localEndpoints = nc.bpa.localEndpoints
  /-- The rate limiter was not consulted. -/
  rateLimiter : nc'.bpa.rateLimiter = nc.bpa.rateLimiter

/-- Evicted bundles were stored before. -/
theorem Handled.evicted_mem {nc nc' : NodeController σ} {bundle : Bundle} {currentTime : Int64}
    {first second : IterationOrder Bundle} {reception : Reception}
    (h : Handled nc nc' bundle currentTime first second reception) {b : Bundle}
    (hb : b ∈ reception.evicted) : b ∈ nc.store.bundles := by
  rcases h.evicted with he | he
  · rw [he] at hb
    exact absurd hb List.not_mem_nil
  · rw [he] at hb
    exact mem_of_mem_makeRoom hb

/-- No bundle is evicted twice. -/
theorem Handled.evicted_nodup {nc nc' : NodeController σ} {bundle : Bundle} {currentTime : Int64}
    {first second : IterationOrder Bundle} {reception : Reception}
    (h : Handled nc nc' bundle currentTime first second reception) :
    reception.evicted.Nodup := by
  rcases h.evicted with he | he
  · rw [he]
    exact List.nodup_nil
  · rw [he]
    exact nodup_makeRoom _ _ _ _ _

theorem processIncomingBundle_spec (nc : NodeController σ) (bundle : Bundle)
    (currentTime : Int64) (first second : IterationOrder Bundle) :
    Handled nc (processIncomingBundle nc bundle currentTime first second).1 bundle currentTime
      first second (processIncomingBundle nc bundle currentTime first second).2 := by
  rcases processIncomingBundle_cases nc bundle currentTime first second with
    ⟨taken, err, htaken, heq⟩ | heq | ⟨taken, htaken, hnew, heq⟩
  · rw [heq]
    exact ⟨htaken, Or.inl ⟨rfl, rfl⟩, rfl, rfl, rfl⟩
  · rw [heq]
    exact ⟨Or.inl rfl, Or.inl ⟨rfl, rfl⟩, rfl, rfl, rfl⟩
  · rw [heq]
    exact ⟨htaken, Or.inr ⟨bundle, rfl, hnew, rfl⟩, rfl, rfl, rfl⟩

theorem answerPing_spec (nc : NodeController σ) (bundle : Bundle) (now : ℤ)
    (currentTime : Int64) (first second : IterationOrder Bundle) :
    Handled nc (answerPing nc bundle now).1 bundle currentTime first second
      (answerPing nc bundle now).2 := by
  have hkeeps := nc.bpa.handlePing_keeps bundle now
  unfold answerPing
  cases hp : nc.bpa.handlePing bundle now with
  | mk bpa result =>
    rw [hp] at hkeeps
    cases result with
    | error err => exact ⟨Or.inl rfl, Or.inl ⟨rfl, rfl⟩, rfl, hkeeps.1, hkeeps.2⟩
    | ok response =>
      rcases store_cases nc.store response with ⟨err, hs⟩ | ⟨hnew, hs⟩
      · simp only [hs]
        exact ⟨Or.inl rfl, Or.inl ⟨rfl, rfl⟩, rfl, hkeeps.1, hkeeps.2⟩
      · simp only [hs]
        exact ⟨Or.inl rfl, Or.inr ⟨response, rfl, hnew, rfl⟩, rfl, hkeeps.1, hkeeps.2⟩

omit [Sha256] in
theorem kept_wrapError (bundle : Bundle) (label : String) (reception : Reception) :
    kept bundle (reception.wrapError label) = kept bundle reception := by
  unfold kept Reception.wrapError
  cases reception.outcome with
  | error err => rfl
  | ok acceptance => rfl

theorem handleBundle_spec (nc : NodeController σ) (bundle : Bundle) (input : CycleInput) :
    Handled nc (handleBundle nc bundle input).1 bundle input.currentTime input.firstOrder
      input.secondOrder (handleBundle nc bundle input).2 := by
  unfold handleBundle
  by_cases hping : bundle.bundleType = BundleType.pingRequest
  · rw [if_pos hping]
    exact answerPing_spec nc bundle input.now _ _ _
  · rw [if_neg hping]
    by_cases hdata : bundle.bundleType = BundleType.data
    · rw [if_pos hdata]
      have h := processIncomingBundle_spec nc bundle input.currentTime input.firstOrder
        input.secondOrder
      refine ⟨h.evicted, ?_, h.planner, h.localEndpoints, h.rateLimiter⟩
      rw [kept_wrapError]
      exact h.store
    · rw [if_neg hdata]
      exact ⟨Or.inl rfl, Or.inl ⟨rfl, rfl⟩, rfl, rfl, rfl⟩

/-- Processing a received bundle does not involve the adapter. -/
theorem handleBundle_cla (nc : NodeController σ) (bundle : Bundle) (input : CycleInput) :
    (handleBundle nc bundle input).1.cla = nc.cla := by
  unfold handleBundle
  split
  · unfold answerPing
    split
    · rfl
    · split <;> rfl
  · split
    · rcases processIncomingBundle_cases nc bundle input.currentTime input.firstOrder
        input.secondOrder with ⟨_, _, -, heq⟩ | heq | ⟨_, -, -, heq⟩
      · rw [heq]
        rfl
      · rw [heq]
      · rw [heq]
    · rfl

/-- A reception receives nothing and touches only the adapter, or handles the
bundle the adapter returned, counted first. -/
theorem receiveIncomingBundles_cases (nc : NodeController σ) (input : CycleInput) :
    (∃ err, (A.recvBundle nc.cla).2 = .error err ∧
      receiveIncomingBundles A nc input = ({ nc with cla := (A.recvBundle nc.cla).1 }, none)) ∨
    ∃ bundle, (A.recvBundle nc.cla).2 = .ok bundle ∧
      receiveIncomingBundles A nc input =
        ((handleBundle (NodeController.countReceived
            { nc with cla := (A.recvBundle nc.cla).1 } bundle) bundle input).1,
          some (bundle, (handleBundle (NodeController.countReceived
            { nc with cla := (A.recvBundle nc.cla).1 } bundle) bundle input).2)) := by
  unfold receiveIncomingBundles
  cases hr : A.recvBundle nc.cla with
  | mk cla result =>
    cases result with
    | error err => exact Or.inl ⟨err, rfl, rfl⟩
    | ok bundle => exact Or.inr ⟨bundle, rfl, rfl⟩

/-- The contacts of a cycle are served as specified. -/
theorem afterContacts_spec (nc : NodeController σ) (input : CycleInput) :
    ServedAll nc (afterContacts A nc input).1 input.currentTime
      (nc.planner.getActiveContacts input.currentTime) (afterContacts A nc input).2 :=
  serveContacts_spec A input.currentTime _ input.listOrders nc

/-- The reception of a cycle leaves the store alone or handles a bundle. -/
theorem afterReception_spec (nc : NodeController σ) (input : CycleInput) :
    ((afterReception A nc input).2 = none ∧
      (afterReception A nc input).1.store = (afterContacts A nc input).1.store ∧
      (afterReception A nc input).1.planner = nc.planner) ∨
    ∃ bundle reception, (afterReception A nc input).2 = some (bundle, reception) ∧
      Handled (afterContacts A nc input).1 (afterReception A nc input).1 bundle
        input.currentTime input.firstOrder input.secondOrder reception ∧
      (afterReception A nc input).1.planner = nc.planner := by
  have hplanner := (afterContacts_spec A nc input).planner
  rcases receiveIncomingBundles_cases A (afterContacts A nc input).1 input with
    ⟨err, -, heq⟩ | ⟨bundle, -, heq⟩
  · left
    rw [afterReception, heq]
    exact ⟨rfl, rfl, hplanner⟩
  · right
    have h := handleBundle_spec (NodeController.countReceived
      { (afterContacts A nc input).1 with
        cla := (A.recvBundle (afterContacts A nc input).1.cla).1 } bundle) bundle input
    refine ⟨bundle, _, by rw [afterReception, heq], ?_, ?_⟩
    · rw [afterReception, heq]
      exact ⟨h.evicted, h.store, h.planner, h.localEndpoints, h.rateLimiter⟩
    · rw [afterReception, heq]
      exact h.planner.trans hplanner

/-- The report of a cycle lists its contacts. -/
theorem runCycle_contacts (nc : NodeController σ) (input : CycleInput) :
    (runCycle A nc input).2.contacts = (afterContacts A nc input).2 := rfl

/-- The report of a cycle has its reception. -/
theorem runCycle_reception (nc : NodeController σ) (input : CycleInput) :
    (runCycle A nc input).2.reception = (afterReception A nc input).2 := rfl

/-- A cycle ends by dropping the expired bundles. -/
theorem cycle_store (nc : NodeController σ) (input : CycleInput) :
    (cycle A nc input).store = dropAll (afterReception A nc input).1.store
      (expiredIn (afterReception A nc input).1.store input.expireOrder input.currentTime) := by
  unfold cycle runCycle
  simp only [evictExpired_eq]

/-- What is stored after a reception was stored before it or kept by it. -/
theorem mem_afterReception {nc : NodeController σ} {input : CycleInput} {b : Bundle}
    (h : b ∈ (afterReception A nc input).1.store.bundles) :
    b ∈ (afterContacts A nc input).1.store.bundles ∨
      ∃ bundle reception, (afterReception A nc input).2 = some (bundle, reception) ∧
        kept bundle reception = some b := by
  rcases afterReception_spec A nc input with ⟨-, hs, -⟩ | ⟨bundle, reception, hr, hh, -⟩
  · rw [hs] at h
    exact Or.inl h
  · have hroom : ∀ c, c ∈ (dropAll (afterContacts A nc input).1.store reception.evicted).bundles →
        c ∈ (afterContacts A nc input).1.store.bundles := by
      intro c hc
      rw [mem_dropAll fun a ha => hh.evicted_mem ha] at hc
      exact hc.1
    rcases hh.store with ⟨-, hs⟩ | ⟨c, hk, -, hs⟩
    · rw [hs] at h
      exact Or.inl (hroom b h)
    · rw [hs] at h
      rcases KeyedMap.mem_insert.mp h with rfl | hb
      · exact Or.inr ⟨bundle, reception, hr, hk⟩
      · exact Or.inl (hroom b hb.1)

/-- A bundle that came in was handled. -/
theorem handled_of_afterReception {nc : NodeController σ} {input : CycleInput} {bundle : Bundle}
    {reception : Reception} (hr : (afterReception A nc input).2 = some (bundle, reception)) :
    Handled (afterContacts A nc input).1 (afterReception A nc input).1 bundle
      input.currentTime input.firstOrder input.secondOrder reception := by
  rcases afterReception_spec A nc input with ⟨hnone, -, -⟩ | ⟨_, _, hsome, hh, -⟩
  · rw [hnone] at hr
    cases hr
  · rw [hsome] at hr
    cases hr
    exact hh

/-- What a reception kept is stored after it. -/
theorem mem_afterReception_of_kept {nc : NodeController σ} {input : CycleInput}
    {bundle b : Bundle} {reception : Reception}
    (hr : (afterReception A nc input).2 = some (bundle, reception))
    (hk : kept bundle reception = some b) : b ∈ (afterReception A nc input).1.store.bundles := by
  rcases (handled_of_afterReception A hr).store with ⟨hnone, -⟩ | ⟨c, hc, -, hs⟩
  · rw [hnone] at hk
    cases hk
  · rw [hc] at hk
    cases hk
    rw [hs]
    exact KeyedMap.mem_insert.mpr (Or.inl rfl)

/-- A reception that neither evicts nor keeps anything leaves the store alone. -/
theorem store_afterReception_of_idle {nc : NodeController σ} {input : CycleInput}
    {bundle : Bundle} {reception : Reception}
    (hr : (afterReception A nc input).2 = some (bundle, reception))
    (hevicted : reception.evicted = []) (hk : kept bundle reception = none) :
    (afterReception A nc input).1.store = (afterContacts A nc input).1.store := by
  rcases (handled_of_afterReception A hr).store with ⟨-, hs⟩ | ⟨c, hc, -, -⟩
  · rw [hs, hevicted, dropAll_nil]
  · rw [hc] at hk
    cases hk

/-- What is stored after a cycle was stored before it or kept by its reception. -/
theorem mem_cycle {nc : NodeController σ} {input : CycleInput} {b : Bundle}
    (h : b ∈ (cycle A nc input).store.bundles) :
    b ∈ nc.store.bundles ∨
      ∃ bundle reception, (afterReception A nc input).2 = some (bundle, reception) ∧
        kept bundle reception = some b := by
  rw [cycle_store, mem_dropAll fun a ha => (mem_expiredIn.mp ha).1] at h
  rcases mem_afterReception A h.1 with hb | hk
  · have hspec := afterContacts_spec A nc input
    rw [hspec.store, mem_dropAll fun a ha => hspec.sent_mem ha] at hb
    exact Or.inl hb.1
  · exact Or.inr hk

/-- A cycle changes no plan. -/
theorem cycle_planner (nc : NodeController σ) (input : CycleInput) :
    (cycle A nc input).planner = nc.planner := by
  have h : (afterReception A nc input).1.planner = nc.planner := by
    rcases afterReception_spec A nc input with ⟨-, -, h⟩ | ⟨_, _, -, -, h⟩
    · exact h
    · exact h
  exact h

end CislunarDtn.NodeCycles
