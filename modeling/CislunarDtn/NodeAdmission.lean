import CislunarDtn.NodeCycles

/-!
# What admitting an incoming bundle costs the store

EvictToFreeSpace is asked for the full size of the incoming bundle, whatever
room the store has left, and deletes as it goes. So a refused bundle costs
the node everything it held whenever that was less than the bundle's size,
and an accepted one costs more than needed whenever a shorter part of the
eviction order would already have let it fit.
-/

namespace CislunarDtn.NodeAdmission

open KeyedMaps Bundles BundleStorage BundleAgents ContactPlans ConvergenceLayers NodeControllers
  NodeCycles StorageEvictions StorageAccounting WrappedInt64 GreedyPrefixes

theorem sumSize_le_of_isPrefix {l m : List Bundle} (h : l <+: m) : sumSize l ≤ sumSize m := by
  obtain ⟨rest, rfl⟩ := h
  rw [sumSize_append]
  omega

/-- A node without endpoints, contacts or link, for concrete stores. -/
def nodeWithStore [Sha256] (bs : BundleStore) : NodeController Unit :=
  newNodeController (newBundleProtocolAgent []) bs newContactPlanManager ()

section Accounting

variable [Sha256] {bs : BundleStore} {first second : IterationOrder Bundle} {currentTime : Int64}

/-- An accounted store holds fewer bytes than the word range. -/
theorem totalBytes_lt (h : Accounted bs) : totalBytes bs < 2 ^ 63 := by
  have hlt := bs.usedBytes.toInt_lt
  have hex := h.exact
  omega

/-- The eviction order weighs what the store holds. -/
theorem sumSize_evictionOrder (bs : BundleStore) (first second : IterationOrder Bundle)
    (currentTime : Int64) :
    sumSize (evictionOrder bs first second currentTime) = totalBytes bs :=
  ((perm_evictionOrder bs first second currentTime).map Bundle.size).sum_eq

/-- What precedes an unexpired bundle in the eviction order and the bundle
itself weigh no more than the store. -/
theorem sumSize_le_totalBytes {part : List Bundle}
    (h : part <+: evictionOrder bs first second currentTime) : sumSize part ≤ totalBytes bs := by
  rw [← sumSize_evictionOrder bs first second currentTime]
  exact sumSize_le_of_isPrefix h

/-- Bytes freed by a part of the eviction order of an accounted store. -/
theorem toInt_freed (h : Accounted bs) {part : List Bundle}
    (hp : part <+: evictionOrder bs first second currentTime) :
    (part.foldl addFreed 0).toInt = sumSize part := by
  have hle := sumSize_le_totalBytes hp
  have hlt := totalBytes_lt h
  exact toInt_foldl_addFreed (by omega)

/-- The counter after evicting a part of the eviction order of an accounted store. -/
theorem toInt_usedBytes_dropAll (h : Accounted bs) {part : List Bundle}
    (hp : part <+: evictionOrder bs first second currentTime) :
    (dropAll bs part).usedBytes.toInt = bs.usedBytes.toInt - sumSize part := by
  have hmem : ∀ a ∈ part, a ∈ bs.bundles := fun a ha => mem_evictionOrder.mp (hp.subset ha)
  have hn := (nodup_evictionOrder bs first second currentTime).sublist hp.sublist
  have hacc := h.dropAll hmem hn
  have htotal := totalBytes_dropAll hmem hn
  have hex := h.exact
  rw [hacc.exact]
  unfold sumSize
  omega

/-- In an accounted store, room freed for the full size is room enough. -/
theorem fits_of_freed (h : Accounted bs) {bundle : Bundle} {part : List Bundle}
    (hp : part <+: evictionOrder bs first second currentTime)
    (hfreed : bundle.size64 ≤ part.foldl addFreed 0) :
    ¬(dropAll bs part).usedBytes + bundle.size64 > (dropAll bs part).maxBytes := by
  have hsum := Int64.le_iff_toInt_le.mp hfreed
  rw [toInt_freed h hp, Bundle.toInt_size64] at hsum
  have hused := toInt_usedBytes_dropAll h hp
  have hcap := Int64.le_iff_toInt_le.mp h.capacity
  have hlt := bs.usedBytes.toInt_lt
  have hle := sumSize_le_totalBytes hp
  have hex := h.exact
  have hexact : NoOverflow (dropAll bs part) bundle := by
    unfold NoOverflow
    omega
  rw [dropAll_maxBytes, gt_iff_lt, Int64.lt_iff_toInt_lt, toInt_put_of_noOverflow hexact]
  omega

end Accounting

section FullStore

variable [Sha256] {σ : Type*} {nc : NodeController σ} {bundle : Bundle} {currentTime : Int64}
  {first second : IterationOrder Bundle}

/-- A full accounted store that holds at least the bundle's size accepts it. -/
theorem accepted_of_full (h : Accounted nc.store)
    (hv : BundleProtocolAgent.validateBundle bundle currentTime = none)
    (hl : nc.bpa.isLocalEndpoint bundle.destination = false)
    (hd : nc.store.bundles.lookup bundle.hash = none)
    (hfull : nc.store.usedBytes + bundle.size64 > nc.store.maxBytes)
    (hheld : bundle.size64 ≤ nc.store.usedBytes) :
    (processIncomingBundle nc bundle currentTime first second).2 =
      ⟨makeRoom nc.store first second bundle.size64 currentTime, .ok .stored⟩ := by
  have hpre := makeRoom_isPrefix nc.store first second bundle.size64 currentTime
  have htotal := sumSize_evictionOrder nc.store first second currentTime
  have hex := h.exact
  have hsize := bundle.size_pos
  rw [Int64.le_iff_toInt_le, Bundle.toInt_size64] at hheld
  have hfreed : bundle.size64 ≤
      (makeRoom nc.store first second bundle.size64 currentTime).foldl addFreed 0 := by
    by_contra hless
    have hall := makeRoom_eq_of_insufficient hless
    rw [Int64.le_iff_toInt_le, toInt_freed h hpre, Bundle.toInt_size64, hall] at hless
    omega
  have hne : makeRoom nc.store first second bundle.size64 currentTime ≠ [] := by
    intro hnil
    rw [hnil, Int64.le_iff_toInt_le, Bundle.toInt_size64] at hfreed
    have hzero : (List.foldl addFreed 0 []).toInt = 0 := rfl
    omega
  rcases processIncomingBundle_of_full hv hl hd hfull with ⟨-, -, -, heq⟩ | ⟨hshort, -⟩
  · rw [heq]
  · exact absurd ⟨hne, hfreed, fits_of_freed h hpre hfreed⟩ hshort

/-- A full accounted store that holds less than the bundle's size refuses it,
and loses everything it held. -/
theorem refused_of_full (h : Accounted nc.store)
    (hv : BundleProtocolAgent.validateBundle bundle currentTime = none)
    (hl : nc.bpa.isLocalEndpoint bundle.destination = false)
    (hd : nc.store.bundles.lookup bundle.hash = none)
    (hfull : nc.store.usedBytes + bundle.size64 > nc.store.maxBytes)
    (hheld : nc.store.usedBytes < bundle.size64) :
    (∃ err, (processIncomingBundle nc bundle currentTime first second).2.outcome = .error err) ∧
      ∀ b, b ∉ (processIncomingBundle nc bundle currentTime first second).1.store.bundles := by
  have hpre := makeRoom_isPrefix nc.store first second bundle.size64 currentTime
  have hle := sumSize_le_totalBytes hpre
  have hex := h.exact
  rw [Int64.lt_iff_toInt_lt, Bundle.toInt_size64] at hheld
  have hless : ¬bundle.size64 ≤
      (makeRoom nc.store first second bundle.size64 currentTime).foldl addFreed 0 := by
    rw [Int64.le_iff_toInt_le, toInt_freed h hpre, Bundle.toInt_size64]
    omega
  have hall := makeRoom_eq_of_insufficient hless
  rcases processIncomingBundle_of_full hv hl hd hfull with ⟨-, henough, -, -⟩ | ⟨-, err, heq⟩
  · exact absurd henough hless
  · rw [heq]
    refine ⟨⟨err, rfl⟩, fun b hb => ?_⟩
    have hleft := (mem_dropAll fun a ha => mem_of_mem_makeRoom ha).mp hb
    rw [hall, mem_evictionOrder] at hleft
    exact hleft.2 hleft.1

end FullStore

section Refusal

variable [Sha256] {σ : Type*}

/-- A failed call leaves the set of stored bundles as it was. -/
def KeepsStoreOnError (nc : NodeController σ) (bundle : Bundle) (currentTime : Int64)
    (first second : IterationOrder Bundle) : Prop :=
  (∃ err, (processIncomingBundle nc bundle currentTime first second).2.outcome = .error err) →
    ∀ b, b ∈ (processIncomingBundle nc bundle currentTime first second).1.store.bundles ↔
      b ∈ nc.store.bundles

/-- The input on which eviction is in vain: a valid new bundle for a remote
endpoint fails the admission test of a store that is not empty and holds
fewer bytes than the bundle's size. -/
def EvictsInVain (nc : NodeController σ) (bundle : Bundle) (currentTime : Int64) : Prop :=
  BundleProtocolAgent.validateBundle bundle currentTime = none ∧
  nc.bpa.isLocalEndpoint bundle.destination = false ∧
  nc.store.bundles.lookup bundle.hash = none ∧
  nc.store.usedBytes + bundle.size64 > nc.store.maxBytes ∧
  0 < nc.store.usedBytes ∧ nc.store.usedBytes < bundle.size64

/-- An accounted store is empty when its counter is not positive. -/
theorem not_mem_of_usedBytes_nonpos {bs : BundleStore} (h : Accounted bs)
    (hused : ¬0 < bs.usedBytes) (b : Bundle) : b ∉ bs.bundles := by
  intro hb
  have hle : b.size ≤ totalBytes bs := KeyedMap.le_total Bundle.size hb
  have hsize := b.size_pos
  have hex := h.exact
  have hzero : (0 : Int64).toInt = 0 := rfl
  rw [Int64.lt_iff_toInt_lt] at hused
  omega

/-- Refusing a bundle that meets a full store costs nothing exactly when
eviction is not in vain. -/
theorem keepsStoreOnError_iff_of_full {nc : NodeController σ} (h : Accounted nc.store)
    {bundle : Bundle} {currentTime : Int64} (first second : IterationOrder Bundle)
    (hv : BundleProtocolAgent.validateBundle bundle currentTime = none)
    (hl : nc.bpa.isLocalEndpoint bundle.destination = false)
    (hd : nc.store.bundles.lookup bundle.hash = none)
    (hfull : nc.store.usedBytes + bundle.size64 > nc.store.maxBytes) :
    KeepsStoreOnError nc bundle currentTime first second ↔
      ¬EvictsInVain nc bundle currentTime := by
  by_cases hheld : nc.store.usedBytes < bundle.size64
  · obtain ⟨herr, hlost⟩ := @refused_of_full _ _ _ _ _ first second h hv hl hd hfull hheld
    by_cases hused : 0 < nc.store.usedBytes
    · -- something was stored and is lost
      refine iff_of_false (fun hkept => ?_) (not_not.mpr ⟨hv, hl, hd, hfull, hused, hheld⟩)
      have hsome : ∃ b, b ∈ nc.store.bundles := by
        by_contra hnone
        have hzero : totalBytes nc.store = 0 := by
          have hvalues : nc.store.bundles.values = [] :=
            List.eq_nil_iff_forall_not_mem.mpr fun b hb => hnone ⟨b, hb⟩
          rw [totalBytes, KeyedMap.total, hvalues]
          rfl
        have hex := h.exact
        have hpos := Int64.lt_iff_toInt_lt.mp hused
        have hnull : (0 : Int64).toInt = 0 := rfl
        omega
      obtain ⟨b, hb⟩ := hsome
      exact hlost b ((hkept herr b).mpr hb)
    · refine iff_of_true (fun _ b => ?_) fun hvain => hused hvain.2.2.2.2.1
      exact iff_of_false (hlost b) (not_mem_of_usedBytes_nonpos h hused b)
  · have hok := @accepted_of_full _ _ _ _ _ first second h hv hl hd hfull (Int64.not_lt.mp hheld)
    refine iff_of_true (fun herr => ?_) fun hvain => hheld hvain.2.2.2.2.2
    obtain ⟨err, herr⟩ := herr
    rw [hok] at herr
    cases herr

/-- A refused bundle costs nothing exactly when eviction is not in vain. -/
theorem keepsStoreOnError_iff {nc : NodeController σ} (h : Accounted nc.store) (bundle : Bundle)
    (currentTime : Int64) (first second : IterationOrder Bundle) :
    KeepsStoreOnError nc bundle currentTime first second ↔
      ¬EvictsInVain nc bundle currentTime := by
  cases hv : BundleProtocolAgent.validateBundle bundle currentTime with
  | some err =>
    unfold KeepsStoreOnError
    rw [processIncomingBundle_of_invalid hv]
    refine iff_of_true (fun _ b => Iff.rfl) fun hvain => ?_
    rw [hvain.1] at hv
    cases hv
  | none =>
    cases hl : nc.bpa.isLocalEndpoint bundle.destination with
    | true =>
      unfold KeepsStoreOnError
      rw [processIncomingBundle_of_local hv hl]
      refine iff_of_true (fun _ b => Iff.rfl) fun hvain => ?_
      rw [hvain.2.1] at hl
      cases hl
    | false =>
      cases hd : nc.store.bundles.lookup bundle.hash with
      | some old =>
        unfold KeepsStoreOnError
        rw [processIncomingBundle_of_duplicate hv hl hd]
        refine iff_of_true (fun _ b => Iff.rfl) fun hvain => ?_
        rw [hvain.2.2.1] at hd
        cases hd
      | none =>
        by_cases hfull : nc.store.usedBytes + bundle.size64 > nc.store.maxBytes
        · exact keepsStoreOnError_iff_of_full h first second hv hl hd hfull
        · unfold KeepsStoreOnError
          rw [processIncomingBundle_of_fits hv hl hd hfull]
          refine iff_of_true (fun herr => ?_) fun hvain => hfull hvain.2.2.2.1
          obtain ⟨err, herr⟩ := herr
          cases herr

end Refusal

section RefusalScenarios

attribute [local instance] Sha256.transparent

/-- A store that holds as much as the incoming bundle weighs loses nothing by an error. -/
theorem keepsStoreOnError_of_equal_size :
    KeepsStoreOnError (nodeWithStore ((newBundleStore 600).put specimen))
      (specimenNumbered 2 0) 200 (.listed Bundle) (.listed Bundle) := by
  have hnew : Accounted (newBundleStore 600) := accounted_newBundleStore (by decide)
  have hput : Accounted ((newBundleStore 600).put specimen) :=
    hnew.put (by decide) (by unfold NoOverflow; decide) (by decide)
  refine (keepsStoreOnError_iff hput _ _ _ _).mpr fun hvain => ?_
  exact absurd hvain.2.2.2.2.2 (by decide)

/-- One small stored bundle is lost to a larger one that is refused. -/
theorem not_keepsStoreOnError_of_larger_bundle :
    ¬∀ (nc : NodeController Unit) (bundle : Bundle) (currentTime : Int64)
      (first second : IterationOrder Bundle), Accounted nc.store →
      KeepsStoreOnError nc bundle currentTime first second := by
  intro h
  have hnew : Accounted (newBundleStore 600) := accounted_newBundleStore (by decide)
  have hput : Accounted ((newBundleStore 600).put specimen) :=
    hnew.put (by decide) (by unfold NoOverflow; decide) (by decide)
  have hkept := h (nodeWithStore ((newBundleStore 600).put specimen)) (specimenNumbered 2 100) 200
    (.listed Bundle) (.listed Bundle) hput
  obtain ⟨herr, hlost⟩ := @refused_of_full _ _ (nodeWithStore ((newBundleStore 600).put specimen))
    (specimenNumbered 2 100) 200 (.listed Bundle) (.listed Bundle) hput
    (by decide) (by decide) (by decide +kernel) (by decide +kernel) (by decide +kernel)
  exact hlost specimen ((hkept herr specimen).mpr List.mem_cons_self)

end RefusalScenarios

section LastEviction

variable [Sha256] {σ : Type*}

/-- The last unexpired bundle evicted for an accepted one was needed: put
back, it would leave too little room. -/
def LastEvictionNeeded (nc : NodeController σ) (bundle : Bundle) (currentTime : Int64)
    (first second : IterationOrder Bundle) : Prop :=
  let evicted := (processIncomingBundle nc bundle currentTime first second).2.evicted
  ∀ before last after, evicted = before ++ last :: after →
    last.isExpired currentTime = false → (∀ a ∈ after, a.isExpired currentTime = true) →
    (dropAll nc.store evicted).usedBytes + last.size64 + bundle.size64 > nc.store.maxBytes

/-- The bundle would fit once these bundles are evicted. -/
def FitsWithout (bs : BundleStore) (bundle : Bundle) (part : List Bundle) : Prop :=
  (dropAll bs part).usedBytes + bundle.size64 ≤ bs.maxBytes

/-- Putting back the last dropped bundle restores the counter before it. -/
theorem usedBytes_dropAll_concat (bs : BundleStore) (part : List Bundle) (last : Bundle) :
    (dropAll bs (part ++ [last])).usedBytes + last.size64 = (dropAll bs part).usedBytes := by
  rw [dropAll_append]
  exact Int64.sub_add_cancel _ _

/-- A bundle accepted after a store-full error was valid, remote and new, and
what was evicted made room for its full size. -/
theorem evicted_of_accepted {nc : NodeController σ} {bundle : Bundle} {currentTime : Int64}
    {first second : IterationOrder Bundle}
    (hfull : ∃ err, (nc.store.store bundle).2 = some err ∧ isStoreFull err = true)
    (haccepted : (processIncomingBundle nc bundle currentTime first second).2.outcome =
      .ok .stored) :
    (processIncomingBundle nc bundle currentTime first second).2.evicted =
        makeRoom nc.store first second bundle.size64 currentTime ∧
      makeRoom nc.store first second bundle.size64 currentTime ≠ [] ∧
      bundle.size64 ≤
        (makeRoom nc.store first second bundle.size64 currentTime).foldl addFreed 0 := by
  obtain ⟨err, herr, hisfull⟩ := hfull
  cases hv : BundleProtocolAgent.validateBundle bundle currentTime with
  | some err =>
    rw [processIncomingBundle_of_invalid hv] at haccepted
    cases haccepted
  | none =>
    cases hl : nc.bpa.isLocalEndpoint bundle.destination with
    | true =>
      rw [processIncomingBundle_of_local hv hl] at haccepted
      cases haccepted
    | false =>
      cases hd : nc.store.bundles.lookup bundle.hash with
      | some old =>
        rw [processIncomingBundle_of_duplicate hv hl hd] at haccepted
        cases haccepted
      | none =>
        by_cases htest : nc.store.usedBytes + bundle.size64 > nc.store.maxBytes
        · rcases processIncomingBundle_of_full hv hl hd htest with
            ⟨hne, henough, -, heq⟩ | ⟨-, err, heq⟩
          · rw [heq]
            exact ⟨rfl, hne, henough⟩
          · rw [heq] at haccepted
            cases haccepted
        · rw [store_of_fits hd htest] at herr
          cases herr

variable {nc : NodeController σ} {bundle : Bundle} {currentTime : Int64}
  {first second : IterationOrder Bundle}

/-- The last evicted bundle is unexpired exactly when everything expired was
evicted before it. -/
theorem last_unexpired_iff {bs : BundleStore} {requiredBytes : Int64} {part : List Bundle}
    {last : Bundle}
    (h : makeRoom bs first second requiredBytes currentTime = part ++ [last]) :
    last.isExpired currentTime = false ↔ expiredIn bs first currentTime <+: part := by
  constructor
  · exact expired_isPrefix_of_unexpired h
  · intro hfirst
    have hn := nodup_makeRoom bs first second requiredBytes currentTime
    have hmem : last ∈ makeRoom bs first second requiredBytes currentTime := by
      rw [h]
      simp
    rw [← Bool.not_eq_true]
    intro hexp
    have hpart := hfirst.subset (mem_expiredIn.mpr ⟨mem_of_mem_makeRoom hmem, hexp⟩)
    rw [h] at hn
    exact (List.nodup_append'.mp hn).2.2 hpart (List.mem_singleton_self last)

/-- For an accepted bundle, the last eviction was needed exactly when, without
it, the bundle would not have fitted. -/
theorem lastEvictionNeeded_iff_not_fits
    (hfull : ∃ err, (nc.store.store bundle).2 = some err ∧ isStoreFull err = true)
    (haccepted : (processIncomingBundle nc bundle currentTime first second).2.outcome =
      .ok .stored) :
    LastEvictionNeeded nc bundle currentTime first second ↔
      ∀ part last, makeRoom nc.store first second bundle.size64 currentTime = part ++ [last] →
        last.isExpired currentTime = false → ¬FitsWithout nc.store bundle part := by
  have hevicted := (evicted_of_accepted hfull haccepted).1
  unfold LastEvictionNeeded FitsWithout
  simp only [hevicted]
  constructor
  · intro h part last hsplit hlast
    have hneed := h part last [] hsplit hlast (fun a ha => absurd ha List.not_mem_nil)
    rw [hsplit, usedBytes_dropAll_concat] at hneed
    exact Int64.not_le.mpr hneed
  · intro h before last after hsplit hlast hafter
    have hnil : after = [] := by
      refine List.eq_nil_iff_forall_not_mem.mpr fun a ha => ?_
      have hun := unexpired_after hsplit hlast ha
      rw [hafter a ha] at hun
      cases hun
    rw [hnil] at hsplit
    rw [hsplit, usedBytes_dropAll_concat]
    exact Int64.not_le.mp (h before last hsplit hlast)

/-- In an accounted store whose admission test of the bundle does not
overflow, fitting is a comparison of exact sums. -/
theorem fitsWithout_iff {bs : BundleStore} (h : Accounted bs) (hexact : NoOverflow bs bundle)
    {part : List Bundle} (hp : part <+: evictionOrder bs first second currentTime) :
    FitsWithout bs bundle part ↔
      bs.usedBytes.toInt - sumSize part + bundle.size ≤ bs.maxBytes.toInt := by
  have hused := toInt_usedBytes_dropAll h hp
  have hroom : NoOverflow (dropAll bs part) bundle := by
    unfold NoOverflow at hexact ⊢
    omega
  unfold FitsWithout
  rw [Int64.le_iff_toInt_le, toInt_put_of_noOverflow hroom, hused]

/-- An accounted store refuses a bundle as too large without overflow. -/
theorem noOverflow_of_storeFull (h : Accounted nc.store)
    (hfull : ∃ err, (nc.store.store bundle).2 = some err ∧ isStoreFull err = true) :
    NoOverflow nc.store bundle := by
  obtain ⟨err, herr, hisfull⟩ := hfull
  by_contra hover
  have hfits := fits_of_overflow h.nonneg (Int64.le_trans h.nonneg h.capacity) hover
  cases hd : nc.store.bundles.lookup bundle.hash with
  | some old =>
    rw [store_of_mem hd] at herr
    cases herr
    cases hisfull
  | none =>
    rw [store_of_fits hd hfits] at herr
    cases herr

/-- For an accepted bundle and an accounted store, the last eviction was
needed exactly when no part of the eviction order with everything expired
frees less than the bundle's full size and yet enough room for it. -/
theorem lastEvictionNeeded_iff_of_accounted (h : Accounted nc.store)
    (hfull : ∃ err, (nc.store.store bundle).2 = some err ∧ isStoreFull err = true)
    (haccepted : (processIncomingBundle nc bundle currentTime first second).2.outcome =
      .ok .stored) :
    LastEvictionNeeded nc bundle currentTime first second ↔
      ∀ part, part <+: evictionOrder nc.store first second currentTime →
        expiredIn nc.store first currentTime <+: part → sumSize part < bundle.size →
        nc.store.maxBytes.toInt < nc.store.usedBytes.toInt - sumSize part + bundle.size := by
  have hexact := noOverflow_of_storeFull h hfull
  obtain ⟨-, hne, henough⟩ := evicted_of_accepted hfull haccepted
  have hpre := makeRoom_isPrefix nc.store first second bundle.size64 currentTime
  rw [Int64.le_iff_toInt_le, toInt_freed h hpre, Bundle.toInt_size64] at henough
  rw [lastEvictionNeeded_iff_not_fits hfull haccepted]
  constructor
  · intro hneeded part hpart hexpired hless
    obtain ⟨taken, last, hsplit⟩ := List.eq_nil_or_concat' _ |>.resolve_left hne
    have htaken : taken <+: evictionOrder nc.store first second currentTime := by
      rw [hsplit] at hpre
      exact (List.prefix_append taken [last]).trans hpre
    -- a part that frees less than was taken ends before the last bundle taken
    have hshorter : part <+: taken := by
      rcases List.prefix_or_prefix_of_prefix hpart hpre with hle | hle
      · rw [hsplit] at hle
        rcases List.prefix_concat_iff.mp hle with heq | hle
        · rw [hsplit, ← heq] at henough
          omega
        · exact hle
      · have hsum := sumSize_le_of_isPrefix hle
        omega
    have hlast := (last_unexpired_iff hsplit).mpr (hexpired.trans hshorter)
    have hnot := hneeded taken last hsplit hlast
    rw [fitsWithout_iff h hexact htaken] at hnot
    have hsum := sumSize_le_of_isPrefix hshorter
    omega
  · intro hcond part last hsplit hlast
    have hpart : part <+: evictionOrder nc.store first second currentTime := by
      rw [hsplit] at hpre
      exact (List.prefix_append part [last]).trans hpre
    have hless : sumSize part < bundle.size := by
      by_cases hnil : part = []
      · have hsize := bundle.size_pos
        rw [hnil]
        change 0 < _
        omega
      · have hshorter : part <+: makeRoom nc.store first second bundle.size64 currentTime := by
          rw [hsplit]
          exact List.prefix_append part [last]
        have hproper : part ≠ makeRoom nc.store first second bundle.size64 currentTime := by
          rw [hsplit]
          simp
        have hstop := not_stop_of_isPrefix addFreed (bundle.size64 ≤ ·) hshorter hnil hproper
        rw [Int64.le_iff_toInt_le, toInt_freed h hpart, Bundle.toInt_size64] at hstop
        omega
    have hroom := hcond part hpart ((last_unexpired_iff hsplit).mp hlast) hless
    rw [fitsWithout_iff h hexact hpart]
    omega

/-- For every store, the last eviction for an accepted bundle was needed
exactly when the shortest part of the eviction order that frees the bundle's
full size would, without its last bundle, not have let it fit; for accounted
stores this is a condition on exact sums of sizes. -/
theorem lastEvictionNeeded_iff
    (hfull : ∃ err, (nc.store.store bundle).2 = some err ∧ isStoreFull err = true)
    (haccepted : (processIncomingBundle nc bundle currentTime first second).2.outcome =
      .ok .stored) :
    (LastEvictionNeeded nc bundle currentTime first second ↔
      ∀ part last, part ++ [last] <+: evictionOrder nc.store first second currentTime →
        expiredIn nc.store first currentTime <+: part →
        (∀ p, p ≠ [] → p <+: part → ¬bundle.size64 ≤ p.foldl addFreed 0) →
        bundle.size64 ≤ (part ++ [last]).foldl addFreed 0 →
        ¬FitsWithout nc.store bundle part) ∧
    (Accounted nc.store → (LastEvictionNeeded nc bundle currentTime first second ↔
      ∀ part, part <+: evictionOrder nc.store first second currentTime →
        expiredIn nc.store first currentTime <+: part → sumSize part < bundle.size →
        nc.store.maxBytes.toInt <
          nc.store.usedBytes.toInt - sumSize part + bundle.size)) := by
  refine ⟨?_, fun h => lastEvictionNeeded_iff_of_accounted h hfull haccepted⟩
  obtain ⟨-, hne, henough⟩ := evicted_of_accepted hfull haccepted
  have hunique : ∀ part last,
      makeRoom nc.store first second bundle.size64 currentTime = part ++ [last] ↔ _ :=
    fun part last => greedyPrefix_eq_concat_iff addFreed (bundle.size64 ≤ ·) henough hne
  rw [lastEvictionNeeded_iff_not_fits hfull haccepted]
  constructor
  · intro h part last horder hexpired hbefore hstop
    have hsplit := (hunique part last).mpr ⟨horder, hbefore, hstop⟩
    exact h part last hsplit ((last_unexpired_iff hsplit).mpr hexpired)
  · intro h part last hsplit hlast
    obtain ⟨horder, hbefore, hstop⟩ := (hunique part last).mp hsplit
    exact h part last horder ((last_unexpired_iff hsplit).mp hlast) hbefore hstop

end LastEviction

section LastEvictionScenarios

attribute [local instance] Sha256.transparent

/-- The only stored bundle has to go for one of its size. -/
theorem lastEvictionNeeded_of_single_bundle :
    LastEvictionNeeded (nodeWithStore ((newBundleStore 300).put specimen))
      (specimenNumbered 2 0) 200 (.listed Bundle) (.listed Bundle) := by
  have hnew : Accounted (newBundleStore 300) := accounted_newBundleStore (by decide)
  have hput : Accounted ((newBundleStore 300).put specimen) :=
    hnew.put (by decide) (by unfold NoOverflow; decide) (by decide)
  have horder : evictionOrder ((newBundleStore 300).put specimen) (.listed Bundle)
      (.listed Bundle) 200 = [] ++ [specimen] := by decide +kernel
  refine ((lastEvictionNeeded_iff ⟨.storeFull 256 44 300, by decide +kernel, rfl⟩
    (by decide +kernel)).2 hput).mpr fun part hpart _ hless => ?_
  change part <+: evictionOrder ((newBundleStore 300).put specimen) _ _ _ at hpart
  rw [horder] at hpart
  rcases List.prefix_concat_iff.mp hpart with hall | hnone
  · rw [hall] at hless
    exact absurd hless (by decide +kernel)
  · rw [List.prefix_nil.mp hnone]
    decide +kernel

/-- Two bundles are evicted although dropping the first made room enough. -/
theorem not_lastEvictionNeeded_of_free_room :
    ¬∀ (nc : NodeController Unit) (bundle : Bundle) (currentTime : Int64)
      (first second : IterationOrder Bundle),
      (∃ err, (nc.store.store bundle).2 = some err ∧ isStoreFull err = true) →
      (processIncomingBundle nc bundle currentTime first second).2.outcome = .ok .stored →
      LastEvictionNeeded nc bundle currentTime first second := by
  intro h
  have hneeded := h
    (nodeWithStore (((newBundleStore 700).put specimen).put (specimenNumbered 2 0)))
    (specimenNumbered 3 44) 200 (.listed Bundle) (.listed Bundle)
    ⟨.storeFull 300 188 700, by decide +kernel, rfl⟩ (by decide +kernel)
  have hlast := hneeded [specimenNumbered 2 0] specimen [] (by decide +kernel) (by decide)
    (fun a ha => absurd ha List.not_mem_nil)
  exact absurd hlast (by decide +kernel)

end LastEvictionScenarios

end CislunarDtn.NodeAdmission
