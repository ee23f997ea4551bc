import CislunarDtn.EvictionRanks
import CislunarDtn.NodeAdmission

/-!
# What an eviction is meant to take

In an accounted store an eviction takes bundles of lower rank first, returns
what it freed, takes no more than is needed and fails only if nothing is left.
A bundle for whose full size it made room is then stored.
-/

namespace CislunarDtn.EvictionLaws

open KeyedMaps Bundles BundleStorage BundleAgents NodeControllers NodeCycles NodeAdmission
  GreedyPrefixes RankedPrefixes StorageEvictions StorageAccounting EvictionRanks

section evictions

variable [Sha256]

/-- The laws of one call that frees space. -/
structure FreesSpace (bs : BundleStore) (first second : IterationOrder Bundle)
    (requiredBytes currentTime : Int64) : Prop where
  /-- Stored bundles are evicted, each once. -/
  stored : (bs.evictToFreeSpace first second requiredBytes currentTime).2.evicted.Nodup ∧
    ∀ b ∈ (bs.evictToFreeSpace first second requiredBytes currentTime).2.evicted, b ∈ bs.bundles
  /-- The others remain. -/
  remaining : ∀ b, b ∈ (bs.evictToFreeSpace first second requiredBytes currentTime).1.bundles ↔
    b ∈ bs.bundles ∧ b ∉ (bs.evictToFreeSpace first second requiredBytes currentTime).2.evicted
  /-- When an unexpired bundle is evicted, those that have expired and those of
  lower priority are gone. -/
  ordered : ∀ before b after,
    (bs.evictToFreeSpace first second requiredBytes currentTime).2.evicted =
        before ++ b :: after → b.isExpired currentTime = false →
      ∀ a ∈ bs.bundles, a.isExpired currentTime = true ∨ a.priority < b.priority → a ∈ before
  /-- The evicted sizes are returned. -/
  freed : (bs.evictToFreeSpace first second requiredBytes currentTime).2.freedBytes.toInt =
    sumSize (bs.evictToFreeSpace first second requiredBytes currentTime).2.evicted
  /-- The counter decreases by them. -/
  counted : (bs.evictToFreeSpace first second requiredBytes currentTime).1.usedBytes.toInt =
    bs.usedBytes.toInt -
      sumSize (bs.evictToFreeSpace first second requiredBytes currentTime).2.evicted
  /-- The call succeeds if they suffice. -/
  succeeds : (bs.evictToFreeSpace first second requiredBytes currentTime).2.err = none ↔
    requiredBytes.toInt ≤
      sumSize (bs.evictToFreeSpace first second requiredBytes currentTime).2.evicted
  /-- Without the last one they do not. -/
  minimal : ∀ before last,
    (bs.evictToFreeSpace first second requiredBytes currentTime).2.evicted = before ++ [last] →
      (sumSize before : ℤ) < requiredBytes.toInt
  /-- A call that fails leaves nothing. -/
  failing : (bs.evictToFreeSpace first second requiredBytes currentTime).2.err ≠ none →
    ∀ b, b ∉ (bs.evictToFreeSpace first second requiredBytes currentTime).1.bundles

variable {bs : BundleStore} {first second : IterationOrder Bundle}
  {requiredBytes currentTime : Int64}

/-- Bundles of lower rank are taken before an unexpired one. -/
theorem mem_before_of_lower {before after : List Bundle} {a b : Bundle}
    (h : makeRoom bs first second requiredBytes currentTime = before ++ b :: after)
    (hb : b.isExpired currentTime = false) (ha : a ∈ bs.bundles)
    (hlower : a.isExpired currentTime = true ∨ a.priority < b.priority) : a ∈ before := by
  have hrank := (evictionRank_lt_iff hb).mpr hlower
  have hpre : before ++ [b] <+: evictionOrder bs first second currentTime := by
    refine List.IsPrefix.trans ?_ (makeRoom_isPrefix bs first second requiredBytes currentTime)
    rw [h]
    exact ⟨after, by simp⟩
  have hpart := (arranged_evictionOrder bs first second currentTime).lowerPart
    (nodup_values bs) hpre
  have hmem := hpart.closed b (List.mem_append_right _ List.mem_cons_self) a ha hrank
  rcases List.mem_append.mp hmem with hbefore | hself
  · exact hbefore
  · rw [List.mem_singleton.mp hself] at hrank
    exact absurd hrank (lt_irrefl _)

/-- In an accounted store a part of the eviction order suffices if its bytes do. -/
theorem freed_le_iff (h : Accounted bs) {part : List Bundle}
    (hp : part <+: evictionOrder bs first second currentTime) :
    requiredBytes ≤ part.foldl addFreed 0 ↔ requiredBytes.toInt ≤ sumSize part := by
  rw [Int64.le_iff_toInt_le, toInt_freed h hp]

/-- Without its last bundle the part that is taken does not suffice. -/
theorem sumSize_lt_of_concat (h : Accounted bs) (hpos : 0 < requiredBytes) {before : List Bundle}
    {last : Bundle}
    (htaken : makeRoom bs first second requiredBytes currentTime = before ++ [last]) :
    (sumSize before : ℤ) < requiredBytes.toInt := by
  have hpre := makeRoom_isPrefix bs first second requiredBytes currentTime
  rw [htaken] at hpre
  have hbefore := (List.prefix_append before [last]).trans hpre
  rw [Int64.lt_iff_toInt_lt] at hpos
  rcases List.eq_nil_or_concat before with rfl | ⟨_, _, rfl⟩
  · exact hpos
  · have hshort := not_stop_of_isPrefix addFreed (requiredBytes ≤ ·) (htaken ▸
      List.prefix_append _ [last]) (by simp) fun heq => by
        have hlength := congrArg List.length (heq.trans htaken)
        simp at hlength
    rw [freed_le_iff h hbefore] at hshort
    omega

/-- Every call on an accounted store that asks for some space keeps the laws. -/
theorem freesSpace (h : Accounted bs) (hpos : 0 < requiredBytes) :
    FreesSpace bs first second requiredBytes currentTime := by
  have hpre := makeRoom_isPrefix bs first second requiredBytes currentTime
  have hmem : ∀ a ∈ makeRoom bs first second requiredBytes currentTime, a ∈ bs.bundles :=
    fun a ha => mem_of_mem_makeRoom ha
  have hsucceeds : (bs.evictToFreeSpace first second requiredBytes currentTime).2.err = none ↔
      requiredBytes.toInt ≤ sumSize (makeRoom bs first second requiredBytes currentTime) := by
    rw [evictToFreeSpace_eq, ← freed_le_iff h hpre]
    have hsome : ∀ taken : List Bundle, requiredBytes ≤ taken.foldl addFreed 0 → taken ≠ [] := by
      intro taken hle hnil
      rw [hnil] at hle
      exact absurd hpos (Int64.not_lt.mpr hle)
    by_cases hle : requiredBytes ≤
        (makeRoom bs first second requiredBytes currentTime).foldl addFreed 0
    · simp [hle, hsome _ hle]
    · simp [hle]
  refine ⟨?_, fun b => ?_, fun before b after htaken hb a ha hlower => ?_, ?_, ?_, ?_,
    fun before last htaken => ?_, fun herr b hb => ?_⟩
  · rw [evicted_evictToFreeSpace]
    exact ⟨nodup_makeRoom bs first second requiredBytes currentTime, hmem⟩
  · rw [evicted_evictToFreeSpace]
    exact mem_evictToFreeSpace
  · rw [evicted_evictToFreeSpace] at htaken
    exact mem_before_of_lower htaken hb ha hlower
  · rw [evictToFreeSpace_eq]
    exact toInt_freed h hpre
  · rw [evictToFreeSpace_eq]
    exact toInt_usedBytes_dropAll h hpre
  · rw [evicted_evictToFreeSpace]
    exact hsucceeds
  · rw [evicted_evictToFreeSpace] at htaken
    exact sumSize_lt_of_concat h hpos htaken
  · rw [ne_eq, hsucceeds, ← freed_le_iff h hpre] at herr
    obtain ⟨hstored, hout⟩ := mem_evictToFreeSpace.mp hb
    rw [makeRoom_eq_of_insufficient herr] at hout
    exact hout (mem_evictionOrder.mpr hstored)

end evictions

section admissions

variable [Sha256] {σ : Type*}

/-- An eviction for the full size of a bundle that did not fit, if it succeeds,
makes the second attempt to store the bundle succeed. -/
structure AdmitsAfterEviction (nc : NodeController σ) (bundle : Bundle) (currentTime : Int64)
    (first second : IterationOrder Bundle) : Prop where
  /-- The second call of Store returns no error. -/
  secondStore : (∃ err, (nc.store.store bundle).2 = some err ∧ isStoreFull err = true) →
    (nc.store.evictToFreeSpace first second bundle.size64 currentTime).2.err = none →
      ((nc.store.evictToFreeSpace first second bundle.size64 currentTime).1.store bundle).2 = none
  /-- Processing a valid bundle for another endpoint ends with the bundle stored. -/
  processed : BundleProtocolAgent.validateBundle bundle currentTime = none →
    nc.bpa.isLocalEndpoint bundle.destination = false →
      (∃ err, (nc.store.store bundle).2 = some err ∧ isStoreFull err = true) →
        (nc.store.evictToFreeSpace first second bundle.size64 currentTime).2.err = none →
          (processIncomingBundle nc bundle currentTime first second).2.outcome = .ok .stored

/-- Only a bundle under a fresh identifier is refused because the store is full. -/
theorem lookup_of_storeFull {bs : BundleStore} {bundle : Bundle}
    (h : ∃ err, (bs.store bundle).2 = some err ∧ isStoreFull err = true) :
    bs.bundles.lookup bundle.hash = none ∧ bs.usedBytes + bundle.size64 > bs.maxBytes := by
  obtain ⟨err, herr, hfull⟩ := h
  cases hd : bs.bundles.lookup bundle.hash with
  | some old =>
    rw [store_of_mem hd] at herr
    cases herr
    cases hfull
  | none =>
    refine ⟨rfl, ?_⟩
    by_contra hfits
    rw [store_of_fits hd hfits] at herr
    cases herr

theorem secondStore_of_evicted {bs : BundleStore} (h : Accounted bs) {bundle : Bundle}
    {first second : IterationOrder Bundle} {currentTime : Int64}
    (hnew : bs.bundles.lookup bundle.hash = none)
    (hfreed : bundle.size64 ≤
      (makeRoom bs first second bundle.size64 currentTime).foldl addFreed 0) :
    ((dropAll bs (makeRoom bs first second bundle.size64 currentTime)).store bundle).2 = none := by
  have hstill : (dropAll bs (makeRoom bs first second bundle.size64 currentTime)).bundles.lookup
      bundle.hash = none := by
    refine KeyedMap.lookup_eq_none_iff.mpr fun a ha => ?_
    rw [mem_dropAll fun c hc => mem_of_mem_makeRoom hc] at ha
    exact KeyedMap.lookup_eq_none_iff.mp hnew a ha.1
  rw [store_of_fits hstill (fits_of_freed h (makeRoom_isPrefix _ _ _ _ _) hfreed)]

theorem admitsAfterEviction {nc : NodeController σ} (h : Accounted nc.store) (bundle : Bundle)
    (currentTime : Int64) (first second : IterationOrder Bundle) :
    AdmitsAfterEviction nc bundle currentTime first second := by
  have hpos : 0 < bundle.size64 := by
    have hsize := bundle.size_pos
    have hzero : (0 : Int64).toInt = 0 := rfl
    rw [Int64.lt_iff_toInt_lt, Bundle.toInt_size64, hzero]
    omega
  have hlaws : FreesSpace nc.store first second bundle.size64 currentTime := freesSpace h hpos
  have hpre := makeRoom_isPrefix nc.store first second bundle.size64 currentTime
  have hfreed : (nc.store.evictToFreeSpace first second bundle.size64 currentTime).2.err = none →
      bundle.size64 ≤
        (makeRoom nc.store first second bundle.size64 currentTime).foldl addFreed 0 := by
    intro herr
    have hsum := hlaws.succeeds.mp herr
    rw [evicted_evictToFreeSpace] at hsum
    exact (freed_le_iff h hpre).mpr hsum
  refine ⟨fun hfull herr => ?_, fun hvalid hremote hfull herr => ?_⟩
  · have hnew := (lookup_of_storeFull hfull).1
    rw [evictToFreeSpace_eq]
    exact secondStore_of_evicted h hnew (hfreed herr)
  · obtain ⟨hnew, hfull⟩ := lookup_of_storeFull hfull
    have hheld : bundle.size64 ≤ nc.store.usedBytes := by
      have hsum := hfreed herr
      rw [freed_le_iff h hpre] at hsum
      have hle := sumSize_le_totalBytes hpre
      have hexact := h.exact
      rw [Int64.le_iff_toInt_le]
      omega
    rw [accepted_of_full h hvalid hremote hnew hfull hheld]

/-- In an accounted store every eviction that asks for some space keeps the
laws, and a bundle it made room for is stored. -/
theorem evictionLaws (nc : NodeController σ) (h : Accounted nc.store) :
    (∀ (first second : IterationOrder Bundle) (requiredBytes currentTime : Int64),
      0 < requiredBytes → FreesSpace nc.store first second requiredBytes currentTime) ∧
    ∀ (bundle : Bundle) (currentTime : Int64) (first second : IterationOrder Bundle),
      AdmitsAfterEviction nc bundle currentTime first second :=
  ⟨fun _ _ _ _ hpos => freesSpace h hpos, admitsAfterEviction h⟩

end admissions

section scenarios

attribute [local instance] Sha256.transparent

/-- A full store with one bundle frees one byte, and a bundle of its size takes its place. -/
theorem evictionLaws_single :
    FreesSpace ((newBundleStore 300).put specimen) (.listed Bundle) (.listed Bundle) 1 200 ∧
      (processIncomingBundle (nodeWithStore ((newBundleStore 300).put specimen))
        (specimenNumbered 2 0) 200 (.listed Bundle) (.listed Bundle)).2.outcome =
          .ok .stored := by
  have hnew : Accounted (newBundleStore 300) := accounted_newBundleStore (by decide)
  have hput : Accounted ((newBundleStore 300).put specimen) :=
    hnew.put (by decide) (by unfold NoOverflow; decide) (by decide)
  have hlaws := evictionLaws (nodeWithStore ((newBundleStore 300).put specimen)) hput
  refine ⟨hlaws.1 _ _ 1 200 (by decide), (hlaws.2 _ 200 _ _).processed ?_ ?_ ?_ ?_⟩
  · decide
  · decide
  · exact ⟨_, rfl, rfl⟩
  · decide +kernel

end scenarios

end CislunarDtn.EvictionLaws
