import CislunarDtn.BundleStorage
import CislunarDtn.GreedyPrefixes
import CislunarDtn.SelectionScans

/-!
# What the eviction loops of the store do

Each loop that deletes while it iterates is characterised once: removal by
identifier and eviction of the lowest priority drop one stored bundle,
EvictExpired drops exactly the expired ones, and EvictToFreeSpace drops the
shortest sufficient prefix of one fixed eviction order, or all of it.
-/

namespace CislunarDtn.StorageEvictions

open KeyedMaps Bundles BundleStorage GreedyPrefixes

/-- Adding the size of an evicted bundle to the bytes freed. -/
def addFreed (freedBytes : Int64) (bundle : Bundle) : Int64 := freedBytes + bundle.size64

/-- A running sum of freed bytes encodes the exact sum of the sizes. -/
theorem foldl_addFreed (l : List Bundle) (n : ℤ) :
    l.foldl addFreed (Int64.ofInt n) = Int64.ofInt (n + (l.map Bundle.size).sum) :=
  WrappedInt64.foldl_add_ofNat Bundle.size l n

/-- Bytes freed by evicting bundles whose sizes are within the word range. -/
theorem toInt_foldl_addFreed {l : List Bundle} (h : sumSize l < 2 ^ 63) :
    (l.foldl addFreed 0).toInt = sumSize l := by
  have hfold := foldl_addFreed l 0
  rw [Int.zero_add] at hfold
  exact WrappedInt64.toInt_eq_of_eq_ofInt hfold (by omega) (by exact_mod_cast h)

/-- Bytes freed do not depend on the order of eviction. -/
instance rightCommutative_addFreed : RightCommutative addFreed where
  right_comm n a b := by
    unfold addFreed
    rw [Int64.add_assoc, Int64.add_comm a.size64, Int64.add_assoc]

variable [Sha256]

/-- Drop the bundles of a list, one after the other. -/
def dropAll (bs : BundleStore) (l : List Bundle) : BundleStore := l.foldl BundleStore.drop bs

@[simp]
theorem dropAll_nil (bs : BundleStore) : dropAll bs [] = bs := rfl

@[simp]
theorem dropAll_cons (bs : BundleStore) (b : Bundle) (l : List Bundle) :
    dropAll bs (b :: l) = dropAll (bs.drop b) l := rfl

theorem dropAll_append (bs : BundleStore) (l m : List Bundle) :
    dropAll bs (l ++ m) = dropAll (dropAll bs l) m := List.foldl_append

@[simp]
theorem dropAll_bundles (bs : BundleStore) (l : List Bundle) :
    (dropAll bs l).bundles = bs.bundles.eraseAll l := by
  induction l generalizing bs with
  | nil => rfl
  | cons b l ih =>
    rw [dropAll_cons, ih]
    rfl

@[simp]
theorem dropAll_maxBytes (bs : BundleStore) (l : List Bundle) :
    (dropAll bs l).maxBytes = bs.maxBytes := by
  induction l generalizing bs with
  | nil => rfl
  | cons b l ih =>
    rw [dropAll_cons, ih]
    rfl

/-- The counter loses the exact sum of the dropped sizes, modulo the word size. -/
theorem dropAll_usedBytes (bs : BundleStore) (l : List Bundle) :
    (dropAll bs l).usedBytes = bs.usedBytes - Int64.ofInt (l.map Bundle.size).sum := by
  induction l generalizing bs with
  | nil => simp
  | cons b l ih =>
    have hd : (bs.drop b).usedBytes = bs.usedBytes - Int64.ofInt b.size := by
      rw [Int64.ofInt_eq_ofNat]
      rfl
    rw [dropAll_cons, ih, hd]
    simp only [List.map_cons, List.sum_cons, Nat.cast_add, Int64.ofInt_add,
      Int64.sub_eq_add_neg, Int64.neg_add, Int64.add_assoc]

/-- A bundle survives the dropping of stored bundles that it is not among. -/
theorem mem_dropAll {bs : BundleStore} {l : List Bundle} (hl : ∀ a ∈ l, a ∈ bs.bundles)
    {b : Bundle} : b ∈ (dropAll bs l).bundles ↔ b ∈ bs.bundles ∧ b ∉ l := by
  rw [dropAll_bundles, KeyedMap.mem_eraseAll]
  refine and_congr_right fun hb => ?_
  constructor
  · intro h hmem
    exact h b hmem rfl
  · intro h a ha hk
    rw [KeyedMap.eq_of_key_eq (hl a ha) hb hk] at ha
    exact h ha

/-- Distinct stored bundles and what is left without them make up the store. -/
theorem perm_append_dropAll {bs : BundleStore} {l : List Bundle} (hl : ∀ a ∈ l, a ∈ bs.bundles)
    (hn : l.Nodup) : bs.bundles.values.Perm (l ++ (dropAll bs l).bundles.values) := by
  rw [dropAll_bundles]
  exact KeyedMap.perm_append_eraseAll hl hn

/-- Dropping one stored bundle leaves the others. -/
theorem mem_drop {bs : BundleStore} {a b : Bundle} (ha : a ∈ bs.bundles) :
    b ∈ (bs.drop a).bundles ↔ b ∈ bs.bundles ∧ b ≠ a := by
  have hone : ∀ c ∈ [a], c ∈ bs.bundles := by
    intro c hc
    rw [List.mem_singleton.mp hc]
    exact ha
  have hdrop := mem_dropAll hone (b := b)
  rw [List.mem_singleton] at hdrop
  exact hdrop

/-- Removal by identifier fails on an absent identifier and otherwise drops
the bundle stored under it. -/
theorem removeByID_cases (bs : BundleStore) (bundleID : BundleID) :
    (bs.bundles.lookup bundleID.hash = none ∧
      bs.removeByID bundleID = (bs, some (BundleStore.notFound bundleID))) ∨
    ∃ b ∈ bs.bundles, b.hash = bundleID.hash ∧ bs.removeByID bundleID = (bs.drop b, none) := by
  cases hl : bs.bundles.lookup bundleID.hash with
  | none =>
    refine Or.inl ⟨rfl, ?_⟩
    simp only [BundleStore.removeByID, hl]
  | some b =>
    obtain ⟨hb, hk⟩ := KeyedMap.lookup_eq_some_iff.mp hl
    refine Or.inr ⟨b, hb, hk, ?_⟩
    simp only [BundleStore.removeByID, hl, BundleStore.drop, hk]

/-- Deleting a stored bundle by its identifier drops it. -/
theorem delete_of_mem {bs : BundleStore} {b : Bundle} (h : b ∈ bs.bundles) :
    bs.delete b.id = (bs.drop b, none) := by
  have hl : bs.bundles.lookup b.id.hash = some b := KeyedMap.lookup_of_mem h
  simp only [BundleStore.delete, BundleStore.removeByID, hl]
  rfl

omit [Sha256] in
/-- The search for the lowest priority returns a visited bundle. -/
theorem findLowestPriority_mem {visited : List Bundle} {b : Bundle}
    (h : BundleStore.findLowestPriority visited = some b) : b ∈ visited := by
  refine (SelectionScans.foldl_select (fun _ => True) ?_ h).1
  intro lowest bundle
  cases lowest with
  | none => exact Or.inr ⟨rfl, trivial⟩
  | some best =>
    by_cases hlt : bundle.priority < best.priority
    · exact Or.inr ⟨if_pos hlt, trivial⟩
    · exact Or.inl (if_neg hlt)

/-- Evicting the lowest priority changes nothing or drops one stored bundle. -/
theorem evictLowestPriority_cases (bs : BundleStore) (order : IterationOrder Bundle) :
    (bs.evictLowestPriority order).1 = bs ∨
      ∃ b ∈ bs.bundles, (bs.evictLowestPriority order).1 = bs.drop b := by
  cases hf : BundleStore.findLowestPriority (order.arrange bs.bundles.values) with
  | none =>
    left
    simp only [BundleStore.evictLowestPriority, hf]
  | some b =>
    have hb := findLowestPriority_mem hf
    refine Or.inr ⟨b, order.mem_arrange.mp hb, ?_⟩
    simp only [BundleStore.evictLowestPriority, hf]

/-- The bundles EvictExpired visits and finds expired. -/
def expiredIn (bs : BundleStore) (order : IterationOrder Bundle) (currentTime : Int64) :
    List Bundle :=
  (order.arrange bs.bundles.values).filter fun bundle => bundle.isExpired currentTime

theorem mem_expiredIn {bs : BundleStore} {order : IterationOrder Bundle} {currentTime : Int64}
    {b : Bundle} :
    b ∈ expiredIn bs order currentTime ↔ b ∈ bs.bundles ∧ b.isExpired currentTime = true := by
  rw [expiredIn, List.mem_filter, order.mem_arrange, KeyedMap.mem_def]

theorem nodup_expiredIn (bs : BundleStore) (order : IterationOrder Bundle) (currentTime : Int64) :
    (expiredIn bs order currentTime).Nodup :=
  (KeyedMap.nodup_arrange bs.bundles order).filter _

/-- EvictExpired drops the expired bundles and returns their number. -/
theorem evictExpired_eq (bs : BundleStore) (order : IterationOrder Bundle) (currentTime : Int64) :
    bs.evictExpired order currentTime =
      (dropAll bs (expiredIn bs order currentTime), (expiredIn bs order currentTime).length) := by
  have hloop : ∀ (l : List Bundle) (st : BundleStore) (n : ℕ),
      l.foldl (fun result bundle =>
        if bundle.isExpired currentTime then (result.1.drop bundle, result.2 + 1) else result)
        (st, n) =
      (dropAll st (l.filter fun bundle => bundle.isExpired currentTime),
        n + (l.filter fun bundle => bundle.isExpired currentTime).length) := by
    intro l
    induction l with
    | nil =>
      intro st n
      rfl
    | cons b l ih =>
      intro st n
      rw [List.foldl_cons]
      by_cases hb : b.isExpired currentTime = true
      · have hf : (b :: l).filter (fun bundle => bundle.isExpired currentTime) =
            b :: l.filter (fun bundle => bundle.isExpired currentTime) :=
          List.filter_cons_of_pos hb
        have hn : n + 1 + (l.filter fun bundle => bundle.isExpired currentTime).length =
            n + ((l.filter fun bundle => bundle.isExpired currentTime).length + 1) := by omega
        rw [if_pos hb, ih, hf, List.length_cons, dropAll_cons, hn]
      · have hf : (b :: l).filter (fun bundle => bundle.isExpired currentTime) =
            l.filter (fun bundle => bundle.isExpired currentTime) := List.filter_cons_of_neg hb
        rw [if_neg hb, ih, hf]
  rw [BundleStore.evictExpired, hloop, Nat.zero_add]
  rfl

/-- After EvictExpired exactly the unexpired bundles remain. -/
theorem mem_evictExpired {bs : BundleStore} {order : IterationOrder Bundle} {currentTime : Int64}
    {b : Bundle} :
    b ∈ (bs.evictExpired order currentTime).1.bundles ↔
      b ∈ bs.bundles ∧ b.isExpired currentTime = false := by
  rw [evictExpired_eq, mem_dropAll fun a ha => (mem_expiredIn.mp ha).1, mem_expiredIn]
  simp only [not_and, Bool.not_eq_true]
  exact ⟨fun h => ⟨h.1, h.2 h.1⟩, fun h => ⟨h.1, fun _ => h.2⟩⟩

/-- One eviction loop drops the greedy prefix of the bundles it picks. -/
theorem evictPass_eq (requiredBytes : Int64) (picked : Bundle → Bool) (visited : List Bundle)
    (st : BundleStore.EvictionState) :
    BundleStore.evictPass requiredBytes picked visited st =
      let taken := greedyPrefix addFreed (requiredBytes ≤ ·) st.freedBytes (visited.filter picked)
      (⟨dropAll st.store taken, taken.foldl addFreed st.freedBytes, st.evicted ++ taken⟩,
        decide (taken ≠ [] ∧ requiredBytes ≤ taken.foldl addFreed st.freedBytes)) := by
  induction visited generalizing st with
  | nil => simp [BundleStore.evictPass, greedyPrefix]
  | cons b visited ih =>
    by_cases hp : picked b = true
    · by_cases hs : requiredBytes ≤ addFreed st.freedBytes b
      · have hs' : st.freedBytes + b.size64 ≥ requiredBytes := hs
        rw [List.filter_cons_of_pos hp, greedyPrefix_cons_of_stop _ _ _ hs]
        simp only [BundleStore.evictPass, if_pos hp, if_pos hs']
        simp [addFreed]
        exact hs
      · have hs' : ¬st.freedBytes + b.size64 ≥ requiredBytes := hs
        rw [List.filter_cons_of_pos hp, greedyPrefix_cons_of_not_stop _ _ _ hs]
        simp only [BundleStore.evictPass, if_pos hp, if_neg hs']
        rw [ih]
        simp only [dropAll_cons, List.foldl_cons, List.append_assoc, List.singleton_append]
        -- with nothing more to take, the freed bytes are those that did not suffice
        cases hg : greedyPrefix addFreed (requiredBytes ≤ ·) (addFreed st.freedBytes b)
            (visited.filter picked) with
        | nil =>
          have hg' : greedyPrefix addFreed (requiredBytes ≤ ·) (st.freedBytes + b.size64)
              (visited.filter picked) = [] := hg
          simp [hg', addFreed] at hs' ⊢
          exact hs'
        | cons c rest =>
          have hg' : greedyPrefix addFreed (requiredBytes ≤ ·) (st.freedBytes + b.size64)
              (visited.filter picked) = c :: rest := hg
          simp [hg', addFreed]
    · rw [List.filter_cons_of_neg hp]
      simp only [BundleStore.evictPass, if_neg hp]
      exact ih st

/-- The order in which EvictToFreeSpace would empty the store: the expired
bundles as the first loop visits them, then the others by ascending priority. -/
def evictionOrder (bs : BundleStore) (first second : IterationOrder Bundle)
    (currentTime : Int64) : List Bundle :=
  expiredIn bs first currentTime ++
    sortLowestFirst (second.arrange
      (dropAll bs (expiredIn bs first currentTime)).bundles.values)

/-- The bundles EvictToFreeSpace evicts: the eviction order, up to and
including the first bundle at which enough has been freed. -/
def makeRoom (bs : BundleStore) (first second : IterationOrder Bundle)
    (requiredBytes currentTime : Int64) : List Bundle :=
  greedyPrefix addFreed (requiredBytes ≤ ·) 0 (evictionOrder bs first second currentTime)

/-- EvictToFreeSpace drops that prefix, reports it and its size, and fails
exactly when nothing was dropped or too little was freed. -/
theorem evictToFreeSpace_eq (bs : BundleStore) (first second : IterationOrder Bundle)
    (requiredBytes currentTime : Int64) :
    bs.evictToFreeSpace first second requiredBytes currentTime =
      let taken := makeRoom bs first second requiredBytes currentTime
      let freedBytes := taken.foldl addFreed 0
      (dropAll bs taken, ⟨taken, freedBytes,
        if taken ≠ [] ∧ requiredBytes ≤ freedBytes then none
        else some (.errorf (ascii "could not free " ++ formatInt64 requiredBytes ++
          ascii " bytes, only freed " ++ formatInt64 freedBytes))⟩) := by
  unfold BundleStore.evictToFreeSpace makeRoom evictionOrder
  have hvisited : (first.arrange bs.bundles.values).filter
      (fun bundle => bundle.isExpired currentTime) = expiredIn bs first currentTime := rfl
  simp only [evictPass_eq, hvisited, List.nil_append, List.filter_true]
  generalize hE : expiredIn bs first currentTime = E
  by_cases hfull : greedyPrefix addFreed (requiredBytes ≤ ·) 0 E ≠ [] ∧
      requiredBytes ≤ (greedyPrefix addFreed (requiredBytes ≤ ·) 0 E).foldl addFreed 0
  · -- the expired bundles sufficed: the second loop is not reached
    have hne : E ≠ [] := by
      intro h
      rw [h] at hfull
      exact hfull.1 rfl
    rw [greedyPrefix_append_of_stop addFreed _ _ hne hfull.2]
    simp only [hfull, decide_true, if_true, ne_eq, not_false_eq_true, and_self]
  · have hrest : E = [] ∨
        ¬requiredBytes ≤ (greedyPrefix addFreed (requiredBytes ≤ ·) 0 E).foldl addFreed 0 := by
      by_cases hE' : E = []
      · exact Or.inl hE'
      · refine Or.inr fun hle => hfull ⟨?_, hle⟩
        exact greedyPrefix_ne_nil addFreed _ hE'
    have hall : greedyPrefix addFreed (requiredBytes ≤ ·) 0 E = E := by
      rcases hrest with h | h
      · rw [h]
        rfl
      · exact greedyPrefix_eq_self addFreed _ h
    rw [greedyPrefix_append_of_not_stop addFreed _ _ hrest]
    rw [hall] at hfull ⊢
    simp only [hfull, decide_false, Bool.false_eq_true, if_false]
    generalize sortLowestFirst (second.arrange (dropAll bs E).bundles.values) = entries
    cases hT : greedyPrefix addFreed (requiredBytes ≤ ·) (E.foldl addFreed 0) entries with
    | nil =>
      simp only [ne_eq, not_true_eq_false, false_and, decide_false, Bool.false_eq_true, if_false,
        List.append_nil, dropAll_nil, List.foldl_nil, hfull]
    | cons b rest =>
      have hne : E ++ b :: rest ≠ [] := by simp
      rw [← dropAll_append, ← List.foldl_append]
      simp only [ne_eq, reduceCtorEq, not_false_eq_true, true_and, hne, decide_eq_true_eq]
      split <;> rfl

/-- The eviction order lists exactly the stored bundles. -/
@[simp]
theorem mem_evictionOrder {bs : BundleStore} {first second : IterationOrder Bundle}
    {currentTime : Int64} {b : Bundle} :
    b ∈ evictionOrder bs first second currentTime ↔ b ∈ bs.bundles := by
  have hsort : b ∈ sortLowestFirst (second.arrange
      (dropAll bs (expiredIn bs first currentTime)).bundles.values) ↔
      b ∈ (dropAll bs (expiredIn bs first currentTime)).bundles := by
    rw [sortLowestFirst, (List.perm_insertionSort _ _).mem_iff, second.mem_arrange,
      KeyedMap.mem_def]
  rw [evictionOrder, List.mem_append, hsort, mem_dropAll fun a ha => (mem_expiredIn.mp ha).1]
  constructor
  · intro h
    rcases h with h | h
    · exact (mem_expiredIn.mp h).1
    · exact h.1
  · intro h
    by_cases he : b ∈ expiredIn bs first currentTime
    · exact Or.inl he
    · exact Or.inr ⟨h, he⟩

/-- No bundle is listed twice for eviction. -/
theorem nodup_evictionOrder (bs : BundleStore) (first second : IterationOrder Bundle)
    (currentTime : Int64) : (evictionOrder bs first second currentTime).Nodup := by
  have hrest : (sortLowestFirst (second.arrange
      (dropAll bs (expiredIn bs first currentTime)).bundles.values)).Nodup :=
    (List.perm_insertionSort _ _).nodup_iff.mpr (KeyedMap.nodup_arrange _ second)
  refine List.nodup_append'.mpr ⟨nodup_expiredIn bs first currentTime, hrest, ?_⟩
  intro b hb hrest
  rw [sortLowestFirst, (List.perm_insertionSort _ _).mem_iff, second.mem_arrange,
    ← KeyedMap.mem_def, mem_dropAll fun a ha => (mem_expiredIn.mp ha).1] at hrest
  exact hrest.2 hb

/-- The eviction order is an order of the stored bundles. -/
theorem perm_evictionOrder (bs : BundleStore) (first second : IterationOrder Bundle)
    (currentTime : Int64) :
    (evictionOrder bs first second currentTime).Perm bs.bundles.values := by
  refine (List.perm_ext_iff_of_nodup (nodup_evictionOrder _ _ _ _) ?_).mpr fun b => ?_
  · exact List.Nodup.of_map _ bs.bundles.nodup
  · rw [mem_evictionOrder, KeyedMap.mem_def]

variable {bs : BundleStore} {first second : IterationOrder Bundle}
  {requiredBytes currentTime : Int64}

theorem makeRoom_isPrefix (bs : BundleStore) (first second : IterationOrder Bundle)
    (requiredBytes currentTime : Int64) :
    makeRoom bs first second requiredBytes currentTime <+:
      evictionOrder bs first second currentTime :=
  greedyPrefix_isPrefix addFreed _ 0 _

theorem mem_of_mem_makeRoom {b : Bundle}
    (h : b ∈ makeRoom bs first second requiredBytes currentTime) : b ∈ bs.bundles :=
  mem_evictionOrder.mp ((makeRoom_isPrefix _ _ _ _ _).subset h)

theorem nodup_makeRoom (bs : BundleStore) (first second : IterationOrder Bundle)
    (requiredBytes currentTime : Int64) :
    (makeRoom bs first second requiredBytes currentTime).Nodup :=
  (nodup_evictionOrder bs first second currentTime).sublist (makeRoom_isPrefix _ _ _ _ _).sublist

/-- An unexpired bundle is evicted only behind all the expired ones. -/
theorem expired_isPrefix_of_unexpired {b : Bundle} {before after : List Bundle}
    (h : makeRoom bs first second requiredBytes currentTime = before ++ b :: after)
    (hb : b.isExpired currentTime = false) : expiredIn bs first currentTime <+: before := by
  have hpre := makeRoom_isPrefix bs first second requiredBytes currentTime
  rw [h] at hpre
  have hbefore : before <+: evictionOrder bs first second currentTime :=
    (List.prefix_append before (b :: after)).trans hpre
  have hexpired : expiredIn bs first currentTime <+: evictionOrder bs first second currentTime :=
    List.prefix_append _ _
  rcases List.prefix_or_prefix_of_prefix hexpired hbefore with hle | hle
  · exact hle
  · -- otherwise b itself stands among the expired bundles
    by_contra hnot
    obtain ⟨rest, hrest⟩ := hle
    cases rest with
    | nil =>
      rw [List.append_nil] at hrest
      exact hnot (hrest ▸ List.prefix_rfl)
    | cons c rest =>
      have hc : before ++ [c] <+: before ++ b :: after := by
        have hlong : before ++ [c] <+: expiredIn bs first currentTime :=
          ⟨rest, by rw [← hrest, List.append_assoc]; rfl⟩
        refine List.prefix_of_prefix_length_le (hlong.trans hexpired) hpre ?_
        simp
      have hcb : c = b := by
        rw [List.prefix_append_right_inj, List.cons_prefix_cons] at hc
        exact hc.1
      have hmem : c ∈ expiredIn bs first currentTime := by
        rw [← hrest]
        simp
      rw [hcb] at hmem
      rw [(mem_expiredIn.mp hmem).2] at hb
      exact Bool.noConfusion hb

/-- Behind an unexpired bundle nothing expired is evicted. -/
theorem unexpired_after {b : Bundle} {before after : List Bundle}
    (h : makeRoom bs first second requiredBytes currentTime = before ++ b :: after)
    (hb : b.isExpired currentTime = false) {a : Bundle} (ha : a ∈ after) :
    a.isExpired currentTime = false := by
  have hn := nodup_makeRoom bs first second requiredBytes currentTime
  have hmem : a ∈ makeRoom bs first second requiredBytes currentTime := by
    rw [h]
    exact List.mem_append_right _ (List.mem_cons_of_mem b ha)
  have hfirst := expired_isPrefix_of_unexpired h hb
  rw [← Bool.not_eq_true]
  intro hexp
  have hbefore := hfirst.subset (mem_expiredIn.mpr ⟨mem_of_mem_makeRoom hmem, hexp⟩)
  rw [h] at hn
  exact (List.nodup_append'.mp hn).2.2 hbefore (List.mem_cons_of_mem b ha)

/-- A failed call has emptied the store. -/
theorem makeRoom_eq_of_insufficient
    (h : ¬requiredBytes ≤ (makeRoom bs first second requiredBytes currentTime).foldl addFreed 0) :
    makeRoom bs first second requiredBytes currentTime =
      evictionOrder bs first second currentTime :=
  greedyPrefix_eq_self addFreed _ h

end CislunarDtn.StorageEvictions
