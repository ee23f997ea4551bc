import CislunarDtn.RankedPrefixes
import CislunarDtn.StorageAccounting
import CislunarDtn.TerminatedLines
import Mathlib.Data.Int.ConditionallyCompleteOrder
import Mathlib.Order.WithBot

/-!
# Which bundles an eviction chooses

Expired bundles are evicted before the others, and those by ascending priority.
Among bundles of one rank the iteration of the map chooses. The choice makes no
difference exactly if the ranks that eviction reaches are evicted whole, and a
creation time stamp is looked at by nothing.
-/

namespace CislunarDtn.EvictionRanks

open KeyedMaps Bundles BundleStorage GreedyPrefixes RankedPrefixes SelectionScans
  StorageEvictions StorageAccounting

/-- Rank of a bundle in the order of eviction: the expired ones come first. -/
def evictionRank (currentTime : Int64) (bundle : Bundle) : WithBot Priority :=
  if bundle.isExpired currentTime then ⊥ else (bundle.priority : WithBot Priority)

section ranks

variable {currentTime : Int64} {a b : Bundle}

theorem evictionRank_of_expired (h : b.isExpired currentTime = true) :
    evictionRank currentTime b = ⊥ := if_pos h

theorem evictionRank_of_unexpired (h : b.isExpired currentTime = false) :
    evictionRank currentTime b = (b.priority : WithBot Priority) :=
  if_neg (by simp [h])

/-- A bundle of lower rank than an unexpired one has expired or has a lower priority. -/
theorem evictionRank_lt_iff (hb : b.isExpired currentTime = false) :
    evictionRank currentTime a < evictionRank currentTime b ↔
      a.isExpired currentTime = true ∨ a.priority < b.priority := by
  rw [evictionRank_of_unexpired hb]
  cases ha : a.isExpired currentTime with
  | true => simp [evictionRank_of_expired ha, WithBot.bot_lt_coe]
  | false => simp [evictionRank_of_unexpired ha, WithBot.coe_lt_coe]

/-- Unexpired bundles of one priority have one rank. -/
theorem evictionRank_eq_of_unexpired (ha : a.isExpired currentTime = false)
    (hb : b.isExpired currentTime = false) (h : a.priority = b.priority) :
    evictionRank currentTime a = evictionRank currentTime b := by
  rw [evictionRank_of_unexpired ha, evictionRank_of_unexpired hb, h]

end ranks

section arrangements

variable [Sha256] {bs : BundleStore} {currentTime : Int64}

/-- Eviction goes by ascending rank. -/
theorem arranged_evictionOrder (bs : BundleStore) (first second : IterationOrder Bundle)
    (currentTime : Int64) : Arranged (evictionRank currentTime) bs.bundles.values
      (evictionOrder bs first second currentTime) := by
  refine ⟨perm_evictionOrder bs first second currentTime, ?_⟩
  have hexpired : ∀ a ∈ expiredIn bs first currentTime, evictionRank currentTime a = ⊥ :=
    fun a ha => evictionRank_of_expired (mem_expiredIn.mp ha).2
  refine List.pairwise_append.mpr ⟨?_, ?_, fun a ha b _ => ?_⟩
  · refine List.pairwise_of_forall_mem_list fun a ha b _ => ?_
    rw [hexpired a ha]
    exact bot_le
  · have htotal : Std.Total fun a b : Bundle => a.priority ≤ b.priority :=
      ⟨fun a b => le_total a.priority b.priority⟩
    have htrans : IsTrans Bundle fun a b => a.priority ≤ b.priority :=
      ⟨fun a b c hab hbc => le_trans hab hbc⟩
    have hsorted : (sortLowestFirst (second.arrange (StorageEvictions.dropAll bs
        (expiredIn bs first currentTime)).bundles.values)).Pairwise
          fun a b => a.priority ≤ b.priority := List.pairwise_insertionSort _ _
    refine hsorted.imp_of_mem fun {a b} ha hb hle => ?_
    have hunexpired : ∀ c ∈ sortLowestFirst (second.arrange (StorageEvictions.dropAll bs
        (expiredIn bs first currentTime)).bundles.values), c.isExpired currentTime = false := by
      intro c hc
      rw [sortLowestFirst, (List.perm_insertionSort _ _).mem_iff, second.mem_arrange,
        ← KeyedMap.mem_def, mem_dropAll fun a ha => (mem_expiredIn.mp ha).1, mem_expiredIn] at hc
      simpa [hc.1] using hc.2
    rw [evictionRank_of_unexpired (hunexpired a ha), evictionRank_of_unexpired (hunexpired b hb)]
    exact WithBot.coe_le_coe.mpr hle
  · rw [hexpired a ha]
    exact bot_le

/-- Every order by ascending rank is that of some iteration of the map. -/
theorem exists_evictionOrder_eq {l : List Bundle}
    (h : Arranged (evictionRank currentTime) bs.bundles.values l) :
    ∃ first second, evictionOrder bs first second currentTime = l := by
  obtain ⟨hperm, hsorted⟩ := h
  let expired := l.filter fun b => b.isExpired currentTime
  let others := l.filter fun b => !b.isExpired currentTime
  have hsplit : l = expired ++ others := by
    refine eq_filter_append_filter (hsorted.imp fun {a b} hle hb => ?_)
    rw [evictionRank_of_expired hb, le_bot_iff] at hle
    by_contra ha
    rw [Bool.not_eq_true] at ha
    rw [evictionRank_of_unexpired ha] at hle
    exact WithBot.coe_ne_bot hle
  have hfirst : expiredIn bs (.following l) currentTime = expired := by
    rw [expiredIn, IterationOrder.arrange_following hperm]
  have hrest : others.Perm (StorageEvictions.dropAll bs expired).bundles.values := by
    have hstored : ∀ a ∈ expired, a ∈ bs.bundles :=
      fun a ha => hperm.mem_iff.mp (List.mem_filter.mp ha).1
    have hdistinct : expired.Nodup :=
      (hperm.nodup_iff.mpr (List.Nodup.of_map _ bs.bundles.nodup)).filter _
    have hparts := perm_append_dropAll hstored hdistinct
    refine (List.perm_append_left_iff expired).mp ?_
    rw [← hsplit]
    exact hperm.trans hparts
  have hascending : others.Pairwise fun a b => a.priority ≤ b.priority := by
    refine (hsorted.filter _).imp_of_mem fun {a b} ha hb hle => ?_
    have hunexpired : ∀ c ∈ others, c.isExpired currentTime = false :=
      fun c hc => by simpa using (List.mem_filter.mp hc).2
    rw [evictionRank_of_unexpired (hunexpired a ha),
      evictionRank_of_unexpired (hunexpired b hb)] at hle
    exact WithBot.coe_le_coe.mp hle
  refine ⟨.following l, .following others, ?_⟩
  rw [evictionOrder, hfirst, IterationOrder.arrange_following hrest, sortLowestFirst,
    hascending.insertionSort_eq, ← hsplit]

end arrangements

section choice

variable [Sha256]

/-- Evictions do not depend on how the map is iterated, and of bundles with one
priority the one with the earliest creation time stamp goes first. -/
structure EvictsAlike (bs : BundleStore) (requiredBytes currentTime : Int64) : Prop where
  /-- Freeing space leaves the same bundles in any order of iteration. -/
  freeing : ∀ first second first' second' b,
    b ∈ (bs.evictToFreeSpace first second requiredBytes currentTime).1.bundles ↔
      b ∈ (bs.evictToFreeSpace first' second' requiredBytes currentTime).1.bundles
  /-- Before an unexpired bundle all those of its priority go that were created earlier. -/
  freeingEarliest : ∀ first second before b after,
    (bs.evictToFreeSpace first second requiredBytes currentTime).2.evicted =
        before ++ b :: after → b.isExpired currentTime = false →
      ∀ a ∈ bs.bundles, a.isExpired currentTime = false → a.priority = b.priority →
        a.id.creationTimestamp < b.id.creationTimestamp → a ∈ before
  /-- Evicting the lowest priority evicts the same bundle in any order of iteration. -/
  lowest : ∀ order order',
    (bs.evictLowestPriority order).2 = (bs.evictLowestPriority order').2
  /-- No bundle of its priority was created earlier. -/
  lowestEarliest : ∀ order b, (bs.evictLowestPriority order).2 = .ok b →
    ∀ a ∈ bs.bundles, a.priority = b.priority →
      ¬a.id.creationTimestamp < b.id.creationTimestamp

/-- Whole ranks of stored bundles that free the required space. -/
def Sufficing (bs : BundleStore) (requiredBytes currentTime : Int64) (q : List Bundle) : Prop :=
  Sufficient (evictionRank currentTime) bs.bundles.values addFreed (requiredBytes ≤ ·) 0 q

/-- At most one bundle has the lowest priority. -/
def LowestUnique (bs : BundleStore) : Prop :=
  ∀ a ∈ bs.bundles, ∀ b ∈ bs.bundles, a.priority = b.priority → a ≠ b →
    ∃ c ∈ bs.bundles, c.priority < a.priority

/-- Ranks are evicted whole or not at all, and those with different creation
time stamps not at all. -/
structure RanksWhole (bs : BundleStore) (requiredBytes currentTime : Int64) : Prop where
  /-- A part that frees the space holds whole ranks that do. -/
  undivided : Undivided (evictionRank currentTime) bs.bundles.values addFreed
    (requiredBytes ≤ ·) 0
  /-- Unexpired bundles of one priority with different time stamps are beyond
  whole ranks that free the space. -/
  dated : ∀ a ∈ bs.bundles, ∀ b ∈ bs.bundles, a.isExpired currentTime = false →
    b.isExpired currentTime = false → a.priority = b.priority →
      a.id.creationTimestamp < b.id.creationTimestamp →
        ∃ q, Sufficing bs requiredBytes currentTime q ∧ b ∉ q
  /-- The lowest priority leaves no choice. -/
  lowest : LowestUnique bs

variable {bs : BundleStore} {requiredBytes currentTime : Int64}

theorem nodup_values (bs : BundleStore) : bs.bundles.values.Nodup :=
  List.Nodup.of_map _ bs.bundles.nodup

/-- What stays in the store is what was not taken. -/
theorem mem_evictToFreeSpace {first second : IterationOrder Bundle} {b : Bundle} :
    b ∈ (bs.evictToFreeSpace first second requiredBytes currentTime).1.bundles ↔
      b ∈ bs.bundles ∧ b ∉ makeRoom bs first second requiredBytes currentTime := by
  rw [evictToFreeSpace_eq]
  exact mem_dropAll fun a ha => mem_of_mem_makeRoom ha

theorem evicted_evictToFreeSpace (first second : IterationOrder Bundle) :
    (bs.evictToFreeSpace first second requiredBytes currentTime).2.evicted =
      makeRoom bs first second requiredBytes currentTime := by
  rw [evictToFreeSpace_eq]

/-- Freeing space does not depend on the iteration exactly if no rank is divided. -/
theorem freeing_iff_undivided :
    (∀ first second first' second' b,
      b ∈ (bs.evictToFreeSpace first second requiredBytes currentTime).1.bundles ↔
        b ∈ (bs.evictToFreeSpace first' second' requiredBytes currentTime).1.bundles) ↔
      Undivided (evictionRank currentTime) bs.bundles.values addFreed (requiredBytes ≤ ·) 0 := by
  rw [← taken_iff_undivided (nodup_values bs)]
  simp only [mem_evictToFreeSpace]
  constructor
  · intro h l l' hl hl' b
    obtain ⟨first, second, hfirst⟩ := exists_evictionOrder_eq hl
    obtain ⟨first', second', hfirst'⟩ := exists_evictionOrder_eq hl'
    have hsame := h first second first' second' b
    rw [makeRoom, makeRoom, hfirst, hfirst'] at hsame
    have hstored : ∀ m, Arranged (evictionRank currentTime) bs.bundles.values m →
        b ∈ greedyPrefix addFreed (requiredBytes ≤ ·) 0 m → b ∈ bs.bundles :=
      fun m hm hb => hm.1.mem_iff.mp ((greedyPrefix_isPrefix addFreed _ 0 m).subset hb)
    by_cases hb : b ∈ bs.bundles
    · simpa [hb, not_iff_not] using hsame
    · exact iff_of_false (fun hin => hb (hstored l hl hin)) fun hin => hb (hstored l' hl' hin)
  · intro h first second first' second' b
    refine and_congr_right fun _ => not_congr (h _ _ ?_ ?_ b)
    · exact arranged_evictionOrder bs first second currentTime
    · exact arranged_evictionOrder bs first' second' currentTime

/-- With undivided ranks, the earliest go first exactly if bundles with other
time stamps than those of their rank are beyond whole ranks that suffice. -/
theorem freeingEarliest_iff (h : Undivided (evictionRank currentTime) bs.bundles.values addFreed
      (requiredBytes ≤ ·) 0) {a b : Bundle} (hb : b ∈ bs.bundles)
    (hrank : evictionRank currentTime a = evictionRank currentTime b) :
    (∀ first second before after,
      (bs.evictToFreeSpace first second requiredBytes currentTime).2.evicted =
        before ++ b :: after → a ∈ before) ↔
      ∃ q, Sufficing bs requiredBytes currentTime q ∧ b ∉ q := by
  have hn := nodup_values bs
  simp only [evicted_evictToFreeSpace]
  constructor
  · intro hearliest
    -- eviction in the order in which b is the first of its rank does not reach b
    obtain ⟨before, after, harranged, hlower⟩ :
        ∃ before after, Arranged (evictionRank currentTime) bs.bundles.values
          (before ++ b :: after) ∧ ∀ a ∈ before,
            evictionRank currentTime a < evictionRank currentTime b :=
      exists_arranged_first hn hb
    refine (h.not_mem_iff hn harranged hb).mp fun hin => ?_
    obtain ⟨first, second, horder⟩ := exists_evictionOrder_eq harranged
    obtain ⟨before', after', htaken⟩ := List.mem_iff_append.mp hin
    have hmem := hearliest first second before' after' (by rw [makeRoom, horder, htaken])
    obtain ⟨rest, hrest⟩ := greedyPrefix_isPrefix addFreed (requiredBytes ≤ ·) 0
      (before ++ b :: after)
    rw [htaken, List.append_assoc, List.cons_append] at hrest
    have hnodup := harranged.1.nodup_iff.mpr hn
    have honce : ∀ front back, (front ++ b :: back).Nodup → b ∉ back :=
      fun front back h => (List.nodup_cons.mp (List.nodup_append'.mp h).2.1).1
    have hsame : before' = before :=
      ((TerminatedLines.append_cons_inj (honce before' _ (hrest ▸ hnodup))
        (honce before after hnodup)).mp hrest).1
    rw [hsame] at hmem
    exact absurd hrank (ne_of_lt (hlower a hmem))
  · intro hspared first second before after htaken
    have hout := (h.not_mem_iff hn (arranged_evictionOrder bs first second currentTime) hb).mpr
      hspared
    refine absurd ?_ hout
    change b ∈ makeRoom bs first second requiredBytes currentTime
    rw [htaken]
    exact List.mem_append_right before List.mem_cons_self

omit [Sha256] in
/-- The search for the lowest priority keeps the first of the lowest. -/
theorem findLowestPriority_eq (visited : List Bundle) :
    BundleStore.findLowestPriority visited =
      visited.foldl (leastStep (fun _ => True) Bundle.priority) none := by
  refine congrArg (fun step => visited.foldl step none) ?_
  funext lowest bundle
  cases lowest with
  | none => simp [leastStep]
  | some best => simp [leastStep]

/-- The evicted bundle is what the search finds. -/
theorem evictLowestPriority_ok_iff {order : IterationOrder Bundle} {b : Bundle} :
    (bs.evictLowestPriority order).2 = .ok b ↔
      BundleStore.findLowestPriority (order.arrange bs.bundles.values) = some b := by
  cases h : BundleStore.findLowestPriority (order.arrange bs.bundles.values) with
  | none => simp [BundleStore.evictLowestPriority, h]
  | some lowest => simp [BundleStore.evictLowestPriority, h]

/-- No stored bundle has a lower priority than the one found. -/
theorem priority_le_of_evictLowestPriority {order : IterationOrder Bundle} {b : Bundle}
    (h : (bs.evictLowestPriority order).2 = .ok b) :
    b ∈ bs.bundles ∧ ∀ a ∈ bs.bundles, b.priority ≤ a.priority := by
  rw [evictLowestPriority_ok_iff] at h
  refine ⟨order.mem_arrange.mp (findLowestPriority_mem h), fun a ha => ?_⟩
  rw [findLowestPriority_eq] at h
  exact (foldl_leastStep_le h).2 a (order.mem_arrange.mpr ha) trivial

/-- The first visited bundle is evicted if no other has a lower priority. -/
theorem evictLowestPriority_first {a : Bundle} (ha : a ∈ bs.bundles)
    (hle : ∀ c ∈ bs.bundles, a.priority ≤ c.priority) :
    (bs.evictLowestPriority (.first a)).2 = .ok a := by
  have hvisit : (IterationOrder.first a).arrange bs.bundles.values =
      a :: bs.bundles.values.erase a := if_pos ha
  have hstart : leastStep (fun _ => True) Bundle.priority none a = some a := if_pos trivial
  rw [evictLowestPriority_ok_iff, hvisit, findLowestPriority_eq, List.foldl_cons, hstart]
  exact foldl_leastStep_of_le fun c hc _ => hle c (List.mem_of_mem_erase hc)

/-- Evicting the lowest priority does not depend on the iteration exactly if
one bundle at most has it. -/
theorem lowest_iff_unique :
    (∀ order order', (bs.evictLowestPriority order).2 = (bs.evictLowestPriority order').2) ↔
      LowestUnique bs := by
  constructor
  · intro h a ha b hb hpriority hne
    by_contra hlowest
    push Not at hlowest
    have hfirst := evictLowestPriority_first ha hlowest
    have hsecond := evictLowestPriority_first hb fun c hc => hpriority ▸ hlowest c hc
    rw [h (.first a) (.first b), hsecond] at hfirst
    exact hne (Except.ok.inj hfirst).symm
  · intro h order order'
    have herror : ∀ order : IterationOrder Bundle, bs.bundles.values = [] →
        (bs.evictLowestPriority order).2 =
          .error (.errorf (ascii "store is empty, nothing to evict")) := by
      intro order hnil
      have hvisit : order.arrange bs.bundles.values = [] :=
        List.perm_nil.mp (hnil ▸ order.arrange_perm bs.bundles.values)
      simp [BundleStore.evictLowestPriority, hvisit, BundleStore.findLowestPriority]
    have hok : ∀ order : IterationOrder Bundle, bs.bundles.values ≠ [] →
        ∃ b, (bs.evictLowestPriority order).2 = .ok b := by
      intro order hne
      obtain ⟨b, hb⟩ := List.exists_mem_of_ne_nil _ hne
      rw [← order.mem_arrange] at hb
      cases hfound : BundleStore.findLowestPriority (order.arrange bs.bundles.values) with
      | none =>
        rw [findLowestPriority_eq, foldl_leastStep_eq_none_iff] at hfound
        exact absurd trivial (hfound.2 b hb)
      | some found => exact ⟨found, evictLowestPriority_ok_iff.mpr hfound⟩
    by_cases hempty : bs.bundles.values = []
    · rw [herror order hempty, herror order' hempty]
    · obtain ⟨a, ha⟩ := hok order hempty
      obtain ⟨b, hb⟩ := hok order' hempty
      obtain ⟨hmem, hle⟩ := priority_le_of_evictLowestPriority ha
      obtain ⟨hmem', hle'⟩ := priority_le_of_evictLowestPriority hb
      have hsame : a = b := by
        by_contra hne
        obtain ⟨c, hc, hlt⟩ := h a hmem b hmem' (le_antisymm (hle b hmem') (hle' a hmem)) hne
        exact absurd hlt (not_lt.mpr (hle c hc))
      rw [ha, hb, hsame]

/-- Evictions do not depend on how the map is iterated, and take the earliest
bundles first, exactly if ranks are evicted whole. -/
theorem evictsAlike_iff : EvictsAlike bs requiredBytes currentTime ↔
    RanksWhole bs requiredBytes currentTime := by
  constructor
  · intro h
    have hundivided := freeing_iff_undivided.mp h.freeing
    refine ⟨hundivided, fun a ha b hb hfresh hfresh' hpriority hearlier => ?_,
      lowest_iff_unique.mp h.lowest⟩
    have hrank := evictionRank_eq_of_unexpired hfresh hfresh' hpriority
    refine (freeingEarliest_iff hundivided hb hrank).mp fun first second before after htaken => ?_
    exact h.freeingEarliest first second before b after htaken hfresh' a ha hfresh hpriority
      hearlier
  · intro h
    refine ⟨freeing_iff_undivided.mpr h.undivided, ?_, lowest_iff_unique.mpr h.lowest, ?_⟩
    · intro first second before b after htaken hfresh' a ha hfresh hpriority hearlier
      have hb : b ∈ bs.bundles := by
        have hmem : b ∈ makeRoom bs first second requiredBytes currentTime := by
          rw [← evicted_evictToFreeSpace, htaken]
          exact List.mem_append_right before List.mem_cons_self
        exact mem_of_mem_makeRoom hmem
      have hrank := evictionRank_eq_of_unexpired hfresh hfresh' hpriority
      exact (freeingEarliest_iff h.undivided hb hrank).mpr
        (h.dated a ha b hb hfresh hfresh' hpriority hearlier) first second before after htaken
    · intro order b hevicted a ha hpriority hearlier
      obtain ⟨hb, hle⟩ := priority_le_of_evictLowestPriority hevicted
      obtain ⟨c, hc, hlt⟩ := h.lowest a ha b hb hpriority fun hab => by
        rw [hab] at hearlier
        exact absurd hearlier (Int64.lt_irrefl)
      exact absurd hlt (not_lt.mpr (hpriority ▸ hle c hc))

end choice

section sizes

variable [Sha256] {bs : BundleStore} {requiredBytes currentTime : Int64}

/-- Evicting all bundles of lower rank does not free the required space. -/
def ReachedRank (bs : BundleStore) (requiredBytes currentTime : Int64) (b : Bundle) : Prop :=
  Reached (evictionRank currentTime) bs.bundles.values Bundle.size requiredBytes.toInt b

/-- Of the bundles that eviction reaches all of one rank are needed, and have
one creation time stamp. -/
structure NoChoice (bs : BundleStore) (requiredBytes currentTime : Int64) : Prop where
  /-- A reached rank of several bundles does not free the space without one of them. -/
  needed : ∀ a ∈ bs.bundles, ∀ b ∈ bs.bundles, a ≠ b →
    evictionRank currentTime a = evictionRank currentTime b →
      ReachedRank bs requiredBytes currentTime b →
        ((weightBelow (evictionRank currentTime) bs.bundles.values Bundle.size b +
          weightBeside (evictionRank currentTime) bs.bundles.values Bundle.size b : ℕ) : ℤ) <
            requiredBytes.toInt
  /-- Unexpired bundles of one priority with different time stamps are not reached. -/
  dated : ∀ a ∈ bs.bundles, ∀ b ∈ bs.bundles, a.isExpired currentTime = false →
    b.isExpired currentTime = false → a.priority = b.priority →
      a.id.creationTimestamp < b.id.creationTimestamp →
        ¬ReachedRank bs requiredBytes currentTime b
  /-- The lowest priority leaves no choice. -/
  lowest : LowestUnique bs

/-- Of stored bytes within the word range, evicted bundles free the sum of their sizes. -/
theorem freed_iff (h : totalBytes bs < 2 ^ 63) {p : List Bundle} (hn : p.Nodup)
    (hp : ∀ a ∈ p, a ∈ bs.bundles.values) :
    requiredBytes ≤ p.foldl addFreed 0 ↔ requiredBytes.toInt ≤ (p.map Bundle.size).sum := by
  have hle : sumSize p ≤ totalBytes bs := weight_le_of_subset hn hp
  rw [Int64.le_iff_toInt_le, toInt_foldl_addFreed (by omega)]
  rfl

/-- In a store of fewer bytes than a word counts, sizes decide whether ranks are whole. -/
theorem ranksWhole_iff (h : totalBytes bs < 2 ^ 63) :
    RanksWhole bs requiredBytes currentTime ↔ NoChoice bs requiredBytes currentTime := by
  have hn := nodup_values bs
  have hsizes : ∀ a ∈ bs.bundles.values, 0 < a.size := fun a _ => by
    have hpos := a.size_pos
    omega
  have hwhole : Undivided (evictionRank currentTime) bs.bundles.values addFreed
      (requiredBytes ≤ ·) 0 ↔ _ := undivided_iff hn hsizes fun p => freed_iff h
  have hspared : ∀ b ∈ bs.bundles, (∃ q, Sufficing bs requiredBytes currentTime q ∧ b ∉ q) ↔
      ¬ReachedRank bs requiredBytes currentTime b := fun b hb =>
    exists_sufficient_iff hn hsizes (fun p => freed_iff h) hb
  constructor
  · intro hranks
    refine ⟨hwhole.mp hranks.undivided, fun a ha b hb hfresh hfresh' hpriority hearlier => ?_,
      hranks.lowest⟩
    exact (hspared b hb).mp (hranks.dated a ha b hb hfresh hfresh' hpriority hearlier)
  · intro hsize
    refine ⟨hwhole.mpr hsize.needed, fun a ha b hb hfresh hfresh' hpriority hearlier => ?_,
      hsize.lowest⟩
    exact (hspared b hb).mpr (hsize.dated a ha b hb hfresh hfresh' hpriority hearlier)

/-- Evictions do not depend on how the map is iterated, and take the earliest
bundles first, exactly if ranks are evicted whole; in a store of fewer bytes
than a word counts, exactly if sizes leave no choice. -/
theorem evictsAlike_exact (bs : BundleStore) (requiredBytes currentTime : Int64) :
    (EvictsAlike bs requiredBytes currentTime ↔ RanksWhole bs requiredBytes currentTime) ∧
      (totalBytes bs < 2 ^ 63 → (EvictsAlike bs requiredBytes currentTime ↔
        NoChoice bs requiredBytes currentTime)) :=
  ⟨evictsAlike_iff, fun h => evictsAlike_iff.trans (ranksWhole_iff h)⟩

end sizes

section scenarios

attribute [local instance] Sha256.transparent

/-- The specimen, created earlier. -/
def earlierSpecimen : Bundle :=
  { specimen with id := { specimen.id with creationTimestamp := 50 } }

/-- Of two bundles with one priority the one that is visited first is evicted,
though the other was created earlier. -/
theorem not_evictsAlike_of_tie :
    ¬∀ (bs : BundleStore) (requiredBytes currentTime : Int64),
      EvictsAlike bs requiredBytes currentTime := by
  intro h
  have hsame := (h (((newBundleStore 1000).put specimen).put earlierSpecimen) 1 200).freeing
    (.first specimen) (.first specimen) (.first earlierSpecimen) (.first earlierSpecimen) specimen
  rw [KeyedMap.mem_def, KeyedMap.mem_def] at hsame
  exact absurd hsame (by decide +kernel)

end scenarios

end CislunarDtn.EvictionRanks
