import CislunarDtn.GreedyPrefixes
import Mathlib.Algebra.Order.BigOperators.Group.List
import Mathlib.Algebra.Order.Ring.Nat
import Mathlib.Data.List.Perm.Basic
import Mathlib.Data.List.Sort

/-!
# Taking items by rank until they suffice

Items are taken by ascending rank, items of one rank in any order, until what
was taken suffices. Whether it suffices depends on which items were taken and
not on their order. What is taken depends on the order exactly if items of one
rank can be divided: if a part of the items that suffices, and that holds with
each item all those of lower rank, holds no whole ranks that suffice already.
-/

namespace CislunarDtn.RankedPrefixes

open GreedyPrefixes

variable {α ρ : Type*} [LinearOrder ρ] (rank : α → ρ) (items : List α)

/-- The items by ascending rank. -/
def Arranged (l : List α) : Prop := l.Perm items ∧ l.Pairwise fun a b => rank a ≤ rank b

/-- Distinct items, with each of them all items of lower rank. -/
structure LowerPart (p : List α) : Prop where
  /-- No item is listed twice. -/
  nodup : p.Nodup
  /-- Only items are listed. -/
  subset : ∀ a ∈ p, a ∈ items
  /-- Items of lower rank are listed. -/
  closed : ∀ a ∈ p, ∀ b ∈ items, rank b < rank a → b ∈ p

/-- Distinct items, with each of them all items of its rank and of lower ranks. -/
structure WholeRanks (p : List α) : Prop where
  /-- No item is listed twice. -/
  nodup : p.Nodup
  /-- Only items are listed. -/
  subset : ∀ a ∈ p, a ∈ items
  /-- Items of the same or of lower rank are listed. -/
  closed : ∀ a ∈ p, ∀ b ∈ items, rank b ≤ rank a → b ∈ p

section arrangements

variable {rank items}

/-- A list in which no item without a property comes before one with it. -/
theorem eq_filter_append_filter {has : α → Bool} {l : List α}
    (h : l.Pairwise fun a b => has b = true → has a = true) :
    l = l.filter has ++ l.filter fun a => !has a := by
  induction l with
  | nil => rfl
  | cons a l ih =>
    obtain ⟨hfirst, hrest⟩ := List.pairwise_cons.mp h
    cases ha : has a with
    | true =>
      rw [List.filter_cons_of_pos ha, List.filter_cons_of_neg (by simp [ha]), List.cons_append,
        ← ih hrest]
    | false =>
      have hlater : ∀ b ∈ l, has b = false := by
        intro b hb
        rw [← Bool.not_eq_true]
        intro hhas
        rw [hfirst b hb hhas] at ha
        exact Bool.noConfusion ha
      have hnil : l.filter has = [] :=
        List.filter_eq_nil_iff.mpr fun b hb => by simp [hlater b hb]
      have hall : (l.filter fun a => !has a) = l :=
        List.filter_eq_self.mpr fun b hb => by simp [hlater b hb]
      rw [List.filter_cons_of_neg (by simp [ha]), List.filter_cons_of_pos (by simp [ha]), hnil,
        hall, List.nil_append]

/-- What is first in an arrangement is a lower part. -/
theorem Arranged.lowerPart (hn : items.Nodup) {l p : List α} (hl : Arranged rank items l)
    (hp : p <+: l) : LowerPart rank items p := by
  obtain ⟨rest, rfl⟩ := hp
  have hnodup := hl.1.nodup_iff.mpr hn
  refine ⟨(List.nodup_append.mp hnodup).1,
    fun a ha => hl.1.mem_iff.mp (List.mem_append_left rest ha), fun a ha b hb hlt => ?_⟩
  rcases List.mem_append.mp (hl.1.mem_iff.mpr hb) with hfront | hback
  · exact hfront
  · exact absurd hlt (not_lt.mpr ((List.pairwise_append.mp hl.2).2.2 a ha b hback))

/-- Every lower part is first in some arrangement. -/
theorem LowerPart.exists_arranged (hn : items.Nodup) {p : List α} (hp : LowerPart rank items p) :
    ∃ front l, front.Perm p ∧ front <+: l ∧ Arranged rank items l := by
  classical
  let r : α → α → Prop := fun a b => rank a ≤ rank b
  have : Std.Total r := ⟨fun a b => le_total (rank a) (rank b)⟩
  have : IsTrans α r := ⟨fun a b c hab hbc => le_trans hab hbc⟩
  let rest := items.filter fun a => a ∉ p
  refine ⟨p.insertionSort r, p.insertionSort r ++ rest.insertionSort r,
    List.perm_insertionSort r p, List.prefix_append _ _, ?_, ?_⟩
  · refine ((List.perm_insertionSort r p).append (List.perm_insertionSort r rest)).trans ?_
    have hnodup : (p ++ rest).Nodup := by
      refine List.nodup_append'.mpr ⟨hp.nodup, hn.filter _, fun a ha hrest => ?_⟩
      simp [rest, ha] at hrest
    refine (List.perm_ext_iff_of_nodup hnodup hn).mpr fun a => ?_
    by_cases ha : a ∈ p
    · simp [ha, hp.subset a ha]
    · simp [rest, ha]
  · refine List.pairwise_append.mpr ⟨List.pairwise_insertionSort r p,
      List.pairwise_insertionSort r rest, fun a ha b hb => ?_⟩
    rw [(List.perm_insertionSort r p).mem_iff] at ha
    rw [(List.perm_insertionSort r rest).mem_iff] at hb
    have hb' : b ∈ items ∧ b ∉ p := by simpa [rest] using hb
    exact not_lt.mp fun hlt => hb'.2 (hp.closed a ha b hb'.1 hlt)

/-- Whole ranks are first in every arrangement. -/
theorem WholeRanks.exists_prefix (hn : items.Nodup) {q l : List α} (hq : WholeRanks rank items q)
    (hl : Arranged rank items l) : ∃ front, front.Perm q ∧ front <+: l := by
  classical
  have hnodup := hl.1.nodup_iff.mpr hn
  have hsplit : l = l.filter (fun a => a ∈ q) ++ l.filter fun a => !decide (a ∈ q) := by
    refine eq_filter_append_filter (hl.2.imp_of_mem fun {a b} ha _ hle hb => ?_)
    exact decide_eq_true
      (hq.closed b (of_decide_eq_true hb) a (hl.1.mem_iff.mp ha) hle)
  refine ⟨l.filter fun a => a ∈ q, ?_, ⟨_, hsplit.symm⟩⟩
  refine (List.perm_ext_iff_of_nodup (hnodup.filter _) hq.nodup).mpr fun a => ?_
  rw [List.mem_filter, decide_eq_true_iff, hl.1.mem_iff]
  exact and_iff_right_of_imp (hq.subset a)

/-- In some arrangement an item is the first of its rank. -/
theorem exists_arranged_first (hn : items.Nodup) {b : α} (hb : b ∈ items) :
    ∃ before after, Arranged rank items (before ++ b :: after) ∧
      ∀ a ∈ before, rank a < rank b := by
  have hbelow : ∀ {a}, a ∈ items.filter (fun a => rank a < rank b) → rank a < rank b :=
    fun ha => of_decide_eq_true (List.mem_filter.mp ha).2
  have hupTo : LowerPart rank items (items.filter (fun a => rank a < rank b) ++ [b]) := by
    refine ⟨?_, fun a ha => ?_, fun a ha c hc hlt => ?_⟩
    · refine List.nodup_append'.mpr ⟨hn.filter _, List.nodup_singleton b, fun a ha hab => ?_⟩
      exact lt_irrefl _ (hbelow (List.mem_singleton.mp hab ▸ ha))
    · rcases List.mem_append.mp ha with ha | ha
      · exact (List.mem_filter.mp ha).1
      · exact List.mem_singleton.mp ha ▸ hb
    · refine List.mem_append_left _ (List.mem_filter.mpr ⟨hc, decide_eq_true ?_⟩)
      rcases List.mem_append.mp ha with ha | ha
      · exact lt_trans hlt (hbelow ha)
      · exact List.mem_singleton.mp ha ▸ hlt
  obtain ⟨front, l, hperm, ⟨tail, hl⟩, harranged⟩ := hupTo.exists_arranged hn
  obtain ⟨before, rest, rfl⟩ := List.mem_iff_append.mp
    (hperm.mem_iff.mpr (List.mem_append_right _ (List.mem_singleton_self b)))
  refine ⟨before, rest ++ tail, ?_, fun a ha => ?_⟩
  · rw [← List.cons_append, ← List.append_assoc, hl]
    exact harranged
  · have hnodup := hperm.nodup_iff.mpr hupTo.nodup
    have hmem := hperm.mem_iff.mp (List.mem_append_left (b :: rest) ha)
    rcases List.mem_append.mp hmem with hlower | hsame
    · exact hbelow hlower
    · rw [List.mem_singleton.mp hsame] at ha
      exact absurd List.mem_cons_self ((List.nodup_append'.mp hnodup).2.2 ha)

end arrangements

section taking

variable {β : Type*} (step : β → α → β) (stop : β → Prop) [DecidablePred stop] (acc : β)

/-- Whole ranks that suffice. -/
def Sufficient (q : List α) : Prop :=
  WholeRanks rank items q ∧ q ≠ [] ∧ stop (q.foldl step acc)

/-- Every lower part that suffices holds whole ranks that suffice. -/
def Undivided : Prop :=
  ∀ p, LowerPart rank items p → p ≠ [] → stop (p.foldl step acc) →
    ∃ q, Sufficient rank items step stop acc q ∧ ∀ a ∈ q, a ∈ p

variable {rank items step stop acc} [RightCommutative step]

omit [DecidablePred stop] in
theorem stop_perm {p q : List α} (h : p.Perm q) :
    stop (p.foldl step acc) ↔ stop (q.foldl step acc) := by
  rw [h.foldl_eq]

/-- Nothing is taken beyond whole ranks that suffice. -/
theorem mem_of_sufficient (hn : items.Nodup) {l q : List α} (hl : Arranged rank items l)
    (hq : Sufficient rank items step stop acc q) {a : α}
    (ha : a ∈ greedyPrefix step stop acc l) : a ∈ q := by
  obtain ⟨hwhole, hne, hstop⟩ := hq
  obtain ⟨front, hperm, hfront⟩ := hwhole.exists_prefix hn hl
  have hne' : front ≠ [] := fun h => hne (List.nil_perm.mp (h ▸ hperm))
  have hle := greedyPrefix_isPrefix_of_stop step stop hfront hne' ((stop_perm hperm).mpr hstop)
  exact hperm.mem_iff.mp (hle.subset ha)

/-- What is left out is beyond whole ranks that suffice, if no rank is divided. -/
theorem Undivided.not_mem_iff (h : Undivided rank items step stop acc) (hn : items.Nodup)
    {l : List α} (hl : Arranged rank items l) {b : α} (hb : b ∈ items) :
    b ∉ greedyPrefix step stop acc l ↔
      ∃ q, Sufficient rank items step stop acc q ∧ b ∉ q := by
  constructor
  · intro hout
    have hpre := greedyPrefix_isPrefix step stop acc l
    have hstop : stop ((greedyPrefix step stop acc l).foldl step acc) := by
      by_contra hnot
      rw [greedyPrefix_eq_self step stop hnot] at hout
      exact hout (hl.1.mem_iff.mpr hb)
    have hne : greedyPrefix step stop acc l ≠ [] := by
      refine greedyPrefix_ne_nil step stop fun hnil => ?_
      have hmem := hl.1.mem_iff.mpr hb
      rw [hnil] at hmem
      exact List.not_mem_nil hmem
    obtain ⟨q, hq, hsub⟩ := h _ (hl.lowerPart hn hpre) hne hstop
    exact ⟨q, hq, fun hbq => hout (hsub b hbq)⟩
  · rintro ⟨q, hq, hbq⟩ hin
    exact hbq (mem_of_sufficient hn hl hq hin)

/-- What is taken is the same in every order exactly if no rank is divided. -/
theorem taken_iff_undivided (hn : items.Nodup) :
    (∀ l l', Arranged rank items l → Arranged rank items l' → ∀ b,
      b ∈ greedyPrefix step stop acc l ↔ b ∈ greedyPrefix step stop acc l') ↔
      Undivided rank items step stop acc := by
  constructor
  · intro h p hp hne hstop
    obtain ⟨front, l, hperm, hfront, hl⟩ := hp.exists_arranged hn
    have hne' : front ≠ [] := fun h => hne (List.nil_perm.mp (h ▸ hperm))
    have hstop' := (stop_perm hperm).mpr hstop
    have hle := greedyPrefix_isPrefix_of_stop step stop hfront hne' hstop'
    have hlower := hl.lowerPart hn (hle.trans hfront)
    have hlist : l ≠ [] := fun h => hne' (List.prefix_nil.mp (h ▸ hfront))
    refine ⟨greedyPrefix step stop acc l, ⟨⟨hlower.nodup, hlower.subset, ?_⟩,
      greedyPrefix_ne_nil step stop hlist, stop_greedyPrefix_of_stop step stop hfront hne' hstop'⟩,
      fun a ha => hperm.mem_iff.mp (hle.subset ha)⟩
    intro a ha b hb hrank
    rcases lt_or_eq_of_le hrank with hlt | heq
    · exact hlower.closed a ha b hb hlt
    · -- otherwise b would not be taken where it is the first of its rank, and a would
      by_contra hout
      obtain ⟨before, after, hl', hbefore⟩ : ∃ before after,
          Arranged rank items (before ++ b :: after) ∧ ∀ a ∈ before, rank a < rank b :=
        exists_arranged_first hn hb
      have htaken := h l _ hl hl'
      have hmem := (htaken a).mp ha
      have hpre := greedyPrefix_isPrefix step stop acc (before ++ b :: after)
      rcases List.prefix_or_prefix_of_prefix hpre (List.prefix_append before (b :: after))
        with hshort | hlong
      · exact absurd heq (ne_of_gt (hbefore a (hshort.subset hmem)))
      · obtain ⟨rest, hrest⟩ := hlong
        rw [← hrest, List.prefix_append_right_inj] at hpre
        cases rest with
        | nil =>
          rw [← hrest, List.append_nil] at hmem
          exact absurd heq (ne_of_gt (hbefore a hmem))
        | cons c rest =>
          have hc : c = b := (List.cons_prefix_cons.mp hpre).1
          refine hout ((htaken b).mpr ?_)
          rw [← hrest, hc]
          exact List.mem_append_right before List.mem_cons_self
  · intro h l l' hl hl' b
    by_cases hb : b ∈ items
    · have hiff := (h.not_mem_iff hn hl hb).trans (h.not_mem_iff hn hl' hb).symm
      exact not_iff_not.mp hiff
    · have hout : ∀ m, Arranged rank items m → b ∉ greedyPrefix step stop acc m :=
        fun m hm hin => hb (hm.1.mem_iff.mp ((greedyPrefix_isPrefix step stop acc m).subset hin))
      exact iff_of_false (hout l hl) (hout l' hl')

end taking

section weights

variable (w : α → ℕ)

/-- Weight of the items of lower rank. -/
def weightBelow (b : α) : ℕ := ((items.filter fun a => rank a < rank b).map w).sum

/-- Weight of the other items of the same rank. -/
def weightBeside [DecidableEq α] (b : α) : ℕ :=
  ((items.filter fun a => rank a = rank b ∧ a ≠ b).map w).sum

/-- The items of lower rank, if there are any, weigh less than is needed. -/
def Reached (need : ℤ) (b : α) : Prop :=
  weightBelow rank items w b = 0 ∨ (weightBelow rank items w b : ℤ) < need

variable {rank items w} {need : ℤ}

theorem weight_le_of_subset {p l : List α} (hp : p.Nodup) (h : ∀ a ∈ p, a ∈ l) :
    (p.map w).sum ≤ (l.map w).sum := by
  obtain ⟨m, hperm, hsub⟩ := List.subperm_of_subset hp h
  rw [← (hperm.map w).sum_eq]
  exact (hsub.map w).sum_le_sum fun _ _ => Nat.zero_le _

variable {β : Type*} {step : β → α → β} {stop : β → Prop} {acc : β}

theorem wholeRanks_below (hn : items.Nodup) (b : α) :
    WholeRanks rank items (items.filter fun a => rank a < rank b) := by
  refine ⟨hn.filter _, fun a ha => (List.mem_filter.mp ha).1, fun a ha c hc hle => ?_⟩
  have hlt := of_decide_eq_true (List.mem_filter.mp ha).2
  exact List.mem_filter.mpr ⟨hc, decide_eq_true (lt_of_le_of_lt hle hlt)⟩

section beside

variable [DecidableEq α]

/-- The items of lower rank and the others of the same rank. -/
def upTo (rank : α → ρ) (items : List α) (b : α) : List α :=
  (items.filter fun a => rank a < rank b) ++ items.filter fun a => rank a = rank b ∧ a ≠ b

theorem mem_upTo {a b : α} :
    a ∈ upTo rank items b ↔ a ∈ items ∧ rank a ≤ rank b ∧ a ≠ b := by
  simp only [upTo, List.mem_append, List.mem_filter, decide_eq_true_iff]
  constructor
  · rintro (⟨ha, hlt⟩ | ⟨ha, heq, hne⟩)
    · exact ⟨ha, hlt.le, fun hab => absurd hlt (by rw [hab]; exact lt_irrefl _)⟩
    · exact ⟨ha, heq.le, hne⟩
  · rintro ⟨ha, hle, hne⟩
    rcases lt_or_eq_of_le hle with hlt | heq
    · exact Or.inl ⟨ha, hlt⟩
    · exact Or.inr ⟨ha, heq, hne⟩

theorem weight_upTo (b : α) : ((upTo rank items b).map w).sum =
    weightBelow rank items w b + weightBeside rank items w b := by
  rw [upTo, List.map_append, List.sum_append]
  rfl

theorem lowerPart_upTo (hn : items.Nodup) (b : α) : LowerPart rank items (upTo rank items b) := by
  refine ⟨?_, fun a ha => (mem_upTo.mp ha).1, fun a ha c hc hlt => ?_⟩
  · refine List.nodup_append'.mpr ⟨hn.filter _, hn.filter _, fun c hc hc' => ?_⟩
    have hlt : rank c < rank b := of_decide_eq_true (List.mem_filter.mp hc).2
    have heq : rank c = rank b ∧ c ≠ b := of_decide_eq_true (List.mem_filter.mp hc').2
    exact ne_of_lt hlt heq.1
  · have hlower : rank c < rank b := lt_of_lt_of_le hlt (mem_upTo.mp ha).2.1
    refine mem_upTo.mpr ⟨hc, hlower.le, fun hcb => ?_⟩
    rw [hcb] at hlower
    exact lt_irrefl _ hlower

end beside

/-- Some whole ranks suffice without an item exactly if the items of lower rank do. -/
theorem exists_sufficient_iff (hn : items.Nodup) (hw : ∀ a ∈ items, 0 < w a)
    (hstop : ∀ p : List α, p.Nodup → (∀ a ∈ p, a ∈ items) →
      (stop (p.foldl step acc) ↔ need ≤ (p.map w).sum)) {b : α} (hb : b ∈ items) :
    (∃ q, Sufficient rank items step stop acc q ∧ b ∉ q) ↔ ¬Reached rank items w need b := by
  have hwhole : WholeRanks rank items (items.filter fun a => rank a < rank b) :=
    wholeRanks_below hn b
  rw [Reached, not_or, not_lt]
  constructor
  · rintro ⟨q, ⟨hq, hne, hsuffices⟩, hout⟩
    have hlower : ∀ a ∈ q, a ∈ items.filter fun a => rank a < rank b := by
      intro a ha
      refine List.mem_filter.mpr ⟨hq.subset a ha, decide_eq_true (not_le.mp fun hle => ?_)⟩
      exact hout (hq.closed a ha b hb hle)
    have hle := weight_le_of_subset (w := w) hq.nodup hlower
    have hneed := (hstop q hq.nodup hq.subset).mp hsuffices
    obtain ⟨a, rest, rfl⟩ := List.exists_cons_of_ne_nil hne
    have hpos := hw a (hq.subset a List.mem_cons_self)
    rw [List.map_cons, List.sum_cons] at hle hneed
    unfold weightBelow
    omega
  · rintro ⟨hpos, hneed⟩
    refine ⟨_, ⟨hwhole, fun hnil => ?_, (hstop _ hwhole.nodup hwhole.subset).mpr hneed⟩, ?_⟩
    · exact hpos (by rw [weightBelow, hnil]; rfl)
    · intro hin
      exact lt_irrefl _ (of_decide_eq_true (List.mem_filter.mp hin).2)

/-- No rank is divided exactly if each reached rank of several items does not
suffice without any one of them. -/
theorem undivided_iff [DecidableEq α] (hn : items.Nodup) (hw : ∀ a ∈ items, 0 < w a)
    (hstop : ∀ p : List α, p.Nodup → (∀ a ∈ p, a ∈ items) →
      (stop (p.foldl step acc) ↔ need ≤ (p.map w).sum)) :
    Undivided rank items step stop acc ↔
      ∀ a ∈ items, ∀ b ∈ items, a ≠ b → rank a = rank b → Reached rank items w need b →
        ((weightBelow rank items w b + weightBeside rank items w b : ℕ) : ℤ) < need := by
  constructor
  · intro h a ha b hb hne hrank hreached
    by_contra hneed
    rw [not_lt, ← weight_upTo] at hneed
    have hpart := @lowerPart_upTo _ _ _ rank items _ hn b
    have hmem : a ∈ upTo rank items b := mem_upTo.mpr ⟨ha, hrank.le, hne⟩
    obtain ⟨q, hq, hsub⟩ := h _ hpart (List.ne_nil_of_mem hmem)
      ((hstop _ hpart.nodup hpart.subset).mpr hneed)
    refine (exists_sufficient_iff hn hw hstop hb).mp ⟨q, hq, fun hbq => ?_⟩ hreached
    exact (mem_upTo.mp (hsub b hbq)).2.2 rfl
  · intro h p hp hne hsuffices
    by_cases hall : ∀ a ∈ p, ∀ b ∈ items, rank b ≤ rank a → b ∈ p
    · exact ⟨p, ⟨⟨hp.nodup, hp.subset, hall⟩, hne, hsuffices⟩, fun a ha => ha⟩
    · push Not at hall
      -- the part ends within the rank of a, from which b is missing
      obtain ⟨a, ha, b, hb, hle, hout⟩ := hall
      have hrank : rank a = rank b :=
        le_antisymm (not_lt.mp fun hlt => hout (hp.closed a ha b hb hlt)) hle
      have hinside : ∀ c ∈ p, c ∈ upTo rank items b := by
        intro c hc
        have hlower : rank c ≤ rank b := not_lt.mp fun hlt => hout (hp.closed c hc b hb hlt)
        exact mem_upTo.mpr ⟨hp.subset c hc, hlower, fun hcb => hout (hcb ▸ hc)⟩
      have hweight := weight_le_of_subset (w := w) hp.nodup hinside
      rw [weight_upTo] at hweight
      have hneed := (hstop p hp.nodup hp.subset).mp hsuffices
      have hbeyond : ¬Reached rank items w need b := by
        intro hreached
        have hlt := h a (hp.subset a ha) b hb (fun hab => hout (hab ▸ ha)) hrank hreached
        omega
      obtain ⟨q, hq, hbq⟩ := (exists_sufficient_iff hn hw hstop hb).mpr hbeyond
      refine ⟨q, hq, fun c hc => hp.closed a ha c (hq.1.subset c hc) ?_⟩
      rw [hrank]
      exact not_le.mp fun hle => hbq (hq.1.closed c hc b hb hle)

end weights

end CislunarDtn.RankedPrefixes
