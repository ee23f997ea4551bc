import Mathlib.Data.List.Nodup
import Mathlib.Data.List.Perm.Lattice
import Mathlib.Data.List.Sort
import Mathlib.Algebra.Order.BigOperators.Group.List
import Mathlib.Algebra.Order.Ring.Nat

/-!
# Maps that store every value under its own key

A finite map whose key is a function of the stored value is a list of values
with pairwise distinct keys; a value under a foreign key cannot be built.
Iterating such a map visits its values in an unspecified order, which is an
explicit argument of every loop. Totals of a weight over the values are kept
exact by insertion and erasure.
-/

namespace CislunarDtn.KeyedMaps

/-- One choice of the unspecified order in which a map is iterated. -/
structure IterationOrder (α : Type*) where
  /-- The visiting order chosen for these values. -/
  arrange : List α → List α
  /-- Every value is visited exactly once. -/
  arrange_perm : ∀ l, (arrange l).Perm l

/-- The order in which the values happen to be listed. -/
def IterationOrder.listed (α : Type*) : IterationOrder α := ⟨id, List.Perm.refl⟩

/-- An order that visits one value first. -/
def IterationOrder.first {α : Type*} [DecidableEq α] (a : α) : IterationOrder α where
  arrange l := if a ∈ l then a :: l.erase a else l
  arrange_perm l := by
    split
    next h => exact (List.perm_cons_erase h).symm
    next => exact List.Perm.refl l

/-- An order in which certain values are listed. -/
def IterationOrder.following {α : Type*} [DecidableEq α] (listed : List α) : IterationOrder α where
  arrange l := if listed.Perm l then listed else l
  arrange_perm l := by
    split
    next h => exact h
    next => exact List.Perm.refl l

theorem IterationOrder.arrange_following {α : Type*} [DecidableEq α] {listed l : List α}
    (h : listed.Perm l) : (IterationOrder.following listed).arrange l = listed := if_pos h

@[simp]
theorem IterationOrder.mem_arrange {α : Type*} (order : IterationOrder α) {a : α} {l : List α} :
    a ∈ order.arrange l ↔ a ∈ l := (order.arrange_perm l).mem_iff

/-- Values with pairwise distinct keys. -/
structure KeyedMap {α κ : Type*} (key : α → κ) where
  /-- The stored values, in no meaningful order. -/
  values : List α
  /-- No key is used twice. -/
  nodup : (values.map key).Nodup

namespace KeyedMap

variable {α κ : Type*} {key : α → κ}

instance : Membership α (KeyedMap key) := ⟨fun m a => a ∈ m.values⟩

theorem mem_def {m : KeyedMap key} {a : α} : a ∈ m ↔ a ∈ m.values := Iff.rfl

/-- The map with no values. -/
def empty : KeyedMap key := ⟨[], List.nodup_nil⟩

/-- Number of stored values. -/
def size (m : KeyedMap key) : ℕ := m.values.length

/-- Sum of a weight over the stored values. -/
def total (w : α → ℕ) (m : KeyedMap key) : ℕ := (m.values.map w).sum

/-- A key identifies at most one stored value. -/
theorem eq_of_key_eq {m : KeyedMap key} {a b : α} (ha : a ∈ m) (hb : b ∈ m)
    (h : key a = key b) : a = b := List.inj_on_of_nodup_map m.nodup ha hb h

/-- One stored value weighs no more than all of them. -/
theorem le_total (w : α → ℕ) {m : KeyedMap key} {a : α} (h : a ∈ m) : w a ≤ m.total w :=
  List.le_sum_of_mem (List.mem_map_of_mem h)

/-- The total over any visiting order is the total of the map. -/
theorem sum_arrange (w : α → ℕ) (m : KeyedMap key) (order : IterationOrder α) :
    ((order.arrange m.values).map w).sum = m.total w :=
  ((order.arrange_perm m.values).map w).sum_eq

/-- Visiting orders list distinct values. -/
theorem nodup_arrange (m : KeyedMap key) (order : IterationOrder α) :
    (order.arrange m.values).Nodup :=
  (order.arrange_perm m.values).nodup_iff.mpr (List.Nodup.of_map key m.nodup)

variable [DecidableEq κ]

/-- The value stored under a key. -/
def lookup (m : KeyedMap key) (k : κ) : Option α := m.values.find? fun a => key a = k

/-- Remove the value under a key, if there is one. -/
def erase (m : KeyedMap key) (k : κ) : KeyedMap key :=
  ⟨m.values.filter fun a => key a ≠ k, m.nodup.sublist (List.filter_sublist.map key)⟩

/-- Store a value under its key, overwriting what was there. -/
def insert (m : KeyedMap key) (a : α) : KeyedMap key :=
  ⟨a :: (m.erase (key a)).values, by
    rw [List.map_cons, List.nodup_cons]
    refine ⟨?_, (m.erase (key a)).nodup⟩
    simp [erase]⟩

/-- Remove the values of a list, one after the other. -/
def eraseAll (m : KeyedMap key) (l : List α) : KeyedMap key :=
  l.foldl (fun m a => m.erase (key a)) m

/-- Store the values of a list, one after the other. -/
def insertAll (m : KeyedMap key) (l : List α) : KeyedMap key := l.foldl insert m

theorem lookup_eq_some_iff {m : KeyedMap key} {k : κ} {a : α} :
    m.lookup k = some a ↔ a ∈ m ∧ key a = k := by
  constructor
  · intro h
    exact ⟨List.mem_of_find?_eq_some h, by simpa using List.find?_some h⟩
  · rintro ⟨ha, rfl⟩
    cases hf : m.lookup (key a) with
    | none => simpa using List.find?_eq_none.mp hf a ha
    | some b =>
      have hb : key b = key a := by simpa using List.find?_some hf
      rw [eq_of_key_eq (List.mem_of_find?_eq_some hf) ha hb]

theorem lookup_eq_none_iff {m : KeyedMap key} {k : κ} :
    m.lookup k = none ↔ ∀ a ∈ m, key a ≠ k := by
  simp [lookup, mem_def]

/-- A stored value is found under its own key. -/
theorem lookup_of_mem {m : KeyedMap key} {a : α} (h : a ∈ m) : m.lookup (key a) = some a :=
  lookup_eq_some_iff.mpr ⟨h, rfl⟩

@[simp]
theorem mem_erase {m : KeyedMap key} {k : κ} {a : α} :
    a ∈ m.erase k ↔ a ∈ m ∧ key a ≠ k := by
  simp [erase, mem_def]

@[simp]
theorem mem_insert {m : KeyedMap key} {a b : α} :
    b ∈ m.insert a ↔ b = a ∨ b ∈ m ∧ key b ≠ key a := by
  rw [mem_def, insert, List.mem_cons, ← mem_def, mem_erase]

/-- Storing a value changes what is found under its key, and nothing else. -/
theorem lookup_insert (m : KeyedMap key) (a : α) :
    (m.insert a).lookup = Function.update m.lookup (key a) (some a) := by
  funext k
  by_cases hk : k = key a
  · rw [hk, Function.update_self, lookup_eq_some_iff]
    exact ⟨mem_insert.mpr (Or.inl rfl), rfl⟩
  · rw [Function.update_of_ne hk]
    refine Option.ext fun b => ?_
    rw [lookup_eq_some_iff, lookup_eq_some_iff, mem_insert]
    constructor
    · rintro ⟨rfl | ⟨hb, -⟩, hkey⟩
      · exact absurd hkey.symm hk
      · exact ⟨hb, hkey⟩
    · rintro ⟨hb, rfl⟩
      exact ⟨Or.inr ⟨hb, hk⟩, rfl⟩

/-- Erasing a key changes what is found under it, and nothing else. -/
theorem lookup_erase (m : KeyedMap key) (k : κ) :
    (m.erase k).lookup = Function.update m.lookup k none := by
  funext k'
  by_cases hk : k' = k
  · rw [hk, Function.update_self, lookup_eq_none_iff]
    exact fun a ha => (mem_erase.mp ha).2
  · rw [Function.update_of_ne hk]
    refine Option.ext fun b => ?_
    rw [lookup_eq_some_iff, lookup_eq_some_iff, mem_erase]
    constructor
    · rintro ⟨⟨hb, -⟩, hkey⟩
      exact ⟨hb, hkey⟩
    · rintro ⟨hb, rfl⟩
      exact ⟨⟨hb, hk⟩, rfl⟩

/-- Values under distinct keys are stored, and the others stay under all other keys. -/
theorem mem_insertAll {m : KeyedMap key} {l : List α} (hl : (l.map key).Nodup) {b : α} :
    b ∈ m.insertAll l ↔ b ∈ l ∨ b ∈ m ∧ ∀ a ∈ l, key a ≠ key b := by
  induction l generalizing m with
  | nil => simp [insertAll]
  | cons a l ih =>
    rw [List.map_cons, List.nodup_cons] at hl
    change b ∈ (m.insert a).insertAll l ↔ _
    rw [ih hl.2, mem_insert, List.mem_cons, List.forall_mem_cons]
    constructor
    · rintro (hb | ⟨rfl | ⟨hb, hne⟩, hrest⟩)
      · exact Or.inl (Or.inr hb)
      · exact Or.inl (Or.inl rfl)
      · exact Or.inr ⟨hb, hne.symm, hrest⟩
    · rintro ((rfl | hb) | ⟨hb, hne, hrest⟩)
      · refine Or.inr ⟨Or.inl rfl, fun a ha heq => hl.1 ?_⟩
        rw [← heq]
        exact List.mem_map_of_mem ha
      · exact Or.inl hb
      · exact Or.inr ⟨Or.inr ⟨hb, hne.symm⟩, hrest⟩

/-- Erasing an absent key changes nothing. -/
theorem erase_of_lookup_none {m : KeyedMap key} {k : κ} (h : m.lookup k = none) :
    (m.erase k).values = m.values :=
  List.filter_eq_self.mpr fun a ha => by simpa using lookup_eq_none_iff.mp h a ha

/-- A stored value and the rest of the map make up the map. -/
theorem perm_cons_erase {m : KeyedMap key} {a : α} (h : a ∈ m) :
    m.values.Perm (a :: (m.erase (key a)).values) := by
  have hn : m.values.Nodup := List.Nodup.of_map key m.nodup
  refine (List.perm_ext_iff_of_nodup hn ?_).mpr fun b => ?_
  · exact List.Nodup.of_map key (m.insert a).nodup
  · rw [List.mem_cons, ← mem_def, ← mem_def, mem_erase]
    constructor
    · intro hb
      by_cases he : key b = key a
      · exact Or.inl (eq_of_key_eq hb h he)
      · exact Or.inr ⟨hb, he⟩
    · rintro (rfl | hb)
      · exact h
      · exact hb.1

/-- Erasing a stored value takes exactly its weight off the total. -/
theorem total_erase (w : α → ℕ) {m : KeyedMap key} {a : α} (h : a ∈ m) :
    (m.erase (key a)).total w + w a = m.total w := by
  have hp := ((perm_cons_erase h).map w).sum_eq
  rw [List.map_cons, List.sum_cons] at hp
  rw [total, total, hp, Nat.add_comm]

/-- Storing under a fresh key lists the value before the others. -/
theorem values_insert_of_none {m : KeyedMap key} {a : α} (h : m.lookup (key a) = none) :
    (m.insert a).values = a :: m.values := congrArg (List.cons a) (erase_of_lookup_none h)

/-- Storing under a fresh key adds exactly the weight of the value. -/
theorem total_insert_of_none (w : α → ℕ) {m : KeyedMap key} {a : α}
    (h : m.lookup (key a) = none) : (m.insert a).total w = m.total w + w a := by
  rw [total, values_insert_of_none h, List.map_cons, List.sum_cons, total, Nat.add_comm]

/-- Overwriting replaces the weight of the old value by that of the new one. -/
theorem total_insert_of_some (w : α → ℕ) {m : KeyedMap key} {a old : α}
    (h : m.lookup (key a) = some old) :
    (m.insert a).total w + w old = m.total w + w a := by
  obtain ⟨hm, hk⟩ := lookup_eq_some_iff.mp h
  have he := total_erase w hm
  rw [hk] at he
  rw [total, insert, List.map_cons, List.sum_cons]
  unfold total at he ⊢
  omega

theorem mem_eraseAll {m : KeyedMap key} {l : List α} {b : α} :
    b ∈ m.eraseAll l ↔ b ∈ m ∧ ∀ a ∈ l, key a ≠ key b := by
  induction l generalizing m with
  | nil => simp [eraseAll]
  | cons a l ih =>
    change b ∈ (m.erase (key a)).eraseAll l ↔ _
    rw [ih, mem_erase, List.forall_mem_cons, and_assoc]
    exact and_congr_right fun _ => and_congr_left fun _ => ne_comm

/-- Distinct stored values and what is left without them make up the map. -/
theorem perm_append_eraseAll {m : KeyedMap key} {l : List α} (hl : ∀ a ∈ l, a ∈ m)
    (hn : l.Nodup) : m.values.Perm (l ++ (m.eraseAll l).values) := by
  induction l generalizing m with
  | nil => exact List.Perm.refl _
  | cons a l ih =>
    obtain ⟨ha, hrest⟩ := List.forall_mem_cons.mp hl
    obtain ⟨hal, hn⟩ := List.nodup_cons.mp hn
    have hstay : ∀ b ∈ l, b ∈ m.erase (key a) := by
      intro b hb
      refine mem_erase.mpr ⟨hrest b hb, fun hk => hal ?_⟩
      rwa [← eq_of_key_eq (hrest b hb) ha hk]
    exact (perm_cons_erase ha).trans ((ih hstay hn).cons a)

/-- Removing distinct stored values takes exactly their weights off the total. -/
theorem total_eraseAll (w : α → ℕ) {m : KeyedMap key} {l : List α} (hl : ∀ a ∈ l, a ∈ m)
    (hn : l.Nodup) : (m.eraseAll l).total w + (l.map w).sum = m.total w := by
  have hp := ((perm_append_eraseAll hl hn).map w).sum_eq
  rw [List.map_append, List.sum_append] at hp
  rw [total, total, hp, Nat.add_comm]

end KeyedMap

end CislunarDtn.KeyedMaps
