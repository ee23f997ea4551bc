import CislunarDtn.BundleAgents
import CislunarDtn.StorageEvictions

/-!
# Lifetimes in machine words

A bundle's expiry is the sum of two words that come from the wire. A sum that
leaves the range of the words has expired at once, so that a bundle with a
longer lifetime than the words can express is refused. What is accepted expires
when it is meant to.
-/

namespace CislunarDtn.BundleLifetimes

open KeyedMaps Bundles BundleStorage BundleAgents StorageEvictions WrappedInt64

/-- The second at which the bundle is meant to expire. -/
def expiry (bundle : Bundle) : ℤ := bundle.createdAt.toInt + bundle.lifetime.toInt

/-- A bundle that is meant to be accepted at a time, as far as its destination,
its lifetime and its creation are concerned. -/
def Begun (bundle : Bundle) (now : Int64) : Prop :=
  bundle.destination.scheme ≠ [] ∧ bundle.destination.ssp ≠ [] ∧ 0 < bundle.lifetime.toInt ∧
    bundle.createdAt.toInt ≤ now.toInt

/-- Exactly the begun bundles that have not reached their expiry are accepted. -/
def AcceptsExactly (bundle : Bundle) (now : Int64) : Prop :=
  BundleProtocolAgent.validateBundle bundle now = none ↔
    Begun bundle now ∧ now.toInt < expiry bundle

/-- The removal of expired bundles keeps an accepted bundle until its expiry. -/
def KeepsAccepted [Sha256] (bundle : Bundle) (now : Int64) : Prop :=
  BundleProtocolAgent.validateBundle bundle now = none →
    ∀ (bs : BundleStore) (order : IterationOrder Bundle) (later : Int64), bundle ∈ bs.bundles →
      now.toInt ≤ later.toInt → later.toInt < expiry bundle →
        bundle ∈ (bs.evictExpired order later).1.bundles

theorem validateBundle_eq_none_iff {bundle : Bundle} {now : Int64} :
    BundleProtocolAgent.validateBundle bundle now = none ↔
      Begun bundle now ∧ bundle.isExpired now = false := by
  have hzero : (0 : Int64).toInt = 0 := rfl
  unfold BundleProtocolAgent.validateBundle Begun
  simp only [Int64.le_iff_toInt_le, gt_iff_lt, Int64.lt_iff_toInt_lt, hzero]
  split_ifs with hdest hlife hcreated hexpired
  · simp only [false_iff]
    tauto
  · simp only [false_iff]
    omega
  · simp only [false_iff]
    omega
  · simp [hexpired]
  · simp only [true_iff]
    refine ⟨⟨fun h => hdest (Or.inl h), fun h => hdest (Or.inr h), by omega, by omega⟩, ?_⟩
    simpa using hexpired

/-- Up to the largest word the machine expires a bundle when it is meant to expire. -/
theorem isExpired_iff_of_lt {bundle : Bundle} (hpos : 0 < bundle.lifetime.toInt)
    (hrange : expiry bundle < 2 ^ 63) (now : Int64) :
    bundle.isExpired now = true ↔ expiry bundle ≤ now.toInt := by
  have hcreated := bundle.createdAt.le_toInt
  have hsum : (bundle.createdAt + bundle.lifetime).toInt = expiry bundle :=
    toInt_add_of_range (by omega) hrange
  rw [Bundle.isExpired, decide_eq_true_iff, Int64.le_iff_toInt_le, hsum]

/-- Beyond it a bundle has expired as soon as it is created. -/
theorem isExpired_of_le {bundle : Bundle} (hrange : 2 ^ 63 ≤ expiry bundle) {now : Int64}
    (hnow : bundle.createdAt.toInt ≤ now.toInt) : bundle.isExpired now = true := by
  have hcreated := bundle.createdAt.toInt_lt
  have hlifetime := bundle.lifetime.toInt_lt
  unfold expiry at hrange
  have hsum := toInt_add_of_overflow (a := bundle.createdAt) (b := bundle.lifetime) (by omega)
    (by omega) hrange
  rw [Bundle.isExpired, decide_eq_true_iff, Int64.le_iff_toInt_le, hsum]
  omega

/-- An accepted bundle has its expiry within the range of the words. -/
theorem expiry_lt_of_validateBundle {bundle : Bundle} {now : Int64}
    (h : BundleProtocolAgent.validateBundle bundle now = none) :
    0 < bundle.lifetime.toInt ∧ expiry bundle < 2 ^ 63 := by
  obtain ⟨⟨-, -, hpos, hcreated⟩, hexpired⟩ := validateBundle_eq_none_iff.mp h
  refine ⟨hpos, ?_⟩
  by_contra hrange
  rw [isExpired_of_le (by omega) hcreated] at hexpired
  exact Bool.noConfusion hexpired

/-- Whatever its words, an accepted bundle is kept until its expiry. -/
theorem keepsAccepted [Sha256] (bundle : Bundle) (now : Int64) : KeepsAccepted bundle now := by
  intro hvalid bs order later hstored _ hlater
  obtain ⟨hpos, hrange⟩ := expiry_lt_of_validateBundle hvalid
  refine mem_evictExpired.mpr ⟨hstored, ?_⟩
  rw [← Bool.not_eq_true, isExpired_iff_of_lt hpos hrange]
  omega

/-- A bundle is accepted exactly while it should be, and then kept, unless it
has begun and its expiry is beyond the largest word. -/
theorem lifetime_exact_iff [Sha256] (bundle : Bundle) (now : Int64) :
    (AcceptsExactly bundle now ∧ KeepsAccepted bundle now) ↔
      ¬(Begun bundle now ∧ 2 ^ 63 ≤ expiry bundle) := by
  rw [and_iff_left (keepsAccepted bundle now), AcceptsExactly, validateBundle_eq_none_iff]
  have hnow := now.toInt_lt
  by_cases hbegun : Begun bundle now
  · simp only [hbegun, true_and]
    by_cases hrange : expiry bundle < 2 ^ 63
    · have hexpired := isExpired_iff_of_lt hbegun.2.2.1 hrange now
      rw [← Bool.not_eq_true, hexpired]
      omega
    · rw [isExpired_of_le (by omega) hbegun.2.2.2]
      simp only [Bool.true_eq_false, false_iff]
      omega
  · simp [hbegun]

/-- A bundle with the longest lifetime is refused as expired. -/
theorem longest_lifetime_refused :
    ¬∀ (bundle : Bundle) (now : Int64), AcceptsExactly bundle now := by
  intro h
  let bundle : Bundle := { specimen with lifetime := Int64.maxValue }
  have hbegun : Begun bundle 200 := by
    unfold Begun
    decide
  have haccepted : BundleProtocolAgent.validateBundle bundle 200 = none :=
    (h bundle 200).mpr ⟨hbegun, by decide⟩
  exact absurd haccepted (by decide)

end CislunarDtn.BundleLifetimes
