import CislunarDtn.StorageEvictions
import CislunarDtn.LabelledRuns

/-!
# The byte counter along runs of store operations

The counter always encodes the stored bytes modulo the word size, as long as
every bundle enters under a fresh identifier; evictions and deletions keep
that without any condition. Recovery after power loss is the one operation
that overwrites: an entry that fits and repeats a stored identifier adds its
size without taking the old one off, so along runs without overflow the
accounting holds exactly when recovery never does that.
-/

namespace CislunarDtn.StorageAccounting

open KeyedMaps Bundles BundleStorage StorageEvictions LabelledRuns WrappedInt64

section Accounting

variable [Sha256]

/-- Exact number of bytes stored. -/
def totalBytes (bs : BundleStore) : ℕ := bs.bundles.total Bundle.size

/-- The counter encodes the stored bytes modulo the word size. -/
def Balanced (bs : BundleStore) : Prop := bs.usedBytes = Int64.ofInt (totalBytes bs)

/-- ValidateIntegrity accepts exactly the balanced stores, in any visiting order. -/
theorem validateIntegrity_eq_none_iff (bs : BundleStore) (order : IterationOrder Bundle) :
    bs.validateIntegrity order = none ↔ Balanced bs := by
  have hsum : (order.arrange bs.bundles.values).foldl
      (fun total bundle => total + bundle.size64) 0 = Int64.ofInt (totalBytes bs) := by
    have hfold := foldl_add_ofNat Bundle.size (order.arrange bs.bundles.values) 0
    rw [KeyedMap.sum_arrange, Int.zero_add] at hfold
    exact hfold
  rw [BundleStore.validateIntegrity, hsum, Balanced]
  constructor
  · intro h
    by_contra hne
    rw [if_pos (Ne.symm hne)] at h
    exact absurd h (Option.some_ne_none _)
  · intro h
    rw [if_neg (not_not.mpr h.symm)]

/-- The accounting law of the store, as its operations are meant to keep it. -/
structure Accounted (bs : BundleStore) : Prop where
  /-- The integrity check passes in every visiting order. -/
  integrity : ∀ order, bs.validateIntegrity order = none
  /-- The counter is the number of bytes stored. -/
  exact : bs.usedBytes.toInt = totalBytes bs
  /-- The counter is not negative. -/
  nonneg : 0 ≤ bs.usedBytes
  /-- The counter is within the capacity. -/
  capacity : bs.usedBytes ≤ bs.maxBytes

/-- A balanced store whose bytes are within the capacity is accounted for. -/
theorem accounted_iff {bs : BundleStore} :
    Accounted bs ↔ Balanced bs ∧ (totalBytes bs : ℤ) ≤ bs.maxBytes.toInt := by
  constructor
  · intro h
    refine ⟨(validateIntegrity_eq_none_iff bs (IterationOrder.listed Bundle)).mp (h.integrity _),
      ?_⟩
    have hcap := Int64.le_iff_toInt_le.mp h.capacity
    have hex := h.exact
    omega
  · intro h
    have hmax := bs.maxBytes.toInt_lt
    have hex : bs.usedBytes.toInt = totalBytes bs :=
      toInt_eq_of_eq_ofInt h.1 (by omega) (by omega)
    refine ⟨fun order => (validateIntegrity_eq_none_iff bs order).mpr h.1, hex, ?_, ?_⟩
    · rw [nonneg_iff]
      omega
    · rw [Int64.le_iff_toInt_le]
      omega

/-- A new store is accounted for. -/
theorem accounted_newBundleStore {maxBytes : Int64} (h : 0 ≤ maxBytes) :
    Accounted (newBundleStore maxBytes) :=
  accounted_iff.mpr ⟨rfl, nonneg_iff.mp h⟩

/-- Dropping distinct stored bundles takes exactly their sizes off the total. -/
theorem totalBytes_dropAll {bs : BundleStore} {l : List Bundle} (hl : ∀ a ∈ l, a ∈ bs.bundles)
    (hn : l.Nodup) : totalBytes (dropAll bs l) + (l.map Bundle.size).sum = totalBytes bs := by
  unfold totalBytes
  rw [dropAll_bundles]
  exact KeyedMap.total_eraseAll Bundle.size hl hn

/-- Evicting distinct stored bundles keeps the balance. -/
theorem Balanced.dropAll {bs : BundleStore} (h : Balanced bs) {l : List Bundle}
    (hl : ∀ a ∈ l, a ∈ bs.bundles) (hn : l.Nodup) : Balanced (dropAll bs l) := by
  have ht := totalBytes_dropAll hl hn
  have hcast : (totalBytes (StorageEvictions.dropAll bs l) : ℤ) =
      totalBytes bs - (l.map Bundle.size).sum := by omega
  unfold Balanced at h ⊢
  rw [dropAll_usedBytes, h, hcast, Int64.ofInt_sub]

/-- Evicting distinct stored bundles keeps the accounting. -/
theorem Accounted.dropAll {bs : BundleStore} (h : Accounted bs) {l : List Bundle}
    (hl : ∀ a ∈ l, a ∈ bs.bundles) (hn : l.Nodup) : Accounted (dropAll bs l) := by
  obtain ⟨hb, hle⟩ := accounted_iff.mp h
  have ht := totalBytes_dropAll hl hn
  refine accounted_iff.mpr ⟨hb.dropAll hl hn, ?_⟩
  rw [dropAll_maxBytes]
  omega

/-- A bundle under a fresh identifier adds its size to the total. -/
theorem totalBytes_put {bs : BundleStore} {b : Bundle} (h : bs.bundles.lookup b.hash = none) :
    totalBytes (bs.put b) = totalBytes bs + b.size := KeyedMap.total_insert_of_none Bundle.size h

/-- Taking a bundle in under a fresh identifier keeps the balance. -/
theorem Balanced.put {bs : BundleStore} (hbal : Balanced bs) {b : Bundle}
    (h : bs.bundles.lookup b.hash = none) : Balanced (bs.put b) := by
  have hsize : b.size64 = Int64.ofInt b.size := (Int64.ofInt_eq_ofNat).symm
  unfold Balanced at hbal ⊢
  change bs.usedBytes + b.size64 = _
  rw [totalBytes_put h, hbal, hsize, ← Int64.ofInt_add, Nat.cast_add]

/-- Store rejects an identifier it already holds. -/
theorem store_of_mem {bs : BundleStore} {b old : Bundle}
    (h : bs.bundles.lookup b.hash = some old) :
    bs.store b = (bs, some (.errorf (ascii "bundle " ++ b.id.string ++
      ascii " already exists in store"))) := by
  have h' : bs.bundles.lookup b.id.hash = some old := h
  simp only [BundleStore.store, h']

/-- Store rejects a new bundle that fails the admission test. -/
theorem store_of_full {bs : BundleStore} {b : Bundle} (h : bs.bundles.lookup b.hash = none)
    (hfull : bs.usedBytes + b.size64 > bs.maxBytes) :
    bs.store b = (bs, some (.storeFull b.size64 (bs.maxBytes - bs.usedBytes) bs.maxBytes)) := by
  have h' : bs.bundles.lookup b.id.hash = none := h
  simp only [BundleStore.store, h', if_pos hfull]

/-- Store takes in a new bundle that passes the admission test. -/
theorem store_of_fits {bs : BundleStore} {b : Bundle} (h : bs.bundles.lookup b.hash = none)
    (hfits : ¬bs.usedBytes + b.size64 > bs.maxBytes) : bs.store b = (bs.put b, none) := by
  have h' : bs.bundles.lookup b.id.hash = none := h
  simp only [BundleStore.store, h', if_neg hfits]

/-- Store succeeds exactly under a fresh identifier and within the capacity. -/
theorem store_isNone_iff (bs : BundleStore) (b : Bundle) :
    (bs.store b).2.isNone = true ↔
      bs.bundles.lookup b.hash = none ∧ ¬bs.usedBytes + b.size64 > bs.maxBytes := by
  cases hl : bs.bundles.lookup b.hash with
  | some old => simp [store_of_mem hl]
  | none =>
    by_cases hfull : bs.usedBytes + b.size64 > bs.maxBytes
    · simp [store_of_full hl hfull, hfull]
    · simp [store_of_fits hl hfull, hfull]

/-- Store changes nothing and fails, or takes in a bundle under a fresh identifier. -/
theorem store_cases (bs : BundleStore) (b : Bundle) :
    (∃ err, bs.store b = (bs, some err)) ∨
      bs.bundles.lookup b.hash = none ∧ bs.store b = (bs.put b, none) := by
  cases h : bs.bundles.lookup b.hash with
  | some old => exact Or.inl ⟨_, store_of_mem h⟩
  | none =>
    by_cases hfull : bs.usedBytes + b.size64 > bs.maxBytes
    · exact Or.inl ⟨_, store_of_full h hfull⟩
    · exact Or.inr ⟨rfl, store_of_fits h hfull⟩

/-- Each operation other than Store and RecoverFromPowerLoss drops distinct
stored bundles, if it changes the store at all. -/
theorem apply_eq_dropAll (bs : BundleStore) (op : StoreOp)
    (hstore : ∀ b, op ≠ .store b) (hrecover : ∀ l, op ≠ .recoverFromPowerLoss l) :
    ∃ l : List Bundle, (∀ a ∈ l, a ∈ bs.bundles) ∧ l.Nodup ∧ op.apply bs = dropAll bs l := by
  have hnone : (∀ a ∈ ([] : List Bundle), a ∈ bs.bundles) ∧ ([] : List Bundle).Nodup :=
    ⟨fun a ha => absurd ha List.not_mem_nil, List.nodup_nil⟩
  have hone : ∀ b ∈ bs.bundles, (∀ a ∈ [b], a ∈ bs.bundles) ∧ [b].Nodup := by
    intro b hb
    exact ⟨fun a ha => (List.mem_singleton.mp ha) ▸ hb, List.nodup_singleton b⟩
  have hremove : ∀ id, ∃ l : List Bundle, (∀ a ∈ l, a ∈ bs.bundles) ∧ l.Nodup ∧
      (bs.removeByID id).1 = dropAll bs l := by
    intro id
    rcases removeByID_cases bs id with h | ⟨b, hb, -, h⟩
    · exact ⟨[], hnone.1, hnone.2, by rw [h.2]; rfl⟩
    · exact ⟨[b], (hone b hb).1, (hone b hb).2, by rw [h]; rfl⟩
  cases op with
  | store b => exact absurd rfl (hstore b)
  | recoverFromPowerLoss l => exact absurd rfl (hrecover l)
  | delete id => exact hremove id
  | handleCorruption id => exact hremove id
  | evictLowestPriority order =>
    rcases evictLowestPriority_cases bs order with h | ⟨b, hb, h⟩
    · exact ⟨[], hnone.1, hnone.2, h⟩
    · exact ⟨[b], (hone b hb).1, (hone b hb).2, h⟩
  | evictExpired order currentTime =>
    refine ⟨expiredIn bs order currentTime, fun a ha => (mem_expiredIn.mp ha).1,
      nodup_expiredIn bs order currentTime, ?_⟩
    change (bs.evictExpired order currentTime).1 = _
    rw [evictExpired_eq]
  | evictToFreeSpace first second requiredBytes currentTime =>
    refine ⟨makeRoom bs first second requiredBytes currentTime,
      fun a ha => mem_of_mem_makeRoom ha, nodup_makeRoom _ _ _ _ _, ?_⟩
    change (bs.evictToFreeSpace first second requiredBytes currentTime).1 = _
    rw [evictToFreeSpace_eq]

/-- Operations that only remove keep the accounting. -/
theorem Accounted.apply_of_removal {bs : BundleStore} (h : Accounted bs) {op : StoreOp}
    (hstore : ∀ b, op ≠ .store b) (hrecover : ∀ l, op ≠ .recoverFromPowerLoss l) :
    Accounted (op.apply bs) := by
  obtain ⟨l, hl, hn, he⟩ := apply_eq_dropAll bs op hstore hrecover
  rw [he]
  exact h.dropAll hl hn

section Recovery

/-- Progress of a recovery: the store, and the two counts it returns. -/
abbrev RecoveryState := BundleStore × ℕ × ℕ

/-- The admission test of this bundle does not leave the word range. -/
def NoOverflow (bs : BundleStore) (b : Bundle) : Prop := bs.usedBytes.toInt + b.size < 2 ^ 63

/-- A recovered bundle that fits has an identifier that is not stored yet. -/
def FreshEntry (result : RecoveryState) : Option Bundle → Prop
  | none => True
  | some b => ¬result.1.usedBytes + b.size64 > result.1.maxBytes →
      result.1.bundles.lookup b.hash = none

/-- The admission test of a recovered bundle does not leave the word range. -/
def ExactEntry (result : RecoveryState) : Option Bundle → Prop
  | none => True
  | some b => NoOverflow result.1 b

/-- A recovered entry is skipped or taken in, whatever is stored under its identifier. -/
theorem recoverEntry_cases (result : RecoveryState) (entry : Option Bundle) :
    (BundleStore.recoverEntry result entry).1 = result.1 ∨
    ∃ b, entry = some b ∧ ¬result.1.usedBytes + b.size64 > result.1.maxBytes ∧
      (BundleStore.recoverEntry result entry).1 = result.1.put b := by
  cases entry with
  | none => exact Or.inl rfl
  | some b =>
    by_cases h : result.1.usedBytes + b.size64 > result.1.maxBytes
    · left
      simp only [BundleStore.recoverEntry, if_pos h]
    · refine Or.inr ⟨b, rfl, h, ?_⟩
      simp only [BundleStore.recoverEntry, if_neg h]

/-- A nonnegative counter whose admission test overflows admits the bundle:
the wrapped sum is negative. -/
theorem fits_of_overflow {bs : BundleStore} {b : Bundle} (hused : 0 ≤ bs.usedBytes)
    (hmax : 0 ≤ bs.maxBytes) (h : ¬NoOverflow bs b) :
    ¬bs.usedBytes + b.size64 > bs.maxBytes := by
  have hsum := toInt_add_of_overflow (nonneg_iff.mp hused)
    (by rw [Bundle.toInt_size64]; omega : 0 ≤ b.size64.toInt)
    (by rw [Bundle.toInt_size64]; unfold NoOverflow at h; omega)
  have hlt := bs.usedBytes.toInt_lt
  have hsize := b.size64.toInt_lt
  have hmax' := nonneg_iff.mp hmax
  rw [gt_iff_lt, Int64.lt_iff_toInt_lt, hsum]
  omega

/-- Without overflow the admission test compares the exact sum. -/
theorem toInt_put_of_noOverflow {bs : BundleStore} {b : Bundle} (h : NoOverflow bs b) :
    (bs.usedBytes + b.size64).toInt = bs.usedBytes.toInt + b.size := by
  have hlow := bs.usedBytes.le_toInt
  unfold NoOverflow at h
  rw [toInt_add_of_range, Bundle.toInt_size64] <;> rw [Bundle.toInt_size64] <;> omega

/-- A bundle that fits without overflow and under a fresh identifier keeps the accounting. -/
theorem Accounted.put {bs : BundleStore} (h : Accounted bs) {b : Bundle}
    (hfresh : bs.bundles.lookup b.hash = none) (hexact : NoOverflow bs b)
    (hfits : ¬bs.usedBytes + b.size64 > bs.maxBytes) : Accounted (bs.put b) := by
  obtain ⟨hbal, -⟩ := accounted_iff.mp h
  refine accounted_iff.mpr ⟨hbal.put hfresh, ?_⟩
  have hle := Int64.le_iff_toInt_le.mp (Int64.not_lt.mp hfits)
  have hex := h.exact
  rw [toInt_put_of_noOverflow hexact] at hle
  rw [totalBytes_put hfresh]
  change _ ≤ bs.maxBytes.toInt
  omega

theorem Accounted.recoverEntry {result : RecoveryState} (h : Accounted result.1)
    {entry : Option Bundle} (hfresh : FreshEntry result entry) (hexact : ExactEntry result entry) :
    Accounted (BundleStore.recoverEntry result entry).1 := by
  rcases recoverEntry_cases result entry with he | ⟨b, rfl, hfits, he⟩
  · rw [he]
    exact h
  · rw [he]
    exact h.put (hfresh hfits) hexact hfits

/-- Fresh entries keep the balance and never shrink the total. -/
theorem balanced_run_recoverEntry {result : RecoveryState} {entries : List (Option Bundle)}
    (hfresh : Along BundleStore.recoverEntry FreshEntry result entries)
    (hbal : Balanced result.1) :
    Balanced (run BundleStore.recoverEntry result entries).1 ∧
      totalBytes result.1 ≤ totalBytes (run BundleStore.recoverEntry result entries).1 := by
  induction entries generalizing result with
  | nil => exact ⟨hbal, Nat.le_refl _⟩
  | cons entry entries ih =>
    have hstep : Balanced (BundleStore.recoverEntry result entry).1 ∧
        totalBytes result.1 ≤ totalBytes (BundleStore.recoverEntry result entry).1 := by
      rcases recoverEntry_cases result entry with he | ⟨b, rfl, hfits, he⟩
      · rw [he]
        exact ⟨hbal, Nat.le_refl _⟩
      · have hnone := hfresh.1 hfits
        rw [he, totalBytes_put hnone]
        exact ⟨hbal.put hnone, Nat.le_add_right _ _⟩
    have hrest := ih hfresh.2 hstep.1
    rw [run_cons]
    exact ⟨hrest.1, Nat.le_trans hstep.2 hrest.2⟩

/-- Counter minus stored bytes: what overwriting leaves counted twice. -/
def drift (bs : BundleStore) : ℤ := bs.usedBytes.toInt - totalBytes bs

/-- Without overflow an entry never lowers the drift, and one that overwrites raises it. -/
theorem drift_recoverEntry {result : RecoveryState} {entry : Option Bundle}
    (hexact : ExactEntry result entry) :
    drift result.1 ≤ drift (BundleStore.recoverEntry result entry).1 ∧
      (¬FreshEntry result entry →
        drift result.1 < drift (BundleStore.recoverEntry result entry).1) := by
  rcases recoverEntry_cases result entry with he | ⟨b, rfl, hfits, he⟩
  · rw [he]
    refine ⟨Int.le_refl _, fun hover => absurd ?_ hover⟩
    cases entry with
    | none => trivial
    | some b =>
      intro hfits
      have hput : (BundleStore.recoverEntry result (some b)).1 = result.1.put b := by
        simp only [BundleStore.recoverEntry, if_neg hfits]
      rw [hput] at he
      -- a skipped entry would have had to change the counter
      have hused := congrArg (fun bs : BundleStore => bs.usedBytes.toInt) he
      have hsum := toInt_put_of_noOverflow hexact
      have hpos := b.size_pos
      change (result.1.usedBytes + b.size64).toInt = result.1.usedBytes.toInt at hused
      omega
  · have hsum : (result.1.put b).usedBytes.toInt = result.1.usedBytes.toInt + b.size :=
      toInt_put_of_noOverflow hexact
    rw [he]
    unfold drift
    cases hl : result.1.bundles.lookup b.hash with
    | none =>
      have htotal := totalBytes_put hl
      refine ⟨by omega, fun hover => absurd ?_ hover⟩
      intro _
      exact hl
    | some old =>
      have htotal : totalBytes (result.1.put b) + old.size = totalBytes result.1 + b.size :=
        KeyedMap.total_insert_of_some Bundle.size hl
      have hpos := old.size_pos
      exact ⟨by omega, fun _ => by omega⟩

theorem drift_run_recoverEntry {result : RecoveryState} {entries : List (Option Bundle)}
    (hexact : Along BundleStore.recoverEntry ExactEntry result entries) :
    drift result.1 ≤ drift (run BundleStore.recoverEntry result entries).1 := by
  induction entries generalizing result with
  | nil => exact Int.le_refl _
  | cons entry entries ih =>
    have hstep := (drift_recoverEntry hexact.1).1
    have hrest := ih hexact.2
    rw [run_cons]
    omega

/-- A recovery of fresh entries keeps the accounting exactly when no admission test overflows. -/
theorem accounted_recovery_of_fresh {result : RecoveryState} {entries : List (Option Bundle)}
    (h : Accounted result.1)
    (hfresh : Along BundleStore.recoverEntry FreshEntry result entries) :
    Accounted (run BundleStore.recoverEntry result entries).1 ↔
      Along BundleStore.recoverEntry ExactEntry result entries := by
  constructor
  · intro hend
    induction entries generalizing result with
    | nil => trivial
    | cons entry entries ih =>
      have hexact : ExactEntry result entry := by
        by_contra hover
        cases entry with
        | none => exact hover trivial
        | some b =>
          have hmax : 0 ≤ result.1.maxBytes := Int64.le_trans h.nonneg h.capacity
          have hfits := fits_of_overflow h.nonneg hmax hover
          have hnone := hfresh.1 hfits
          have hput : (BundleStore.recoverEntry result (some b)).1 = result.1.put b := by
            simp only [BundleStore.recoverEntry, if_neg hfits]
          have hbal : Balanced (BundleStore.recoverEntry result (some b)).1 := by
            rw [hput]
            exact (accounted_iff.mp h).1.put hnone
          have hgrow := (balanced_run_recoverEntry hfresh.2 hbal).2
          have hcap := (accounted_iff.mp hend).2
          have hlt := (run BundleStore.recoverEntry result (some b :: entries)).1.maxBytes.toInt_lt
          have hex := h.exact
          unfold ExactEntry NoOverflow at hover
          rw [hput, totalBytes_put hnone] at hgrow
          rw [run_cons] at hcap hlt
          omega
      exact ⟨hexact, ih (h.recoverEntry hfresh.1 hexact) hfresh.2 hend⟩
  · intro hexact
    have hstep : ∀ (r : RecoveryState) entry, Accounted r.1 →
        FreshEntry r entry ∧ ExactEntry r entry →
        Accounted (BundleStore.recoverEntry r entry).1 := by
      intro r entry hacc hboth
      exact hacc.recoverEntry hboth.1 hboth.2
    exact @Along.invariant _ _ _ _ _ (fun r => Accounted r.1) hstep _ (hfresh.and hexact) h

/-- A recovery without overflow keeps the accounting exactly when every entry is fresh. -/
theorem accounted_recovery_of_exact {result : RecoveryState} {entries : List (Option Bundle)}
    (h : Accounted result.1)
    (hexact : Along BundleStore.recoverEntry ExactEntry result entries) :
    Accounted (run BundleStore.recoverEntry result entries).1 ↔
      Along BundleStore.recoverEntry FreshEntry result entries := by
  constructor
  · intro hend
    induction entries generalizing result with
    | nil => trivial
    | cons entry entries ih =>
      have hfresh : FreshEntry result entry := by
        by_contra hover
        have hraise := (drift_recoverEntry hexact.1).2 hover
        have hkeep := drift_run_recoverEntry hexact.2
        have hstart : drift result.1 = 0 := by
          rw [drift, h.exact]
          omega
        have hfinal : drift (run BundleStore.recoverEntry result (entry :: entries)).1 = 0 := by
          rw [drift, hend.exact]
          omega
        rw [run_cons] at hfinal
        omega
      exact ⟨hfresh, ih (h.recoverEntry hfresh hexact.1) hexact.2 hend⟩
  · intro hfresh
    exact (accounted_recovery_of_fresh h hfresh).mpr hexact

end Recovery

/-- No step of recovery overwrites: every recovered bundle that fits has a fresh identifier. -/
def FreshRecovery (bs : BundleStore) : StoreOp → Prop
  | .recoverFromPowerLoss nvmBundles =>
    Along BundleStore.recoverEntry FreshEntry (bs, 0, 0) nvmBundles
  | _ => True

/-- No admission test made for a new identifier, or in a recovery, overflows. -/
def ExactAdmission (bs : BundleStore) : StoreOp → Prop
  | .store bundle => bs.bundles.lookup bundle.hash = none → NoOverflow bs bundle
  | .recoverFromPowerLoss nvmBundles =>
    Along BundleStore.recoverEntry ExactEntry (bs, 0, 0) nvmBundles
  | _ => True

/-- Storing keeps the accounting exactly when its admission test does not overflow. -/
theorem accounted_store_iff {bs : BundleStore} (h : Accounted bs) (b : Bundle) :
    Accounted (bs.store b).1 ↔ (bs.bundles.lookup b.hash = none → NoOverflow bs b) := by
  cases hl : bs.bundles.lookup b.hash with
  | some old =>
    rw [store_of_mem hl]
    exact iff_of_true h (fun hnone => absurd hnone (Option.some_ne_none old))
  | none =>
    by_cases hexact : NoOverflow bs b
    · refine iff_of_true ?_ (fun _ => hexact)
      by_cases hfull : bs.usedBytes + b.size64 > bs.maxBytes
      · rw [store_of_full hl hfull]
        exact h
      · rw [store_of_fits hl hfull]
        exact h.put hl hexact hfull
    · refine iff_of_false (fun hacc => hexact ?_) (fun himp => hexact (himp rfl))
      have hmax : 0 ≤ bs.maxBytes := Int64.le_trans h.nonneg h.capacity
      rw [store_of_fits hl (fits_of_overflow h.nonneg hmax hexact)] at hacc
      -- the stored bytes themselves would have to be in range
      have hcap := (accounted_iff.mp hacc).2
      have hlt := (bs.put b, (none : Option GoError)).1.maxBytes.toInt_lt
      have hex := h.exact
      rw [totalBytes_put hl] at hcap
      unfold NoOverflow
      omega

/-- Step law: given fresh recoveries, an operation keeps the accounting
exactly when its admission tests do not overflow. -/
theorem accounted_apply_of_fresh (bs : BundleStore) (op : StoreOp) (h : Accounted bs)
    (hfresh : FreshRecovery bs op) : Accounted (op.apply bs) ↔ ExactAdmission bs op := by
  cases op with
  | store b => exact accounted_store_iff h b
  | recoverFromPowerLoss l => exact accounted_recovery_of_fresh h hfresh
  | _ => exact iff_of_true (h.apply_of_removal (fun _ => nofun) (fun _ => nofun)) trivial

/-- Step law: without overflow, an operation keeps the accounting exactly
when it does not overwrite. -/
theorem accounted_apply_of_exact (bs : BundleStore) (op : StoreOp) (h : Accounted bs)
    (hexact : ExactAdmission bs op) : Accounted (op.apply bs) ↔ FreshRecovery bs op := by
  cases op with
  | store b => exact iff_of_true ((accounted_store_iff h b).mpr hexact) trivial
  | recoverFromPowerLoss l => exact accounted_recovery_of_exact h hexact
  | _ => exact iff_of_true (h.apply_of_removal (fun _ => nofun) (fun _ => nofun)) trivial

/-- Along every run from a new store: without overflow the accounting holds
throughout exactly when no recovery overwrites, and without overwriting it
holds throughout exactly when no admission test overflows. -/
theorem accounted_along_iff {maxBytes : Int64} (hmax : 0 ≤ maxBytes) (ops : List StoreOp) :
    (Along StoreOp.apply ExactAdmission (newBundleStore maxBytes) ops →
      ((∀ first, first <+: ops → Accounted (run StoreOp.apply (newBundleStore maxBytes) first)) ↔
        Along StoreOp.apply FreshRecovery (newBundleStore maxBytes) ops)) ∧
    (Along StoreOp.apply FreshRecovery (newBundleStore maxBytes) ops →
      ((∀ first, first <+: ops → Accounted (run StoreOp.apply (newBundleStore maxBytes) first)) ↔
        Along StoreOp.apply ExactAdmission (newBundleStore maxBytes) ops)) := by
  have hstart := accounted_newBundleStore hmax
  constructor
  · intro hexact
    exact forall_prefix_iff_along accounted_apply_of_exact hexact hstart
  · intro hfresh
    exact forall_prefix_iff_along accounted_apply_of_fresh hfresh hstart

end Accounting

section Scenarios

attribute [local instance] Sha256.transparent

/-- Storing, recovering a corrupted entry and deleting keep the accounting. -/
theorem accounted_run_store_recover_delete :
    Accounted (run StoreOp.apply (newBundleStore 1000)
      [.store specimen, .recoverFromPowerLoss [none], .delete specimen.id]) := by
  refine ((accounted_along_iff (by decide : (0 : Int64) ≤ 1000) _).1 ?_).mpr ?_ _ List.prefix_rfl
  · refine ⟨fun _ => ?_, ⟨trivial, trivial⟩, trivial, trivial⟩
    unfold NoOverflow
    decide
  · exact ⟨trivial, ⟨trivial, trivial⟩, trivial, trivial⟩

/-- Recovering one bundle twice into an empty store breaks the accounting,
whatever the hash function. -/
theorem not_accounted_of_repeated_recovery :
    ¬∃ _ : Sha256, ∀ maxBytes : Int64, 0 ≤ maxBytes → ∀ ops first : List StoreOp,
      first <+: ops → Accounted (run StoreOp.apply (newBundleStore maxBytes) first) := by
  intro h
  obtain ⟨_, h⟩ := h
  have hacc := h 1000 (by decide) [.recoverFromPowerLoss [some specimen, some specimen]] _
    List.prefix_rfl
  have hrun : run StoreOp.apply (newBundleStore 1000)
      [.recoverFromPowerLoss [some specimen, some specimen]] =
      ((newBundleStore 1000).put specimen).put specimen := by
    have hone : ¬(0 + specimen.size64 > 1000) := by decide
    have htwo : ¬(0 + specimen.size64 + specimen.size64 > 1000) := by decide
    simp only [run, List.foldl_cons, List.foldl_nil, StoreOp.apply,
      BundleStore.recoverFromPowerLoss, BundleStore.recoverEntry, newBundleStore,
      BundleStore.put, if_neg hone, if_neg htwo]
  rw [hrun] at hacc
  have hfirst : totalBytes ((newBundleStore 1000).put specimen) = 0 + specimen.size :=
    totalBytes_put rfl
  have hsecond : totalBytes (((newBundleStore 1000).put specimen).put specimen) +
      specimen.size = totalBytes ((newBundleStore 1000).put specimen) + specimen.size :=
    KeyedMap.total_insert_of_some Bundle.size
      (KeyedMap.lookup_of_mem (KeyedMap.mem_insert.mpr (Or.inl rfl)))
  have hused : (((newBundleStore 1000).put specimen).put specimen).usedBytes =
      0 + specimen.size64 + specimen.size64 := rfl
  have hcount : (0 + specimen.size64 + specimen.size64).toInt = 512 := by decide
  have hsize : specimen.size = 256 := rfl
  have hex := hacc.exact
  rw [hused, hcount] at hex
  omega

end Scenarios

end CislunarDtn.StorageAccounting
