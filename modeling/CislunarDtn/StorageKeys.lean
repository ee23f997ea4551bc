import CislunarDtn.BundleIdentifiers

/-!
# What the store confuses

Storing and retrieving by identifier go through the key. They keep different
identifiers apart as long as no stored bundle has an identifier that is printed
like the one asked for.
-/

namespace CislunarDtn.StorageKeys

open KeyedMaps Bundles BundleStorage BundleIdentifiers LabelledRuns

/-- Operations by identifier. -/
inductive KeyedOp where
  /-- Store a bundle. -/
  | store (bundle : Bundle)
  /-- Delete the bundle with an identifier. -/
  | delete (bundleID : BundleID)
  /-- Retrieve the bundle with an identifier. -/
  | retrieve (bundleID : BundleID)

section keys

variable [Sha256]

/-- The store after an operation. -/
def KeyedOp.apply (bs : BundleStore) : KeyedOp → BundleStore
  | .store bundle => (bs.store bundle).1
  | .delete bundleID => (bs.delete bundleID).1
  | .retrieve _ => bs

/-- Storing fails with the error for a bundle that is already there. -/
def RejectedAsDuplicate (bs : BundleStore) (bundle : Bundle) : Prop :=
  (bs.store bundle).2 =
    some (.errorf (ascii "bundle " ++ bundle.id.string ++ ascii " already exists in store"))

/-- A duplicate is reported only for a stored identifier, and retrieving
returns only a bundle with the identifier asked for. -/
def Faithful (bs : BundleStore) : KeyedOp → Prop
  | .store bundle => RejectedAsDuplicate bs bundle → ∃ c ∈ bs.bundles, c.id = bundle.id
  | .delete _ => True
  | .retrieve bundleID => ∀ c, bs.retrieve bundleID = .ok c → c.id = bundleID

/-- No stored identifier is another one that is printed like the operation's. -/
def NotConfused (bs : BundleStore) : KeyedOp → Prop
  | .store bundle => ∀ c ∈ bs.bundles, ¬Confusable c.id bundle.id
  | .delete _ => True
  | .retrieve bundleID => ∀ c ∈ bs.bundles, ¬Confusable c.id bundleID

/-- With an injective digest the key tells apart what the text tells apart. -/
theorem hash_eq_iff (hinj : Function.Injective Sha256.hexDigest) {a b : BundleID} :
    a.hash = b.hash ↔ a = b ∨ Confusable a b := by
  rw [← string_eq_iff]
  exact hinj.eq_iff

theorem rejectedAsDuplicate_iff {bs : BundleStore} {bundle : Bundle} :
    RejectedAsDuplicate bs bundle ↔ ∃ c ∈ bs.bundles, c.id.hash = bundle.id.hash := by
  unfold RejectedAsDuplicate BundleStore.store
  cases hl : bs.bundles.lookup bundle.id.hash with
  | some c =>
    obtain ⟨hc, hkey⟩ := KeyedMap.lookup_eq_some_iff.mp hl
    exact iff_of_true rfl ⟨c, hc, hkey⟩
  | none =>
    have hnone := KeyedMap.lookup_eq_none_iff.mp hl
    refine iff_of_false ?_ ?_
    · dsimp only
      split_ifs <;> simp
    · rintro ⟨c, hc, hkey⟩
      exact hnone c hc hkey

theorem retrieve_eq_ok_iff {bs : BundleStore} {bundleID : BundleID} {c : Bundle} :
    bs.retrieve bundleID = .ok c ↔ c ∈ bs.bundles ∧ c.id.hash = bundleID.hash := by
  unfold BundleStore.retrieve
  cases hl : bs.bundles.lookup bundleID.hash with
  | some d =>
    obtain ⟨hd, hkey⟩ := KeyedMap.lookup_eq_some_iff.mp hl
    constructor
    · intro h
      obtain rfl := Except.ok.inj h
      exact ⟨hd, hkey⟩
    · rintro ⟨hc, hckey⟩
      have hkeys : Bundle.hash d = Bundle.hash c := hkey.trans hckey.symm
      rw [KeyedMap.eq_of_key_eq hd hc hkeys]
  | none =>
    have hnone := KeyedMap.lookup_eq_none_iff.mp hl
    refine iff_of_false (by simp) ?_
    rintro ⟨hc, hkey⟩
    exact hnone c hc hkey

/-- An operation is faithful exactly if its identifier is not confused with a stored one. -/
theorem faithful_iff (hinj : Function.Injective Sha256.hexDigest) (bs : BundleStore)
    (op : KeyedOp) : Faithful bs op ↔ NotConfused bs op := by
  cases op with
  | store bundle =>
    simp only [Faithful, NotConfused, rejectedAsDuplicate_iff, hash_eq_iff hinj]
    constructor
    · intro h c hc hconf
      obtain ⟨d, hd, hid⟩ := h ⟨c, hc, Or.inr hconf⟩
      -- the stored bundle with this identifier has the same key
      have hkeys : Bundle.hash c = Bundle.hash d := by
        have := (hash_eq_iff hinj).mpr (Or.inr hconf)
        rw [← hid] at this
        exact this
      rw [KeyedMap.eq_of_key_eq hc hd hkeys] at hconf
      exact hconf.ne hid
    · rintro h ⟨c, hc, hid | hconf⟩
      · exact ⟨c, hc, hid⟩
      · exact absurd hconf (h c hc)
  | delete bundleID => exact Iff.rfl
  | retrieve bundleID =>
    simp only [Faithful, NotConfused, retrieve_eq_ok_iff, hash_eq_iff hinj]
    constructor
    · intro h c hc hconf
      exact hconf.ne (h c ⟨hc, Or.inr hconf⟩)
    · rintro h c ⟨hc, hid | hconf⟩
      · exact hid
      · exact absurd hconf (h c hc)

/-- With an injective digest, different identifiers have different texts and
keys exactly if they are not confusable, and a run of operations by identifier
is faithful exactly if no operation meets a stored identifier that is
confusable with its own. -/
theorem keys_faithful_iff (hinj : Function.Injective Sha256.hexDigest) :
    (∀ a b : BundleID, a ≠ b →
      ((a.string ≠ b.string ∧ a.hash ≠ b.hash) ↔ ¬Confusable a b)) ∧
    ∀ (bs : BundleStore) (ops : List KeyedOp),
      Along KeyedOp.apply Faithful bs ops ↔ Along KeyedOp.apply NotConfused bs ops := by
  constructor
  · intro a b hne
    rw [Ne, Ne, string_eq_iff, hash_eq_iff hinj]
    simp [hne]
  · intro bs ops
    exact ⟨fun h => h.mono fun bs op => (faithful_iff hinj bs op).mp,
      fun h => h.mono fun bs op => (faithful_iff hinj bs op).mpr⟩

end keys

section scenarios

attribute [local instance] Sha256.transparent

/-- A bundle whose source ends in a hyphen. -/
def hyphenated : Bundle :=
  { specimen with id := ⟨⟨ascii "dtn", ascii "moon-"⟩, 5, 1⟩ }

/-- A bundle whose time stamp is negative. -/
def negative : Bundle :=
  { specimen with id := ⟨⟨ascii "dtn", ascii "moon"⟩, -5, 1⟩ }

/-- A bundle that is not stored is rejected as one that is, and retrieving it
returns another. -/
theorem keys_confused :
    hyphenated.id ≠ negative.id ∧ hyphenated.id.string = negative.id.string ∧
      ¬Along KeyedOp.apply Faithful (newBundleStore 1000)
        [.store hyphenated, .store negative] ∧
      ¬Along KeyedOp.apply Faithful (newBundleStore 1000)
        [.store hyphenated, .retrieve negative.id] := by
  have hvalues : (KeyedOp.apply (newBundleStore 1000) (.store hyphenated)).bundles.values =
      [hyphenated] := by decide +kernel
  have hids : hyphenated.id ≠ negative.id := by decide +kernel
  refine ⟨hids, by decide +kernel, ?_, ?_⟩
  · rintro ⟨-, hstore, -⟩
    have hrejected : RejectedAsDuplicate
        (KeyedOp.apply (newBundleStore 1000) (.store hyphenated)) negative := by
      unfold RejectedAsDuplicate
      decide +kernel
    obtain ⟨c, hc, hid⟩ := hstore hrejected
    rw [KeyedMap.mem_def, hvalues] at hc
    obtain rfl := List.mem_singleton.mp hc
    exact hids hid
  · rintro ⟨-, hretrieve, -⟩
    exact hids (hretrieve hyphenated (by decide +kernel))

theorem keys_faithful_transparent :
    Along KeyedOp.apply Faithful (newBundleStore 1000)
        [.store hyphenated, .retrieve hyphenated.id] ↔
      Along KeyedOp.apply NotConfused (newBundleStore 1000)
        [.store hyphenated, .retrieve hyphenated.id] :=
  (keys_faithful_iff Function.injective_id).2 _ _

end scenarios

end CislunarDtn.StorageKeys
