import CislunarDtn.BundleStorage
import CislunarDtn.LabelledRuns
import CislunarDtn.SeparatedFields
import CislunarDtn.TerminatedLines

/-!
# Bundle identifiers as store keys

The key of a bundle is the digest of its printed identifier. Scheme and
scheme-specific part may contain what separates the fields, and a sign is
printed as the hyphen that separates them too, so that different identifiers
can be printed the same. Which ones are is decided here, and with it what the
store confuses.
-/

namespace CislunarDtn.BundleIdentifiers

open KeyedMaps Bundles BundleStorage LabelledRuns SeparatedFields TerminatedLines

/-- The separator of scheme and scheme-specific part. -/
def schemeSeparator : GoString := ascii "://"

/-- The hyphen. -/
def hyphen : UInt8 := 45

/-- The second endpoint's scheme goes on through a separator that the first
one has in its scheme-specific part. -/
def SchemeShift (e f : EndpointID) : Prop :=
  Shifted schemeSeparator e.scheme e.ssp f.scheme f.ssp

/-- Endpoints that are printed the same. -/
def SameText (e f : EndpointID) : Prop := e = f ∨ SchemeShift e f ∨ SchemeShift f e

/-- The first identifier's source ends in a hyphen where the second one has a
negative time stamp. -/
def SignShift (a b : BundleID) : Prop :=
  b.creationTimestamp.toInt < 0 ∧ a.creationTimestamp.toInt = -b.creationTimestamp.toInt ∧
    SameText a.sourceEID { b.sourceEID with ssp := b.sourceEID.ssp ++ [hyphen] }

/-- Different identifiers that are printed the same. -/
def Confusable (a b : BundleID) : Prop :=
  a.sequenceNumber = b.sequenceNumber ∧
    ((a.creationTimestamp = b.creationTimestamp ∧
        (SchemeShift a.sourceEID b.sourceEID ∨ SchemeShift b.sourceEID a.sourceEID)) ∨
      SignShift a b ∨ SignShift b a)

/-- Decimal rendering of a number. -/
def decimal (n : ℕ) : GoString := ascii (toString n)

section printing

theorem ascii_append (s t : String) : ascii (s ++ t) = ascii s ++ ascii t := by
  simp [ascii]

theorem decimal_eq (n : ℕ) :
    decimal n = (Nat.toDigits 10 n).map fun c => UInt8.ofNat c.toNat := by
  simp [decimal, ascii]

/-- The codes of digits. -/
theorem toNat_of_mem_toDigits {n : ℕ} {c : Char} (hc : c ∈ Nat.toDigits 10 n) :
    48 ≤ c.toNat ∧ c.toNat ≤ 57 := by
  have hdigit := Nat.isDigit_of_mem_toDigits (by omega) (by omega) hc
  simpa [Char.isDigit, UInt32.le_iff_toNat_le] using hdigit

theorem hyphen_notMem_decimal (n : ℕ) : hyphen ∉ decimal n := by
  rw [decimal_eq]
  intro hm
  obtain ⟨c, hc, he⟩ := List.mem_map.mp hm
  obtain ⟨hl, hu⟩ := toNat_of_mem_toDigits hc
  have hcode := congrArg UInt8.toNat he
  simp only [UInt8.toNat_ofNat', hyphen] at hcode
  have h45 : (45 : UInt8).toNat = 45 := rfl
  omega

theorem decimal_injective {m n : ℕ} (h : decimal m = decimal n) : m = n := by
  have hread : ∀ k, ((decimal k).map fun b => Char.ofNat b.toNat) = Nat.toDigits 10 k := by
    intro k
    rw [decimal_eq, List.map_map]
    have hid : ∀ c ∈ Nat.toDigits 10 k,
        ((fun b : UInt8 => Char.ofNat b.toNat) ∘ fun c => UInt8.ofNat c.toNat) c = id c := by
      intro c hc
      obtain ⟨-, hu⟩ := toNat_of_mem_toDigits hc
      have hcode : c.toNat % 256 = c.toNat := Nat.mod_eq_of_lt (by omega)
      simp [hcode]
    rw [List.map_congr_left hid, List.map_id]
  have hdigits : Nat.toDigits 10 m = Nat.toDigits 10 n := by rw [← hread m, ← hread n, h]
  have hvalue := congrArg (fun digits => Nat.ofDigitChars 10 digits 0) hdigits
  simpa using hvalue

/-- What a time stamp adds to the text before the hyphen that precedes its digits. -/
def signOf (t : Int64) : GoString := if t.toInt < 0 then [hyphen] else []

theorem hyphen_formatInt64 (t : Int64) :
    hyphen :: formatInt64 t = signOf t ++ hyphen :: decimal t.toInt.natAbs := by
  unfold formatInt64 signOf decimal
  rw [Int.toString_eq_repr, Int.repr_eq_if]
  split_ifs with hpos hneg hneg
  · omega
  · have habs : t.toInt.toNat = t.toInt.natAbs := by omega
    simp [habs]
  · have habs : (-t.toInt).toNat = t.toInt.natAbs := by omega
    rw [ascii_append, habs]
    rfl
  · omega

/-- A printed identifier, divided at the last two hyphens before digits. -/
theorem string_eq (b : BundleID) :
    b.string = b.sourceEID.string ++ signOf b.creationTimestamp ++
      hyphen :: decimal b.creationTimestamp.toInt.natAbs ++
        hyphen :: decimal b.sequenceNumber.toNat := by
  have hstamp := hyphen_formatInt64 b.creationTimestamp
  have hhyphen : ascii "-" = [hyphen] := rfl
  have hseq : formatUInt64 b.sequenceNumber = decimal b.sequenceNumber.toNat := rfl
  have hsplit : b.string = b.sourceEID.string ++ (hyphen :: formatInt64 b.creationTimestamp) ++
      hyphen :: decimal b.sequenceNumber.toNat := by
    simp [BundleID.string, hhyphen, hseq]
  rw [hsplit, hstamp]
  simp

theorem borderless_schemeSeparator : Borderless schemeSeparator := by
  intro x y z hxy hyz
  cases y with
  | nil => exact Or.inl rfl
  | cons b y =>
    right
    cases x with
    | nil => exact hxy.symm
    | cons a x =>
      -- only the first character is a colon
      have hb : b = 58 := (List.cons_eq_cons.mp hyz).1.symm
      have htail : [47, 47] = x ++ b :: y := (List.cons_eq_cons.mp hxy).2
      have hmem : b ∈ ([47, 47] : GoString) := by
        rw [htail]
        simp
      rw [hb] at hmem
      exact absurd hmem (by decide)

/-- Endpoints are printed the same exactly if one's scheme shifts into the other's. -/
theorem sameText_iff {e f : EndpointID} : SameText e f ↔ e.string = f.string := by
  have hjoined := @joined_eq_iff _ schemeSeparator e.scheme e.ssp f.scheme f.ssp
    borderless_schemeSeparator
  unfold SameText SchemeShift EndpointID.string
  rw [← schemeSeparator, hjoined]
  cases e
  cases f
  simp

theorem string_append_hyphen (f : EndpointID) :
    f.string ++ [hyphen] = ({ f with ssp := f.ssp ++ [hyphen] } : EndpointID).string := by
  simp [EndpointID.string]

/-- Source and time stamp can be exchanged for others of the same text if the
stamps agree, or if one stamp is the negative of the other and its sign is read
as part of the other's source. -/
theorem stamped_eq_iff {e f : EndpointID} {t u : Int64} :
    (e.string ++ signOf t = f.string ++ signOf u ∧ t.toInt.natAbs = u.toInt.natAbs) ↔
      (t = u ∧ SameText e f) ∨
        (u.toInt < 0 ∧ t.toInt = -u.toInt ∧
          SameText e { f with ssp := f.ssp ++ [hyphen] }) ∨
        (t.toInt < 0 ∧ u.toInt = -t.toInt ∧
          SameText f { e with ssp := e.ssp ++ [hyphen] }) := by
  have hinj : t = u ↔ t.toInt = u.toInt := Int64.toInt_inj.symm
  simp only [sameText_iff, ← string_append_hyphen, hinj, signOf]
  by_cases ht : t.toInt < 0
  · by_cases hu : u.toInt < 0
    · have habs : t.toInt.natAbs = u.toInt.natAbs ↔ t.toInt = u.toInt := by omega
      have hno : ¬t.toInt = -u.toInt := by omega
      have hno' : ¬u.toInt = -t.toInt := by omega
      simp [ht, hu, habs, hno, hno', and_comm]
    · have habs : t.toInt.natAbs = u.toInt.natAbs ↔ u.toInt = -t.toInt := by omega
      have hno : ¬t.toInt = u.toInt := by omega
      simp [ht, hu, habs, hno, and_comm, eq_comm]
  · by_cases hu : u.toInt < 0
    · have habs : t.toInt.natAbs = u.toInt.natAbs ↔ t.toInt = -u.toInt := by omega
      have hno : ¬t.toInt = u.toInt := by omega
      simp [ht, hu, habs, hno, and_comm]
    · have habs : t.toInt.natAbs = u.toInt.natAbs ↔ t.toInt = u.toInt := by omega
      simp [ht, hu, habs, and_comm]

/-- Identifiers are printed the same exactly if they are the same or confusable. -/
theorem string_eq_iff {a b : BundleID} : a.string = b.string ↔ a = b ∨ Confusable a b := by
  have hdecimal : ∀ m n, decimal m = decimal n ↔ m = n := fun m n =>
    ⟨decimal_injective, congrArg decimal⟩
  rw [string_eq, string_eq,
    append_cons_inj (hyphen_notMem_decimal _) (hyphen_notMem_decimal _),
    append_cons_inj (hyphen_notMem_decimal _) (hyphen_notMem_decimal _),
    hdecimal, hdecimal, UInt64.toNat_inj, stamped_eq_iff]
  obtain ⟨e, t, m⟩ := a
  obtain ⟨f, u, n⟩ := b
  rw [BundleID.mk.injEq]
  constructor
  · rintro ⟨⟨ht, he | hshift⟩ | hsign, hm⟩
    · exact Or.inl ⟨he, ht, hm⟩
    · exact Or.inr ⟨hm, Or.inl ⟨ht, hshift⟩⟩
    · exact Or.inr ⟨hm, Or.inr hsign⟩
  · rintro (⟨he, ht, hm⟩ | ⟨hm, ⟨ht, hshift⟩ | hsign⟩)
    · exact ⟨Or.inl ⟨ht, Or.inl he⟩, hm⟩
    · exact ⟨Or.inl ⟨ht, Or.inr hshift⟩, hm⟩
    · exact ⟨Or.inr hsign, hm⟩

theorem SchemeShift.ne {e f : EndpointID} (h : SchemeShift e f) : e ≠ f := by
  rintro rfl
  obtain ⟨r, hr, -⟩ := h
  have hlen := congrArg List.length hr
  have hsep : schemeSeparator.length = 3 := by decide
  simp only [List.length_append] at hlen
  omega

theorem Confusable.ne {a b : BundleID} (h : Confusable a b) : a ≠ b := by
  rintro rfl
  obtain ⟨-, ⟨-, hshift | hshift⟩ | ⟨hneg, habs, -⟩ | ⟨hneg, habs, -⟩⟩ := h
  · exact hshift.ne rfl
  · exact hshift.ne rfl
  · omega
  · omega

end printing

end CislunarDtn.BundleIdentifiers
