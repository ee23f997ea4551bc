import CislunarDtn.Bundles
import CislunarDtn.LabelledRuns

/-!
# Accounting of the non-volatile memory

An entry is the data behind a checksum of four bytes. The counter of used
bytes is charged with the data and credited with the entry, in unsigned
arithmetic that wraps, so only insertions keep it: an entry that is replaced
or deleted takes the four bytes of its header off what others are charged.
-/

namespace CislunarDtn.NvmStorage

open KeyedMaps Bundles LabelledRuns

/-- One bit of the reflected CRC-32 with the IEEE polynomial. -/
def crcShift (crc : UInt32) : UInt32 :=
  if crc &&& 1 = 1 then (crc >>> 1) ^^^ 0xEDB88320 else crc >>> 1

/-- One byte of the checksum. -/
def crcByte (crc : UInt32) (b : UInt8) : UInt32 :=
  (List.range 8).foldl (fun crc _ => crcShift crc) (crc ^^^ b.toUInt32)

/-- CRC-32 of data. -/
def checksumIEEE (data : List UInt8) : UInt32 := data.foldl crcByte 0xFFFFFFFF ^^^ 0xFFFFFFFF

example : checksumIEEE (ascii "123456789") = 0xCBF43926 := by decide +kernel

/-- A word as four bytes, lowest first. -/
def littleEndian (crc : UInt32) : List UInt8 :=
  [crc.toUInt8, (crc >>> 8).toUInt8, (crc >>> 16).toUInt8, (crc >>> 24).toUInt8]

/-- A stored entry with its key. -/
structure NvmEntry where
  /-- Key of the entry. -/
  key : GoString
  /-- The checksum header and the data. -/
  bytes : List UInt8
  /-- The header is there. -/
  header : 4 ≤ bytes.length
  /-- The length is a representable int. -/
  representable : bytes.length < 2 ^ 63
  deriving DecidableEq

/-- The entry that is written for data. -/
def entryOf (key : GoString) (data : Payload) : NvmEntry where
  key := key
  bytes := littleEndian (checksumIEEE data.bytes) ++ data.bytes
  header := by simp [littleEndian]
  representable := by
    have hbound := data.representable
    simp only [littleEndian, List.length_append, List.length_cons, List.length_nil]
    omega

/-- The device. What only its messages read is left out. -/
structure NVM where
  /-- Bytes it can hold. -/
  capacity : UInt64
  /-- Counter of used bytes. -/
  used : UInt64
  /-- Whether it is open. -/
  isOpen : Bool
  /-- The stored entries. -/
  storage : KeyedMap NvmEntry.key

namespace NVM

/-- A new device, closed and empty. -/
def new (capacity : UInt64) : NVM := ⟨capacity, 0, false, .empty⟩

/-- Open. -/
def openDevice (n : NVM) : NVM × Option GoError :=
  if n.isOpen then (n, some (.errorf (ascii "NVM already open")))
  else ({ n with isOpen := true }, none)

/-- Close. -/
def close (n : NVM) : NVM × Option GoError :=
  if n.isOpen = false then (n, some (.errorf (ascii "NVM not open")))
  else ({ n with isOpen := false }, none)

/-- What a write adds to the counter. -/
def newSize (n : NVM) (key : GoString) (data : Payload) : UInt64 :=
  match n.storage.lookup key with
  | some existing => UInt64.ofNat data.bytes.length - UInt64.ofNat existing.bytes.length
  | none => UInt64.ofNat data.bytes.length

/-- Write data under a key. -/
def write (n : NVM) (key : GoString) (data : Payload) : NVM × Option GoError :=
  if n.isOpen = false then (n, some (.errorf (ascii "NVM not open")))
  else if n.used + n.newSize key data > n.capacity then
    (n, some (.errorf (ascii "NVM capacity exceeded")))
  else
    ({ n with
        storage := n.storage.insert (entryOf key data)
        used := n.used + n.newSize key data }, none)

/-- Delete the data under a key. -/
def delete (n : NVM) (key : GoString) : NVM × Option GoError :=
  if n.isOpen = false then (n, some (.errorf (ascii "NVM not open")))
  else
    match n.storage.lookup key with
    | none => (n, some (.errorf (ascii "key not found: " ++ key)))
    | some entry =>
      ({ n with
          used := n.used - UInt64.ofNat entry.bytes.length
          storage := n.storage.erase key }, none)

end NVM

/-- The operations. -/
inductive NvmOp where
  /-- Open. -/
  | openDevice
  /-- Close. -/
  | close
  /-- Write. -/
  | write (key : GoString) (data : Payload)
  /-- Delete. -/
  | delete (key : GoString)

/-- The device after an operation. -/
def NvmOp.apply (n : NVM) : NvmOp → NVM
  | .openDevice => n.openDevice.1
  | .close => n.close.1
  | .write key data => (n.write key data).1
  | .delete key => (n.delete key).1

/-- What an entry can be charged with. -/
inductive Measure where
  /-- The length of its data. -/
  | dataLength
  /-- The length of its data and its header. -/
  | entryLength

/-- The charge of an entry. -/
def Measure.charge : Measure → NvmEntry → ℕ
  | .dataLength, entry => entry.bytes.length - 4
  | .entryLength, entry => entry.bytes.length

/-- The counter is the sum of the charges and within the capacity. -/
structure Accounted (m : Measure) (n : NVM) : Prop where
  /-- The counter is exact. -/
  exact : n.used.toNat = n.storage.total m.charge
  /-- It is within the capacity. -/
  within : n.used ≤ n.capacity

/-- An operation keeps the accounting, and a write to the open device succeeds
exactly when the charges after it are within the capacity. -/
def Respects (m : Measure) (n : NVM) (op : NvmOp) : Prop :=
  Accounted m (op.apply n) ∧
    match op with
    | .write key data => n.isOpen = true →
      ((n.write key data).2 = none ↔
        (n.storage.insert (entryOf key data)).total m.charge ≤ n.capacity.toNat)
    | _ => True

/-- Operations that do no harm to the accounting: nothing is deleted, nothing
is replaced, what is refused is refused with the four bytes taken off as well,
and no sum wraps. -/
def Harmless (n : NVM) : NvmOp → Prop
  | .write key data => n.isOpen = true →
    match n.storage.lookup key with
    | none => n.used.toNat + data.bytes.length < 2 ^ 64
    | some old =>
      let total := n.used.toNat - (old.bytes.length - 4) + data.bytes.length
      n.capacity.toNat < total ∧
        (total < 4 ∨ n.capacity.toNat + 4 < total ∧ total < 2 ^ 64 + 4)
  | .delete key => n.isOpen = true → n.storage.lookup key = none
  | _ => True

section steps

variable {n : NVM} {m : Measure}

theorem length_entryOf (key : GoString) (data : Payload) :
    (entryOf key data).bytes.length = data.bytes.length + 4 := by
  simp [entryOf, littleEndian]

theorem toNat_length (entry : NvmEntry) :
    (UInt64.ofNat entry.bytes.length).toNat = entry.bytes.length := by
  have hlt := entry.representable
  exact UInt64.toNat_ofNat_of_lt' (hlt.trans (by decide))

theorem toNat_dataLength (data : Payload) :
    (UInt64.ofNat data.bytes.length).toNat = data.bytes.length := by
  have hlt : data.bytes.length < 2 ^ 63 := by
    have hbound := data.representable
    omega
  exact UInt64.toNat_ofNat_of_lt' (hlt.trans (by decide))

/-- A write to the open device respects the accounting when it is refused rightly
or leaves the counter exact. -/
theorem respects_write_iff (h : Accounted m n) (hopen : n.isOpen = true) (key : GoString)
    (data : Payload) :
    Respects m n (.write key data) ↔
      if n.used + n.newSize key data ≤ n.capacity then
        (n.used + n.newSize key data).toNat =
          (n.storage.insert (entryOf key data)).total m.charge
      else n.capacity.toNat < (n.storage.insert (entryOf key data)).total m.charge := by
  have hnot : ¬n.isOpen = false := by simp [hopen]
  by_cases hfits : n.used + n.newSize key data ≤ n.capacity
  · have hroom : ¬n.used + n.newSize key data > n.capacity := UInt64.not_lt.mpr hfits
    have hwrite : n.write key data =
        ({ n with
            storage := n.storage.insert (entryOf key data)
            used := n.used + n.newSize key data }, none) := by
      rw [NVM.write, if_neg hnot, if_neg hroom]
    have hle := UInt64.le_iff_toNat_le.mp hfits
    rw [if_pos hfits]
    unfold Respects NvmOp.apply
    simp only [hwrite]
    constructor
    · intro hrespects
      exact hrespects.1.exact
    · intro hexact
      exact ⟨⟨hexact, hfits⟩, fun _ => iff_of_true trivial (by omega)⟩
  · have hfull : n.used + n.newSize key data > n.capacity := UInt64.not_le.mp hfits
    have hwrite : n.write key data = (n, some (.errorf (ascii "NVM capacity exceeded"))) := by
      rw [NVM.write, if_neg hnot, if_pos hfull]
    rw [if_neg hfits]
    unfold Respects NvmOp.apply
    simp only [hwrite]
    constructor
    · intro hrespects
      have hrefused := hrespects.2 hopen
      exact not_le.mp fun hle => by cases hrefused.mpr hle
    · intro hover
      exact ⟨h, fun _ => iff_of_false (by simp) (by omega)⟩

/-- What a write of new data is checked with and adds. -/
theorem toNat_add_newSize_of_none {key : GoString} (hl : n.storage.lookup key = none)
    (data : Payload) :
    (n.used + n.newSize key data).toNat = (n.used.toNat + data.bytes.length) % 2 ^ 64 := by
  rw [UInt64.toNat_add, NVM.newSize, hl, toNat_dataLength]

/-- What a write over an entry is checked with and adds. -/
theorem toNat_add_newSize_of_some {key : GoString} {old : NvmEntry}
    (hl : n.storage.lookup key = some old) (data : Payload) :
    (n.used + n.newSize key data).toNat =
      (n.used.toNat + (2 ^ 64 - old.bytes.length + data.bytes.length)) % 2 ^ 64 := by
  rw [UInt64.toNat_add, NVM.newSize, hl, UInt64.toNat_sub, toNat_dataLength, toNat_length,
    Nat.add_mod_mod]

/-- Deleting a stored entry credits four bytes that were never charged. -/
theorem not_accounted_delete (h : Accounted .dataLength n) (hopen : n.isOpen = true)
    {key : GoString} {entry : NvmEntry} (hl : n.storage.lookup key = some entry) :
    ¬Accounted .dataLength (n.delete key).1 := by
  obtain ⟨hm, rfl⟩ := KeyedMap.lookup_eq_some_iff.mp hl
  have hnot : ¬n.isOpen = false := by simp [hopen]
  have herase := KeyedMap.total_erase Measure.dataLength.charge hm
  have hexact := h.exact
  have hheader := entry.header
  have hlt := entry.representable
  intro hafter
  have hdelete : (n.delete entry.key).1 =
      { n with
        used := n.used - UInt64.ofNat entry.bytes.length
        storage := n.storage.erase entry.key } := by
    rw [NVM.delete, if_neg hnot]
    simp only [hl]
  have hcharge : Measure.dataLength.charge entry = entry.bytes.length - 4 := rfl
  rw [hdelete] at hafter
  have hexact' := hafter.exact
  rw [UInt64.toNat_sub, toNat_length] at hexact'
  rw [hcharge] at herase
  dsimp only at hexact'
  omega

theorem accounted_delete_iff (h : Accounted .dataLength n) (key : GoString) :
    Accounted .dataLength (n.delete key).1 ↔
      (n.isOpen = true → n.storage.lookup key = none) := by
  cases hopen : n.isOpen with
  | false =>
    have hsame : (n.delete key).1 = n := by simp [NVM.delete, hopen]
    rw [hsame]
    exact iff_of_true h (by simp)
  | true =>
    cases hl : n.storage.lookup key with
    | none =>
      have hsame : (n.delete key).1 = n := by simp [NVM.delete, hopen, hl]
      rw [hsame]
      exact iff_of_true h (fun _ => rfl)
    | some entry =>
      exact iff_of_false (not_accounted_delete h hopen hl) (fun hnone => by cases hnone rfl)

/-- A write of new data respects the accounting unless its sum wraps. -/
theorem respects_insert_iff (h : Accounted .dataLength n) (hopen : n.isOpen = true)
    {key : GoString} (hl : n.storage.lookup key = none) (data : Payload) :
    Respects .dataLength n (.write key data) ↔ n.used.toNat + data.bytes.length < 2 ^ 64 := by
  have hsum := toNat_add_newSize_of_none hl data
  have htotal := KeyedMap.total_insert_of_none Measure.dataLength.charge
    (m := n.storage) (a := entryOf key data) hl
  have hcharge : Measure.dataLength.charge (entryOf key data) = data.bytes.length := by
    rw [Measure.charge, length_entryOf, Nat.add_sub_cancel]
  have hexact := h.exact
  have hwithin := UInt64.le_iff_toNat_le.mp h.within
  have hcapacity := n.capacity.toNat_lt
  have hlt := data.representable
  rw [respects_write_iff h hopen, htotal, hcharge, hsum, ← hexact]
  by_cases hfits : n.used + n.newSize key data ≤ n.capacity
  · rw [if_pos hfits]
    omega
  · rw [if_neg hfits]
    rw [UInt64.le_iff_toNat_le, hsum] at hfits
    omega

/-- A write over an entry respects the accounting only where it is refused, and
rightly: the check takes the header off as well. -/
theorem respects_overwrite_iff (h : Accounted .dataLength n) (hopen : n.isOpen = true)
    {key : GoString} {old : NvmEntry} (hl : n.storage.lookup key = some old) (data : Payload) :
    Respects .dataLength n (.write key data) ↔
      let total := n.used.toNat - (old.bytes.length - 4) + data.bytes.length
      n.capacity.toNat < total ∧
        (total < 4 ∨ n.capacity.toNat + 4 < total ∧ total < 2 ^ 64 + 4) := by
  have hsum := toNat_add_newSize_of_some hl data
  have htotal := KeyedMap.total_insert_of_some Measure.dataLength.charge
    (m := n.storage) (a := entryOf key data) hl
  have hcharge : Measure.dataLength.charge (entryOf key data) = data.bytes.length := by
    rw [Measure.charge, length_entryOf, Nat.add_sub_cancel]
  have hold : Measure.dataLength.charge old = old.bytes.length - 4 := rfl
  have hstored := KeyedMap.le_total Measure.dataLength.charge
    (KeyedMap.lookup_eq_some_iff.mp hl).1
  have hexact := h.exact
  have hwithin := UInt64.le_iff_toNat_le.mp h.within
  have hcapacity := n.capacity.toNat_lt
  have hlt := data.representable
  have hheader := old.header
  have hbound := old.representable
  rw [hcharge, hold, ← hexact] at htotal
  rw [hold, ← hexact] at hstored
  rw [respects_write_iff h hopen]
  by_cases hfits : n.used + n.newSize key data ≤ n.capacity
  · rw [if_pos hfits]
    rw [UInt64.le_iff_toNat_le, hsum] at hfits
    rw [hsum]
    dsimp only
    omega
  · rw [if_neg hfits]
    rw [UInt64.le_iff_toNat_le, hsum] at hfits
    dsimp only
    omega

/-- An operation respects the accounting by data length exactly when it does no harm. -/
theorem respects_iff_harmless (h : Accounted .dataLength n) (op : NvmOp) :
    Respects .dataLength n op ↔ Harmless n op := by
  cases op with
  | openDevice =>
    have hkeep : Accounted .dataLength n.openDevice.1 := by
      unfold NVM.openDevice
      split
      · exact h
      · exact ⟨h.exact, h.within⟩
    exact iff_of_true ⟨hkeep, trivial⟩ trivial
  | close =>
    have hkeep : Accounted .dataLength n.close.1 := by
      unfold NVM.close
      split
      · exact h
      · exact ⟨h.exact, h.within⟩
    exact iff_of_true ⟨hkeep, trivial⟩ trivial
  | delete key =>
    have hdelete := accounted_delete_iff h key
    exact ⟨fun hr => hdelete.mp hr.1, fun hh => ⟨hdelete.mpr hh, trivial⟩⟩
  | write key data =>
    cases hopen : n.isOpen with
    | false =>
      have hsame : (n.write key data).1 = n := by simp [NVM.write, hopen]
      have hkeep : Accounted .dataLength ((NvmOp.write key data).apply n) := by
        rw [NvmOp.apply, hsame]
        exact h
      exact iff_of_true ⟨hkeep, by simp [hopen]⟩ (by simp [Harmless, hopen])
    | true =>
      unfold Harmless
      simp only [hopen, forall_const]
      cases hl : n.storage.lookup key with
      | none => exact respects_insert_iff h hopen hl data
      | some old => exact respects_overwrite_iff h hopen hl data

/-- Charged with their headers, no entries can be stored at all: an empty device
that respects that stays empty. -/
theorem respects_entryLength (h : Accounted .entryLength n) (hempty : n.storage = .empty)
    {op : NvmOp} (hrespects : Respects .entryLength n op) :
    Harmless n op ∧ (op.apply n).storage = .empty := by
  have hlookup : ∀ key, n.storage.lookup key = none := by
    intro key
    rw [hempty]
    rfl
  cases op with
  | openDevice =>
    refine ⟨trivial, ?_⟩
    rw [NvmOp.apply, NVM.openDevice]
    split <;> exact hempty
  | close =>
    refine ⟨trivial, ?_⟩
    rw [NvmOp.apply, NVM.close]
    split <;> exact hempty
  | delete key =>
    refine ⟨fun _ => hlookup key, ?_⟩
    rw [NvmOp.apply, NVM.delete, hlookup key]
    split <;> exact hempty
  | write key data =>
    cases hopen : n.isOpen with
    | false =>
      refine ⟨by simp [Harmless, hopen], ?_⟩
      rw [NvmOp.apply, NVM.write, hopen]
      exact hempty
    | true =>
      have hused : n.used.toNat = 0 := by
        rw [h.exact, hempty]
        rfl
      have hsum := toNat_add_newSize_of_none (hlookup key) data
      have htotal := KeyedMap.total_insert_of_none Measure.entryLength.charge
        (m := n.storage) (a := entryOf key data) (hlookup key)
      have hcharge : Measure.entryLength.charge (entryOf key data) = data.bytes.length + 4 :=
        length_entryOf key data
      have hlt := data.representable
      have hwrite := (respects_write_iff h hopen key data).mp hrespects
      rw [htotal, hcharge, hsum, ← h.exact] at hwrite
      have hrefused : ¬n.used + n.newSize key data ≤ n.capacity := by
        intro hfits
        rw [if_pos hfits] at hwrite
        omega
      have hfull : n.used + n.newSize key data > n.capacity := UInt64.not_le.mp hrefused
      refine ⟨?_, ?_⟩
      · simp only [Harmless, hopen, hlookup key, forall_const]
        omega
      · rw [NvmOp.apply, NVM.write, if_neg (by simp [hopen]), if_pos hfull]
        exact hempty

end steps

section runs

/-- The accounting is kept and respected throughout a run. -/
def BooksKept (m : Measure) (n : NVM) (ops : List NvmOp) : Prop :=
  (∀ first, first <+: ops → Accounted m (run NvmOp.apply n first)) ∧
    Along NvmOp.apply (Respects m) n ops

theorem accounted_new (m : Measure) (capacity : UInt64) : Accounted m (NVM.new capacity) :=
  ⟨rfl, UInt64.zero_le⟩

theorem booksKept_iff {m : Measure} {n : NVM} (h : Accounted m n) (ops : List NvmOp) :
    BooksKept m n ops ↔ Along NvmOp.apply (Respects m) n ops := by
  refine ⟨fun hkept => hkept.2, fun hrespects => ⟨fun first hfirst => ?_, hrespects⟩⟩
  exact (hrespects.of_isPrefix hfirst).invariant (fun _ _ _ hr => hr.1) h

/-- Along a run from a new device there is a measure by which the counter is
exact, within the capacity and decisive for every write, if and only if every
operation is harmless. -/
theorem booksKept_along (capacity : UInt64) (ops : List NvmOp) :
    (∃ m, BooksKept m (NVM.new capacity) ops) ↔
      Along NvmOp.apply Harmless (NVM.new capacity) ops := by
  have hsame : ∀ n op, Accounted .dataLength n → True →
      (Respects .dataLength n op ↔ Harmless n op) :=
    fun _ op hn _ => respects_iff_harmless hn op
  have hiff : Along NvmOp.apply (Respects .dataLength) (NVM.new capacity) ops ↔
      Along NvmOp.apply Harmless (NVM.new capacity) ops :=
    along_iff_along hsame (fun _ _ _ _ hr => hr.1) (along_true ops) (accounted_new _ _)
  constructor
  · intro ⟨m, hkept⟩
    cases m with
    | dataLength => exact hiff.mp hkept.2
    | entryLength =>
      have hharmless : ∀ n op, Accounted .entryLength n ∧ n.storage = .empty →
          Respects .entryLength n op → Harmless n op :=
        fun n op hn hr => (respects_entryLength hn.1 hn.2 hr).1
      have hempty : ∀ n op, Accounted .entryLength n ∧ n.storage = .empty →
          Respects .entryLength n op →
            Accounted .entryLength (NvmOp.apply n op) ∧ (NvmOp.apply n op).storage = .empty :=
        fun n op hn hr => ⟨hr.1, (respects_entryLength hn.1 hn.2 hr).2⟩
      exact hkept.2.mono_of_invariant hharmless hempty ⟨accounted_new _ _, rfl⟩
  · intro hharmless
    exact ⟨.dataLength, (booksKept_iff (accounted_new _ _) ops).mpr (hiff.mpr hharmless)⟩

/-- Written twice, then deleted: the counter has lost eight bytes and wraps. -/
def rewriteAndDelete : List NvmOp :=
  [.openDevice, .write (ascii "tle") (Payload.zeros ⟨4, by omega⟩),
    .write (ascii "tle") (Payload.zeros ⟨4, by omega⟩), .delete (ascii "tle")]

/-- A device of 1000 bytes then holds nothing and counts 2^64 - 8 bytes, which
no measure explains. -/
theorem used_wraps :
    (run NvmOp.apply (NVM.new 1000) rewriteAndDelete).storage.values = [] ∧
      (run NvmOp.apply (NVM.new 1000) rewriteAndDelete).used.toNat = 2 ^ 64 - 8 ∧
      ¬∃ m, BooksKept m (NVM.new 1000) rewriteAndDelete := by
  have hvalues : (run NvmOp.apply (NVM.new 1000) rewriteAndDelete).storage.values = [] := by
    decide
  have hused : (run NvmOp.apply (NVM.new 1000) rewriteAndDelete).used.toNat = 2 ^ 64 - 8 := by
    decide
  refine ⟨hvalues, hused, ?_⟩
  intro ⟨m, hkept⟩
  have hexact := (hkept.1 rewriteAndDelete List.prefix_rfl).exact
  rw [hused, KeyedMap.total, hvalues] at hexact
  cases hexact

end runs

end CislunarDtn.NvmStorage
