import CislunarDtn.CheckRegisters
import CislunarDtn.NvmStorage
import CislunarDtn.WordBytes

/-!
# Reading the non-volatile memory

What was written is read back behind its checksum. Between the calls the cells
of the flash may lose bits. The device is compared with a shelf on which each
key has the data of its last write and the bits that were flipped in the entry
since. Whether a damaged entry passes the check depends on the flipped bits
alone, and a burst of them within 32 bits of the data never passes.
-/

namespace CislunarDtn.NvmStorage

open KeyedMaps Bundles LabelledRuns WordBytes
open CheckRegisters (feed feedBit shift)

/-- A word in eight hexadecimal digits, as the verb %08x prints it. -/
def hex8 (w : UInt32) : GoString :=
  ascii (String.ofList ((List.range 8).map fun i => Nat.digitChar (w.toNat / 16 ^ (7 - i) % 16)))

example : hex8 0xCBF43926 = ascii "cbf43926" := by decide +kernel

/-- The word in the first four bytes, lowest first. -/
def uint32 (bytes : List UInt8) : UInt32 :=
  (bytes.getD 0 0).toUInt32 ||| (bytes.getD 1 0).toUInt32 <<< 8 |||
    (bytes.getD 2 0).toUInt32 <<< 16 ||| (bytes.getD 3 0).toUInt32 <<< 24

/-- Whether an entry fails its check. -/
def NvmEntry.isCorrupted (entry : NvmEntry) : Bool :=
  if entry.bytes.length < 4 then true
  else uint32 (entry.bytes.take 4) != checksumIEEE (entry.bytes.drop 4)

/-- The error for a checksum that does not match. -/
def crcMismatch (storedCRC computedCRC : UInt32) : GoError :=
  .errorf (ascii "CRC mismatch: stored=0x" ++ hex8 storedCRC ++ ascii " computed=0x" ++
    hex8 computedCRC)

namespace NVM

/-- Read the data under a key. -/
def read (n : NVM) (key : GoString) : Except GoError (List UInt8) :=
  if n.isOpen = false then .error (.errorf (ascii "NVM not open"))
  else
    match n.storage.lookup key with
    | none => .error (.errorf (ascii "key not found: " ++ key))
    | some entry =>
      if entry.bytes.length < 4 then .error (.errorf (ascii "corrupted entry: too short"))
      else
        let storedCRC := uint32 (entry.bytes.take 4)
        let data := entry.bytes.drop 4
        let computedCRC := checksumIEEE data
        if storedCRC ≠ computedCRC then .error (crcMismatch storedCRC computedCRC)
        else .ok data

/-- All keys, in the order in which the map is visited. -/
def list (n : NVM) (order : IterationOrder NvmEntry) : Except GoError (List GoString) :=
  if n.isOpen = false then .error (.errorf (ascii "NVM not open"))
  else .ok ((order.arrange n.storage.values).map NvmEntry.key)

/-- The keys of the entries that fail their check. -/
def validate (n : NVM) (order : IterationOrder NvmEntry) : Except GoError (List GoString) :=
  if n.isOpen = false then .error (.errorf (ascii "NVM not open"))
  else .ok (((order.arrange n.storage.values).filter NvmEntry.isCorrupted).map NvmEntry.key)

end NVM

/-- Bytes with bits flipped. -/
def flip (flips : ℕ → UInt8) (bytes : List UInt8) : List UInt8 :=
  bytes.mapIdx fun i b => b ^^^ flips i

/-- An entry with bits flipped. -/
def NvmEntry.damaged (entry : NvmEntry) (flips : ℕ → UInt8) : NvmEntry where
  key := entry.key
  bytes := flip flips entry.bytes
  header := by simpa [flip] using entry.header
  representable := by simpa [flip] using entry.representable

/-- The device after bits of an entry were flipped in the flash. -/
def NVM.damage (n : NVM) (key : GoString) (flips : ℕ → UInt8) : NVM :=
  match n.storage.lookup key with
  | none => n
  | some entry => { n with storage := n.storage.insert (entry.damaged flips) }

/-- What happens to the device. -/
inductive FlashOp where
  /-- A call. -/
  | call (op : NvmOp)
  /-- Bits of an entry are flipped. -/
  | damage (key : GoString) (flips : ℕ → UInt8)

/-- The error that a call returns. -/
def NvmOp.outcome (n : NVM) : NvmOp → Option GoError
  | .openDevice => n.openDevice.2
  | .close => n.close.2
  | .write key data => (n.write key data).2
  | .delete key => (n.delete key).2

/-- What is on the shelf under a key. -/
structure Kept where
  /-- The data of the last write. -/
  data : Payload
  /-- The bits flipped since, by the bytes of the entry. -/
  flips : ℕ → UInt8

/-- What the device is for: data under keys. -/
structure Shelf where
  /-- Whether it is open. -/
  isOpen : Bool
  /-- What is kept. -/
  kept : GoString → Option Kept

namespace Shelf

/-- A new shelf. -/
def new : Shelf := ⟨false, fun _ => none⟩

/-- The shelf after a call that succeeded. -/
def act (s : Shelf) : NvmOp → Shelf
  | .openDevice => { s with isOpen := true }
  | .close => { s with isOpen := false }
  | .write key data =>
    { s with kept := Function.update s.kept key (some ⟨data, fun _ => 0⟩) }
  | .delete key => { s with kept := Function.update s.kept key none }

/-- The shelf after bits were flipped. -/
def damage (s : Shelf) (key : GoString) (flips : ℕ → UInt8) : Shelf :=
  let kept := (s.kept key).map fun k => { k with flips := fun i => k.flips i ^^^ flips i }
  { s with kept := Function.update s.kept key kept }

end Shelf

/-- The device and the shelf that sees which calls succeed. -/
structure Service where
  /-- The device. -/
  device : NVM
  /-- The shelf. -/
  shelf : Shelf

/-- The device and the shelf after what happens. -/
def Service.step (v : Service) : FlashOp → Service
  | .call op =>
    { device := op.apply v.device
      shelf := if op.outcome v.device = none then v.shelf.act op else v.shelf }
  | .damage key flips => ⟨v.device.damage key flips, v.shelf.damage key flips⟩

/-- A new device and a new shelf. -/
def Service.new (capacity : UInt64) : Service := ⟨.new capacity, .new⟩

/-- What flipped bits leave in a register of zeros. -/
def residue (flips : ℕ → UInt8) (length : ℕ) : UInt32 :=
  ((List.range length).map flips).foldl crcByte 0

namespace Kept

/-- The bits flipped in the data. -/
def dataFlips (k : Kept) : ℕ → UInt8 := fun i => k.flips (i + 4)

/-- The bits flipped in the checksum. -/
def headerFlips (k : Kept) : UInt32 := uint32 ((List.range 4).map k.flips)

/-- What the bits flipped in the data do to its checksum. -/
def dataResidue (k : Kept) : UInt32 := residue k.dataFlips k.data.bytes.length

/-- What is read of it. -/
def reading (k : Kept) : Except GoError (List UInt8) :=
  if k.headerFlips = k.dataResidue then .ok (flip k.dataFlips k.data.bytes)
  else
    .error (crcMismatch (checksumIEEE k.data.bytes ^^^ k.headerFlips)
      (checksumIEEE k.data.bytes ^^^ k.dataResidue))

/-- Whether a bit of the entry is flipped. -/
def bit (k : Kept) (j : ℕ) : Bool := (k.flips (j / 8)).toBitVec.getLsbD (j % 8)

/-- How many bits the entry has. -/
def bits (k : Kept) : ℕ := 8 * (4 + k.data.bytes.length)

/-- Nothing is flipped. -/
def Intact (k : Kept) : Prop := ∀ j < k.bits, k.bit j = false

/-- Something is flipped: bits of the checksum alone, or bits of the data alone
that lie within 32 bits. -/
structure Burst (k : Kept) : Prop where
  /-- Something is flipped. -/
  flipped : ∃ j < k.bits, k.bit j = true
  /-- It is flipped in one of the two places. -/
  within : (∀ j < k.bits, k.bit j = true → j < 32) ∨
    ∃ first ≥ 32, ∀ j < k.bits, k.bit j = true → first ≤ j ∧ j < first + 32

end Kept

/-- What is read from the shelf. -/
def Shelf.read (s : Shelf) (key : GoString) : Except GoError (List UInt8) :=
  if s.isOpen = false then .error (.errorf (ascii "NVM not open"))
  else
    match s.kept key with
    | none => .error (.errorf (ascii "key not found: " ++ key))
    | some k => k.reading

section registers

/-- The polynomial of the checksum. -/
abbrev polynomial : BitVec 32 := 0xEDB88320#32

/-- A bit of the bytes, lowest first. -/
def bitAt (bytes : List UInt8) (j : ℕ) : Bool := (bytes.getD (j / 8) 0).toBitVec.getLsbD (j % 8)

/-- The bits of the bytes. -/
def bitsOf (bytes : List UInt8) : List Bool := (List.range (8 * bytes.length)).map (bitAt bytes)

theorem crcShift_toBitVec (c : UInt32) : (crcShift c).toBitVec = shift polynomial c.toBitVec := by
  have hlow : c &&& 1 = 1 ↔ c.toBitVec.getLsbD 0 = true := by
    rw [← UInt32.toBitVec_inj, UInt32.toBitVec_and]
    have hone : c.toBitVec &&& 1#32 = (BitVec.ofBool (c.toBitVec.getLsbD 0)).setWidth 32 :=
      BitVec.and_one_eq_setWidth_ofBool_getLsbD
    have hlit : (1 : UInt32).toBitVec = 1#32 := rfl
    rw [hlit, hone]
    cases c.toBitVec.getLsbD 0 <;> decide
  rw [crcShift, shift]
  by_cases hc : c &&& 1 = 1
  · rw [if_pos hc, if_pos (hlow.mp hc)]
    rfl
  · rw [if_neg hc, if_neg fun h => hc (hlow.mpr h)]
    rfl

theorem getD_bitsOf (bytes : List UInt8) (j : ℕ) :
    (bitsOf bytes).getD j false = bitAt bytes j := by
  by_cases hj : j < 8 * bytes.length
  · simp [bitsOf, List.getD_eq_getElem?_getD, hj]
  · have hbeyond : bytes.length ≤ j / 8 := by omega
    rw [bitAt, List.getD_eq_default _ _ hbeyond,
      List.getD_eq_default _ _ (by simp [bitsOf]; omega)]
    simp

theorem bitsOf_cons (b : UInt8) (bytes : List UInt8) :
    bitsOf (b :: bytes) = bitsOf [b] ++ bitsOf bytes := by
  have hcount : 8 * (b :: bytes).length = 8 + 8 * bytes.length := by
    rw [List.length_cons]
    omega
  have hhead : ∀ j < 8, bitAt (b :: bytes) j = bitAt [b] j := by
    intro j hj
    have hfirst : j / 8 = 0 := by omega
    simp [bitAt, hfirst]
  have htail : ∀ j, bitAt (b :: bytes) (8 + j) = bitAt bytes j := by
    intro j
    have hquotient : (8 + j) / 8 = j / 8 + 1 := by omega
    have hremainder : (8 + j) % 8 = j % 8 := by omega
    simp [bitAt, hquotient, hremainder]
  rw [bitsOf, hcount, List.range_add, List.map_append, List.map_map]
  refine congr_arg₂ _ (List.map_congr_left fun j hj => ?_) (List.map_congr_left fun j _ => htail j)
  exact hhead j (List.mem_range.mp hj)

theorem crcByte_toBitVec (c : UInt32) (b : UInt8) :
    (crcByte c b).toBitVec = feed polynomial c.toBitVec (bitsOf [b]) := by
  have hlen : (bitsOf [b]).length ≤ 32 := by simp [bitsOf]
  have hword : CheckRegisters.word 32 (bitsOf [b]) = b.toUInt32.toBitVec := by
    refine BitVec.eq_of_getLsbD_eq fun i hi => ?_
    rw [CheckRegisters.getLsbD_word _ hi, getD_bitsOf, UInt8.toBitVec_toUInt32,
      BitVec.getLsbD_setWidth]
    by_cases hbyte : i < 8
    · have hquotient : i / 8 = 0 := by omega
      have hremainder : i % 8 = i := by omega
      simp [bitAt, hquotient, hremainder, hi]
    · have hbeyond : [b].length ≤ i / 8 := by simp; omega
      have hzero : b.toBitVec.getLsbD i = false := BitVec.getLsbD_of_ge _ _ (by omega)
      rw [bitAt, List.getD_eq_default _ _ hbeyond, hzero]
      simp
  have hzeros : ∀ (l : List ℕ) (c : UInt32), (l.foldl (fun crc _ => crcShift crc) c).toBitVec =
      feed polynomial c.toBitVec (List.replicate l.length false) := by
    intro l
    induction l with
    | nil => exact fun _ => rfl
    | cons i l ih =>
      intro c
      have hbit : feedBit polynomial c.toBitVec false = (crcShift c).toBitVec := by
        rw [crcShift_toBitVec, feedBit]
        simp
      rw [List.foldl_cons, ih, List.length_cons, List.replicate_succ, CheckRegisters.feed_cons,
        hbit]
  rw [crcByte, hzeros, CheckRegisters.feed_eq_feed_replicate polynomial hlen, hword]
  rfl

theorem foldl_crcByte_toBitVec (bytes : List UInt8) (c : UInt32) :
    (bytes.foldl crcByte c).toBitVec = feed polynomial c.toBitVec (bitsOf bytes) := by
  induction bytes generalizing c with
  | nil => rfl
  | cons b bytes ih =>
    rw [List.foldl_cons, ih, bitsOf_cons, CheckRegisters.feed_append, crcByte_toBitVec]

theorem bitAt_flip (flips : ℕ → UInt8) {bytes : List UInt8} {j : ℕ} (hj : j < 8 * bytes.length) :
    bitAt (flip flips bytes) j =
      (bitAt bytes j ^^ (flips (j / 8)).toBitVec.getLsbD (j % 8)) := by
  have hplace : j / 8 < bytes.length := by omega
  simp [bitAt, flip, List.getD_eq_getElem?_getD, hplace]

theorem bitAt_map_range (flips : ℕ → UInt8) {length j : ℕ} (hj : j < 8 * length) :
    bitAt ((List.range length).map flips) j = (flips (j / 8)).toBitVec.getLsbD (j % 8) := by
  have hplace : j / 8 < length := by omega
  simp [bitAt, List.getD_eq_getElem?_getD, hplace]

theorem difference_bitsOf_flip (flips : ℕ → UInt8) (bytes : List UInt8) :
    CheckRegisters.difference (bitsOf (flip flips bytes)) (bitsOf bytes) =
      bitsOf ((List.range bytes.length).map flips) := by
  refine List.ext_getElem (by simp [CheckRegisters.difference, bitsOf, flip]) fun j h1 h2 => ?_
  have hj : j < 8 * bytes.length := by simpa [bitsOf] using h2
  have hflip := bitAt_flip flips hj
  have hbits := bitAt_map_range flips hj
  simp only [CheckRegisters.difference, bitsOf, List.getElem_zipWith, List.getElem_map,
    List.getElem_range, hflip, hbits]
  cases bitAt bytes j <;> simp

theorem xor_mask (a b mask : BitVec 32) : a ^^^ mask = b ^^^ mask ^^^ (a ^^^ b) := by
  refine BitVec.eq_of_getLsbD_eq fun i _ => ?_
  simp only [BitVec.getLsbD_xor]
  cases a.getLsbD i <;> cases b.getLsbD i <;> cases mask.getLsbD i <;> rfl

/-- What flipped bits do to the checksum depends on them alone. -/
theorem checksumIEEE_flip (flips : ℕ → UInt8) (bytes : List UInt8) :
    checksumIEEE (flip flips bytes) = checksumIEEE bytes ^^^ residue flips bytes.length := by
  have hlen : (bitsOf (flip flips bytes)).length = (bitsOf bytes).length := by
    simp [bitsOf, flip]
  have hfeed := CheckRegisters.feed_xor polynomial (0xFFFFFFFF : UInt32).toBitVec
    (0xFFFFFFFF : UInt32).toBitVec hlen
  have hresidue : (residue flips bytes.length).toBitVec =
      feed polynomial 0#32 (bitsOf ((List.range bytes.length).map flips)) :=
    foldl_crcByte_toBitVec _ 0
  rw [BitVec.xor_self, difference_bitsOf_flip, ← hresidue, ← foldl_crcByte_toBitVec,
    ← foldl_crcByte_toBitVec] at hfeed
  rw [checksumIEEE, checksumIEEE, ← UInt32.toBitVec_inj]
  simp only [UInt32.toBitVec_xor]
  rw [← hfeed]
  exact xor_mask _ _ _

theorem uint32_toBitVec (bytes : List UInt8) : (uint32 bytes).toBitVec = leWord 32 4 bytes := by
  simp only [uint32, leWord, assemble, UInt32.toBitVec_or, UInt32.toBitVec_shiftLeft,
    UInt8.toBitVec_toUInt32]
  simp

theorem getLsbD_uint32 (bytes : List UInt8) {j : ℕ} (hj : j < 32) :
    (uint32 bytes).toBitVec.getLsbD j = bitAt bytes j := by
  rw [uint32_toBitVec, leWord, getLsbD_assemble _ _ hj, bitAt]
  simp [show j < 8 * 4 by omega]

/-- The word that was written is read. -/
theorem uint32_littleEndian (c : UInt32) : uint32 (littleEndian c) = c := by
  refine UInt32.toBitVec_inj.mp (BitVec.eq_of_getLsbD_eq fun j hj => ?_)
  rw [getLsbD_uint32 _ hj, bitAt]
  have hbyte : ((littleEndian c).getD (j / 8) 0).toBitVec =
      (c.toBitVec >>> (8 * (j / 8))).setWidth 8 := by
    have hplace : j / 8 = 0 ∨ j / 8 = 1 ∨ j / 8 = 2 ∨ j / 8 = 3 := by omega
    rcases hplace with hi | hi | hi | hi <;> rw [hi] <;> rfl
  have hbit : 8 * (j / 8) + j % 8 = j := by omega
  rw [hbyte, BitVec.getLsbD_setWidth, BitVec.getLsbD_ushiftRight, hbit]
  simp [show j % 8 < 8 by omega]

end registers

section damage

theorem flip_zero (bytes : List UInt8) : flip (fun _ => 0) bytes = bytes := by
  refine List.ext_getElem (by simp [flip]) fun i _ _ => by simp [flip]

theorem flip_flip (flips flips' : ℕ → UInt8) (bytes : List UInt8) :
    flip flips' (flip flips bytes) = flip (fun i => flips i ^^^ flips' i) bytes := by
  refine List.ext_getElem (by simp [flip]) fun i _ _ => ?_
  simp [flip, UInt8.xor_assoc]

theorem uint32_flip (flips : ℕ → UInt8) {bytes : List UInt8} (h : bytes.length = 4) :
    uint32 (flip flips bytes) = uint32 bytes ^^^ uint32 ((List.range 4).map flips) := by
  refine UInt32.toBitVec_inj.mp (BitVec.eq_of_getLsbD_eq fun j hj => ?_)
  rw [UInt32.toBitVec_xor, BitVec.getLsbD_xor, getLsbD_uint32 _ hj, getLsbD_uint32 _ hj,
    getLsbD_uint32 _ hj, bitAt_flip flips (by omega), bitAt_map_range flips (by omega)]

/-- The entry of what is kept under a key. -/
def Kept.entry (key : GoString) (k : Kept) : NvmEntry := (entryOf key k.data).damaged k.flips

theorem take_entry (key : GoString) (k : Kept) :
    uint32 ((k.entry key).bytes.take 4) = checksumIEEE k.data.bytes ^^^ k.headerFlips := by
  have htake : (k.entry key).bytes.take 4 =
      flip k.flips (littleEndian (checksumIEEE k.data.bytes)) := by
    refine List.ext_getElem ?_ fun i h1 h2 => ?_
    · simp [Kept.entry, NvmEntry.damaged, entryOf, flip, littleEndian]
    · have hi : i < (littleEndian (checksumIEEE k.data.bytes)).length := by
        simpa [flip] using h2
      simp [Kept.entry, NvmEntry.damaged, entryOf, flip, List.getElem_append_left hi]
  rw [htake, uint32_flip _ rfl, uint32_littleEndian, Kept.headerFlips]

theorem drop_entry (key : GoString) (k : Kept) :
    (k.entry key).bytes.drop 4 = flip k.dataFlips k.data.bytes := by
  refine List.ext_getElem ?_ fun i h1 h2 => ?_
  · simp [Kept.entry, NvmEntry.damaged, entryOf, flip, littleEndian]
  · have hdata : i < k.data.bytes.length := by simpa [flip] using h2
    have hbound :
        4 + i < (littleEndian (checksumIEEE k.data.bytes) ++ k.data.bytes).length := by
      simp [littleEndian]
      omega
    have hget :
        (littleEndian (checksumIEEE k.data.bytes) ++ k.data.bytes)[4 + i] = k.data.bytes[i] := by
      rw [List.getElem_append_right (by simp [littleEndian])]
      simp [littleEndian]
    have hflip : k.flips (4 + i) = k.dataFlips i := by rw [Kept.dataFlips, Nat.add_comm]
    simp only [Kept.entry, NvmEntry.damaged, entryOf, flip, List.getElem_drop, List.getElem_mapIdx,
      hget, hflip]

theorem isCorrupted_entry (key : GoString) (k : Kept) :
    (k.entry key).isCorrupted = true ↔ k.headerFlips ≠ k.dataResidue := by
  have hheader : ¬(k.entry key).bytes.length < 4 := Nat.not_lt.mpr (k.entry key).header
  rw [NvmEntry.isCorrupted, if_neg hheader, take_entry, drop_entry, checksumIEEE_flip, bne_iff_ne,
    Kept.dataResidue, Ne, UInt32.xor_right_inj]

end damage

/-- The device and the shelf agree. -/
structure Service.Agrees (v : Service) : Prop where
  /-- Both are open or both are closed. -/
  isOpen : v.device.isOpen = v.shelf.isOpen
  /-- The entries are those of what is kept. -/
  entries : ∀ key, v.device.storage.lookup key = (v.shelf.kept key).map (Kept.entry key)

section agreement

variable {v : Service}

theorem step_refused (op : NvmOp) (hsame : op.apply v.device = v.device)
    (hrefused : op.outcome v.device ≠ none) : v.step (.call op) = v := by
  rw [Service.step, if_neg hrefused, hsame]

theorem step_done (op : NvmOp) (hnil : op.outcome v.device = none) :
    v.step (.call op) = ⟨op.apply v.device, v.shelf.act op⟩ := by
  rw [Service.step, if_pos hnil]

theorem agrees_write (h : v.Agrees) (key : GoString) (data : Payload) :
    (v.step (.call (.write key data))).Agrees := by
  have hwrite : (v.device.write key data).1 = v.device ∧ (v.device.write key data).2 ≠ none ∨
      (v.device.write key data).1.isOpen = v.device.isOpen ∧
        (v.device.write key data).1.storage = v.device.storage.insert (entryOf key data) ∧
        (v.device.write key data).2 = none := by
    unfold NVM.write
    split
    · exact .inl ⟨rfl, by simp⟩
    · split
      · exact .inl ⟨rfl, by simp⟩
      · exact .inr ⟨rfl, rfl, rfl⟩
  obtain ⟨hsame, hrefused⟩ | ⟨hopen, hstorage, hnil⟩ := hwrite
  · rw [step_refused (.write key data) hsame hrefused]
    exact h
  · have hentry : (⟨data, fun _ => 0⟩ : Kept).entry key = entryOf key data := by
      simp only [Kept.entry, NvmEntry.damaged, flip_zero]
    have hkey : (entryOf key data).key = key := rfl
    rw [step_done (.write key data) hnil]
    refine ⟨hopen.trans h.isOpen, fun k => ?_⟩
    simp only [NvmOp.apply, Shelf.act]
    rw [hstorage, KeyedMap.lookup_insert, hkey, Function.update_apply, Function.update_apply]
    by_cases hk : k = key
    · rw [if_pos hk, if_pos hk, Option.map_some, hk, hentry]
    · rw [if_neg hk, if_neg hk, h.entries]

theorem agrees_delete (h : v.Agrees) (key : GoString) :
    (v.step (.call (.delete key))).Agrees := by
  have hdelete : (v.device.delete key).1 = v.device ∧ (v.device.delete key).2 ≠ none ∨
      (v.device.delete key).1.isOpen = v.device.isOpen ∧
        (v.device.delete key).1.storage = v.device.storage.erase key ∧
        (v.device.delete key).2 = none := by
    unfold NVM.delete
    split
    · exact .inl ⟨rfl, by simp⟩
    · split
      · exact .inl ⟨rfl, by simp⟩
      · exact .inr ⟨rfl, rfl, rfl⟩
  obtain ⟨hsame, hrefused⟩ | ⟨hopen, hstorage, hnil⟩ := hdelete
  · rw [step_refused (.delete key) hsame hrefused]
    exact h
  · rw [step_done (.delete key) hnil]
    refine ⟨hopen.trans h.isOpen, fun k => ?_⟩
    simp only [NvmOp.apply, Shelf.act]
    rw [hstorage, KeyedMap.lookup_erase, Function.update_apply, Function.update_apply]
    by_cases hk : k = key
    · rw [if_pos hk, if_pos hk, Option.map_none]
    · rw [if_neg hk, if_neg hk, h.entries]

theorem agrees_call (h : v.Agrees) (op : NvmOp) : (v.step (.call op)).Agrees := by
  cases op with
  | openDevice =>
    refine ⟨?_, fun key => ?_⟩
    · cases hopen : v.device.isOpen <;>
        simp [Service.step, NvmOp.apply, NvmOp.outcome, NVM.openDevice, Shelf.act, hopen,
          ← h.isOpen]
    · cases hopen : v.device.isOpen <;>
        simp [Service.step, NvmOp.apply, NvmOp.outcome, NVM.openDevice, Shelf.act, hopen, h.entries]
  | close =>
    refine ⟨?_, fun key => ?_⟩
    · cases hopen : v.device.isOpen <;>
        simp [Service.step, NvmOp.apply, NvmOp.outcome, NVM.close, Shelf.act, hopen, ← h.isOpen]
    · cases hopen : v.device.isOpen <;>
        simp [Service.step, NvmOp.apply, NvmOp.outcome, NVM.close, Shelf.act, hopen, h.entries]
  | write key data => exact agrees_write h key data
  | delete key => exact agrees_delete h key

theorem agrees_damage (h : v.Agrees) (key : GoString) (flips : ℕ → UInt8) :
    (v.step (.damage key flips)).Agrees := by
  have hentry := h.entries key
  cases hk : v.shelf.kept key with
  | none =>
    rw [hk] at hentry
    have hdevice : v.device.damage key flips = v.device := by
      rw [NVM.damage, hentry]
      rfl
    refine ⟨by rw [Service.step, hdevice]; exact h.isOpen, fun k => ?_⟩
    simp only [Service.step, hdevice, Shelf.damage, hk, Function.update_apply]
    by_cases hkey : k = key
    · rw [if_pos hkey, hkey, hentry]
      rfl
    · rw [if_neg hkey, h.entries]
  | some kept =>
    rw [hk] at hentry
    have hdevice : v.device.damage key flips =
        { v.device with
          storage := v.device.storage.insert ((kept.entry key).damaged flips) } := by
      rw [NVM.damage, hentry]
      rfl
    refine ⟨by rw [Service.step, hdevice]; exact h.isOpen, fun k => ?_⟩
    simp only [Service.step, hdevice, Shelf.damage, hk, Function.update_apply, Option.map_some]
    rw [KeyedMap.lookup_insert, Function.update_apply]
    have hkeyed : ((kept.entry key).damaged flips).key = key := rfl
    rw [hkeyed]
    by_cases hkey : k = key
    · rw [if_pos hkey, if_pos hkey, hkey, Option.map_some]
      simp only [Kept.entry, NvmEntry.damaged, flip_flip]
    · rw [if_neg hkey, if_neg hkey, h.entries]

theorem agrees_run (capacity : UInt64) (ops : List FlashOp) :
    (run Service.step (.new capacity) ops).Agrees := by
  have hnew : (Service.new capacity).Agrees := ⟨rfl, fun _ => rfl⟩
  refine run_invariant (fun v op h => ?_) hnew ops
  cases op with
  | call op => exact agrees_call h op
  | damage key flips => exact agrees_damage h key flips

theorem read_eq (h : v.Agrees) (key : GoString) : v.device.read key = v.shelf.read key := by
  rw [NVM.read, Shelf.read, h.isOpen, h.entries]
  cases hk : v.shelf.kept key with
  | none => rfl
  | some k =>
    have hheader : ¬(k.entry key).bytes.length < 4 := Nat.not_lt.mpr (k.entry key).header
    simp only [Option.map_some, if_neg hheader, take_entry, drop_entry, checksumIEEE_flip]
    rw [Kept.reading, Kept.dataResidue]
    by_cases hsame : k.headerFlips = residue k.dataFlips k.data.bytes.length
    · rw [if_pos hsame, if_neg (not_not.mpr (by rw [hsame]))]
    · rw [if_neg hsame, if_pos fun heq => hsame ((UInt32.xor_right_inj _).mp heq)]

/-- The entries of the device are those of what is kept. -/
theorem mem_storage_iff (h : v.Agrees) {entry : NvmEntry} :
    entry ∈ v.device.storage ↔
      ∃ k, v.shelf.kept entry.key = some k ∧ k.entry entry.key = entry := by
  have hfound : entry ∈ v.device.storage ↔ v.device.storage.lookup entry.key = some entry := by
    rw [KeyedMap.lookup_eq_some_iff]
    simp
  rw [hfound, h.entries, Option.map_eq_some_iff]

theorem mem_list_iff (h : v.Agrees) (order : IterationOrder NvmEntry) (key : GoString) :
    key ∈ (order.arrange v.device.storage.values).map NvmEntry.key ↔
      (v.shelf.kept key).isSome = true := by
  rw [List.mem_map, Option.isSome_iff_exists]
  constructor
  · rintro ⟨entry, hentry, rfl⟩
    obtain ⟨k, hk, -⟩ := (mem_storage_iff h).mp (order.mem_arrange.mp hentry)
    exact ⟨k, hk⟩
  · rintro ⟨k, hk⟩
    exact ⟨k.entry key, order.mem_arrange.mpr ((mem_storage_iff h).mpr ⟨k, hk, rfl⟩), rfl⟩

theorem mem_validate_iff (h : v.Agrees) (order : IterationOrder NvmEntry) (key : GoString) :
    key ∈ ((order.arrange v.device.storage.values).filter NvmEntry.isCorrupted).map NvmEntry.key ↔
      ∃ k, v.shelf.kept key = some k ∧ k.headerFlips ≠ k.dataResidue := by
  rw [List.mem_map]
  constructor
  · rintro ⟨entry, hentry, rfl⟩
    obtain ⟨harranged, hcorrupted⟩ := List.mem_filter.mp hentry
    obtain ⟨k, hk, hsame⟩ := (mem_storage_iff h).mp (order.mem_arrange.mp harranged)
    rw [← hsame] at hcorrupted
    exact ⟨k, hk, (isCorrupted_entry _ k).mp hcorrupted⟩
  · rintro ⟨k, hk, hne⟩
    have hstored : k.entry key ∈ v.device.storage := (mem_storage_iff h).mpr ⟨k, hk, rfl⟩
    exact ⟨k.entry key, List.mem_filter.mpr
      ⟨order.mem_arrange.mpr hstored, (isCorrupted_entry key k).mpr hne⟩, rfl⟩

end agreement

section bursts

variable {k : Kept}

theorem headerFlips_eq_zero_iff : k.headerFlips = 0 ↔ ∀ j < 32, k.bit j = false := by
  have hbit : ∀ j < 32, k.headerFlips.toBitVec.getLsbD j = k.bit j := by
    intro j hj
    rw [Kept.headerFlips, getLsbD_uint32 _ hj, bitAt_map_range _ (by omega), Kept.bit]
  constructor
  · intro hzero j hj
    rw [← hbit j hj, hzero]
    simp
  · intro hall
    refine UInt32.toBitVec_inj.mp (BitVec.eq_of_getLsbD_eq fun j hj => ?_)
    rw [hbit j hj, hall j hj]
    simp

theorem bitAt_dataFlips {j : ℕ} (hj : j < 8 * k.data.bytes.length) :
    bitAt ((List.range k.data.bytes.length).map k.dataFlips) j = k.bit (32 + j) := by
  have hquotient : (32 + j) / 8 = j / 8 + 4 := by omega
  have hremainder : (32 + j) % 8 = j % 8 := by omega
  rw [bitAt_map_range _ hj, Kept.dataFlips, Kept.bit, hquotient, hremainder]

theorem dataResidue_toBitVec : k.dataResidue.toBitVec =
    feed polynomial 0#32 (bitsOf ((List.range k.data.bytes.length).map k.dataFlips)) :=
  foldl_crcByte_toBitVec _ 0

theorem dataResidue_eq_zero (h : ∀ j < k.bits, 32 ≤ j → k.bit j = false) : k.dataResidue = 0 := by
  have hzeros : bitsOf ((List.range k.data.bytes.length).map k.dataFlips) =
      List.replicate (8 * k.data.bytes.length) false := by
    refine List.ext_getElem (by simp [bitsOf]) fun j h1 h2 => ?_
    have hj : j < 8 * k.data.bytes.length := by simpa using h2
    have hbit := bitAt_dataFlips hj
    rw [h (32 + j) (by rw [Kept.bits]; omega) (by omega)] at hbit
    simp [bitsOf, hbit]
  refine UInt32.toBitVec_inj.mp ?_
  rw [dataResidue_toBitVec, hzeros, CheckRegisters.feed_replicate_false]
  rfl

/-- A burst in the data is seen in its checksum. -/
theorem dataResidue_ne_zero (hflipped : ∃ j < k.bits, k.bit j = true) {first : ℕ}
    (hfirst : 32 ≤ first)
    (hwithin : ∀ j < k.bits, k.bit j = true → first ≤ j ∧ j < first + 32) :
    k.dataResidue ≠ 0 := by
  obtain ⟨j, hj, hbit⟩ := hflipped
  have hplace := hwithin j hj hbit
  have hlen : ∀ i, i < k.bits → 32 ≤ i → i - 32 < 8 * k.data.bytes.length := by
    intro i hi hle
    rw [Kept.bits] at hi
    omega
  have hone : true ∈ bitsOf ((List.range k.data.bytes.length).map k.dataFlips) := by
    have hj' := hlen j hj (by omega)
    refine List.mem_map.mpr ⟨j - 32, List.mem_range.mpr (by simpa using hj'), ?_⟩
    rw [bitAt_dataFlips hj', show 32 + (j - 32) = j by omega, hbit]
  have hwindow : ∀ i, (bitsOf ((List.range k.data.bytes.length).map k.dataFlips)).getD i false =
      true → first - 32 ≤ i ∧ i < first - 32 + 32 := by
    intro i hi
    rw [getD_bitsOf] at hi
    by_cases hdata : i < 8 * k.data.bytes.length
    · rw [bitAt_dataFlips hdata] at hi
      have hflip := hwithin (32 + i) (by rw [Kept.bits]; omega) hi
      omega
    · have hbeyond : ((List.range k.data.bytes.length).map k.dataFlips).length ≤ i / 8 := by
        simp
        omega
      rw [bitAt, List.getD_eq_default _ _ hbeyond] at hi
      simp at hi
  intro hzero
  have hregister := dataResidue_toBitVec (k := k)
  rw [hzero] at hregister
  exact CheckRegisters.feed_window_ne_zero (by decide) hone hwindow hregister.symm

/-- A burst does not pass the check. -/
theorem Kept.Burst.ne (h : k.Burst) : k.headerFlips ≠ k.dataResidue := by
  obtain ⟨j, hj, hbit⟩ := h.flipped
  rcases h.within with hheader | ⟨first, hfirst, hdata⟩
  · have hzero : k.dataResidue = 0 := dataResidue_eq_zero fun i hi hle => by
      by_contra hflip
      have hlt := hheader i hi (by simpa using hflip)
      omega
    rw [hzero]
    intro hnone
    rw [headerFlips_eq_zero_iff.mp hnone j (hheader j hj hbit)] at hbit
    simp at hbit
  · have hzero : k.headerFlips = 0 := headerFlips_eq_zero_iff.mpr fun i hi => by
      by_contra hflip
      have hwindow := hdata i (by rw [Kept.bits]; omega) (by simpa using hflip)
      omega
    rw [hzero]
    exact (dataResidue_ne_zero h.flipped hfirst hdata).symm

theorem not_intact_of_burst (h : k.Burst) : ¬k.Intact := by
  intro hintact
  obtain ⟨j, hj, hbit⟩ := h.flipped
  rw [hintact j hj] at hbit
  simp at hbit

theorem Kept.Intact.same (h : k.Intact) : k.headerFlips = k.dataResidue := by
  have hheader : k.headerFlips = 0 := headerFlips_eq_zero_iff.mpr fun j hj =>
    h j (by rw [Kept.bits]; omega)
  have hdata : k.dataResidue = 0 := dataResidue_eq_zero fun j hj _ => h j hj
  rw [hheader, hdata]

theorem Kept.Intact.reading (h : k.Intact) : k.reading = .ok k.data.bytes := by
  have hsame : flip k.dataFlips k.data.bytes = k.data.bytes := by
    refine List.ext_getElem (by simp [flip]) fun i h1 h2 => ?_
    have hzero : k.dataFlips i = 0 := by
      refine UInt8.toBitVec_inj.mp (BitVec.eq_of_getLsbD_eq fun b hb => ?_)
      have hbit := h (8 * (i + 4) + b) (by rw [Kept.bits]; omega)
      rw [Kept.bit, show (8 * (i + 4) + b) / 8 = i + 4 by omega,
        show (8 * (i + 4) + b) % 8 = b by omega] at hbit
      rw [Kept.dataFlips, hbit]
      simp
    simp [flip, hzero]
  rw [Kept.reading, if_pos h.same, hsame]

end bursts

section service

/-- Where each entry has at most one burst of flipped bits, nothing is ever read
but what was written last, and exactly the damaged entries are reported. -/
theorem nvm_detects_bursts (capacity : UInt64) (ops : List FlashOp)
    (order : IterationOrder NvmEntry)
    (hbursts : ∀ key k, (run Service.step (.new capacity) ops).shelf.kept key = some k →
      k.Intact ∨ k.Burst) :
    let v : Service := run Service.step (.new capacity) ops
    (∀ key data, v.device.read key = .ok data ↔
        v.shelf.isOpen = true ∧ ∃ k, v.shelf.kept key = some k ∧ k.Intact ∧ k.data.bytes = data) ∧
      ∀ corrupted, v.device.validate order = .ok corrupted →
        ∀ key, key ∈ corrupted ↔ ∃ k, v.shelf.kept key = some k ∧ ¬k.Intact := by
  intro v
  have h : v.Agrees := agrees_run capacity ops
  refine ⟨fun key data => ?_, fun corrupted hvalidate key => ?_⟩
  · rw [read_eq h, Shelf.read]
    cases hopen : v.shelf.isOpen with
    | false => simp
    | true =>
      cases hk : v.shelf.kept key with
      | none => simp
      | some k =>
        rcases hbursts key k hk with hintact | hburst
        · simp [hintact.reading, hintact]
        · have hdamaged : ¬k.Intact := not_intact_of_burst hburst
          simp [Kept.reading, hburst.ne, hdamaged]
  · have hopen : ¬v.device.isOpen = false := by
      intro hclosed
      rw [NVM.validate, if_pos hclosed] at hvalidate
      cases hvalidate
    rw [NVM.validate, if_neg hopen] at hvalidate
    rw [← Except.ok.inj hvalidate, mem_validate_iff h]
    refine exists_congr fun k => and_congr_right fun hk => ?_
    rcases hbursts key k hk with hintact | hburst
    · exact iff_of_false (not_not.mpr hintact.same) (not_not.mpr hintact)
    · exact iff_of_true hburst.ne (not_intact_of_burst hburst)

/-- A bit is flipped in one of two entries: it is reported, and the other one is read. -/
theorem nvm_detects_bursts_of_two :
    let first : Payload := ⟨[1, 2], by decide⟩
    let second : Payload := ⟨[3], by decide⟩
    let flips : ℕ → UInt8 := fun i => if i = 5 then 8 else 0
    let ops : List FlashOp := [.call .openDevice, .call (.write (ascii "a") first),
      .call (.write (ascii "b") second), .damage (ascii "a") flips]
    let v := run Service.step (.new 100) ops
    (∀ key data, v.device.read key = .ok data ↔
        v.shelf.isOpen = true ∧ ∃ k, v.shelf.kept key = some k ∧ k.Intact ∧ k.data.bytes = data) ∧
      ∀ corrupted, v.device.validate (.listed _) = .ok corrupted →
        ∀ key, key ∈ corrupted ↔ ∃ k, v.shelf.kept key = some k ∧ ¬k.Intact := by
  intro first second flips ops
  have hshelf : (run Service.step (.new 100) ops).shelf.kept =
      Function.update (Function.update (Function.update Shelf.new.kept (ascii "a")
        (some ⟨first, fun _ => 0⟩)) (ascii "b") (some ⟨second, fun _ => 0⟩)) (ascii "a")
        (some ⟨first, fun i => 0 ^^^ flips i⟩) := by rfl
  refine nvm_detects_bursts 100 ops (.listed _) fun key k hk => ?_
  rw [hshelf, Function.update_apply, Function.update_apply, Function.update_apply] at hk
  split at hk
  · obtain rfl := Option.some.inj hk
    exact .inr ⟨⟨43, by decide, by decide⟩, .inr ⟨40, by decide, by decide⟩⟩
  · split at hk
    · obtain rfl := Option.some.inj hk
      exact .inl fun j _ => by simp [Kept.bit]
    · cases hk

end service

end CislunarDtn.NvmStorage
