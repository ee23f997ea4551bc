import CislunarDtn.Bundles
import CislunarDtn.WordBytes
import Mathlib.Algebra.Order.Floor.Ring
import Mathlib.Data.Rat.Floor

/-!
# The binary format of the SPI bridge

A buffer of samples is written as a count, the sample rate, the timestamp and
the samples, all little endian, and read back. The writer fills a slice of the
whole size and the reader takes slices of what it is given; a slice beyond the
end is an outcome of its own. Samples are single precision and stand as words;
rates are double precision numbers that are converted to words and back.
-/

namespace CislunarDtn.SpiBuffers

open Bundles WordBytes

/-- One sample, its components as single precision bit patterns. -/
structure IQSample where
  /-- In-phase component. -/
  i : UInt32
  /-- Quadrature component. -/
  q : UInt32
  deriving DecidableEq

/-- A buffer of samples. -/
structure IQBuffer where
  /-- Samples, oldest first. -/
  samples : List IQSample
  /-- Samples per second. -/
  sampleRate : ℚ
  /-- Unix timestamp in nanoseconds. -/
  timestamp : Int64

/-- How reading can fail. -/
inductive Failure where
  /-- An error is returned. -/
  | failed (err : GoError)
  /-- Run-time panic of a slice expression. -/
  | outOfRange (high length : ℕ)
  deriving DecidableEq

/-- The slice expression data[low:high]. -/
def slice (data : List UInt8) (low high : ℕ) : Except Failure (List UInt8) :=
  if high ≤ data.length then .ok ((data.drop low).take (high - low))
  else .error (.outOfRange high data.length)

/-- Bytes written into the slice that starts at an offset. -/
def put (data : List UInt8) (offset : ℕ) (bytes : List UInt8) : Except Failure (List UInt8) :=
  let high := offset + bytes.length
  if high ≤ data.length then .ok (data.take offset ++ bytes ++ data.drop high)
  else .error (.outOfRange high data.length)

/-- Bytes of a 32-bit word, little endian. -/
def uint32Bytes (v : UInt32) : List UInt8 :=
  (List.range 4).map fun i => (v >>> UInt32.ofNat (8 * i)).toUInt8

/-- Bytes of a 64-bit word, little endian. -/
def uint64Bytes (v : UInt64) : List UInt8 :=
  (List.range 8).map fun i => (v >>> UInt64.ofNat (8 * i)).toUInt8

/-- The 32-bit word in four bytes. -/
def uint32 (bytes : List UInt8) : UInt32 := ⟨leWord 32 4 bytes⟩

/-- The 64-bit word in eight bytes. -/
def uint64 (bytes : List UInt8) : UInt64 := ⟨leWord 64 8 bytes⟩

/-- Conversion of a word to a double precision number: the nearest one of 53
bits, the even one of two. -/
def float64OfUInt64 (v : UInt64) : ℚ :=
  let n := v.toNat
  let unit := 2 ^ (n.log2 - 52)
  let quotient := n / unit
  let remainder := n % unit
  let rounded :=
    if 2 * remainder < unit then quotient
    else if unit < 2 * remainder then quotient + 1
    else quotient + quotient % 2
  (rounded * unit : ℕ)

/-- Conversion of a double precision number to a word, towards zero. What does
not fit the word is converted as the implementation likes. -/
def uint64OfFloat64 (implementation : ℚ → UInt64) (x : ℚ) : UInt64 :=
  let n := if 0 ≤ x then ⌊x⌋ else ⌈x⌉
  if 0 ≤ n ∧ n < UInt64.size then UInt64.ofNat n.toNat else implementation x

/-- Loop over the samples to be written, from an offset on. -/
def writeSamples (data : List UInt8) (offset : ℕ) :
    List IQSample → Except Failure (List UInt8)
  | [] => .ok data
  | sample :: samples => do
    let data ← put data offset (uint32Bytes sample.i)
    let data ← put data (offset + 4) (uint32Bytes sample.q)
    writeSamples data (offset + 8) samples

/-- Binary form of a buffer. -/
def serializeIQ (implementation : ℚ → UInt64) (buffer : IQBuffer) :
    Except Failure (List UInt8) := do
  let totalSize := 20 + buffer.samples.length * 8
  let data := List.replicate totalSize 0
  let data ← put data 0 (uint32Bytes (UInt32.ofNat buffer.samples.length))
  let data ← put data 4 (uint64Bytes (uint64OfFloat64 implementation buffer.sampleRate))
  let data ← put data 12 (uint64Bytes buffer.timestamp.toUInt64)
  writeSamples data 20 buffer.samples

/-- Loop over so many samples to be read, from an offset on, behind those read. -/
def readSamples (data : List UInt8) :
    ℕ → ℕ → List IQSample → Except Failure (List IQSample)
  | 0, _, samples => .ok samples
  | left + 1, offset, samples => do
    let i ← slice data offset (offset + 4)
    let q ← slice data (offset + 4) (offset + 8)
    readSamples data left (offset + 8) (samples ++ [⟨uint32 i, uint32 q⟩])

/-- Buffer in binary data. -/
def deserializeIQ (data : List UInt8) : Except Failure IQBuffer :=
  if data.length < 20 then .error (.failed (.errorf (ascii "data too short for header")))
  else do
    let numSamples := uint32 (← slice data 0 4)
    let sampleRate := float64OfUInt64 (uint64 (← slice data 4 12))
    let timestamp := (uint64 (← slice data 12 20)).toInt64
    let expectedSize := 20 + numSamples.toNat * 8
    if data.length < expectedSize then
      .error (.failed (.errorf (ascii "data too short for samples")))
    else
      let samples ← readSamples data numSamples.toNat 20 []
      return ⟨samples, sampleRate, timestamp⟩

section words

theorem uint32_shift {i : ℕ} (hi : i < 4) :
    ((UInt32.ofNat (8 * i)).toBitVec % 32).toNat = 8 * i := by
  have hall : ∀ i < 4, ((UInt32.ofNat (8 * i)).toBitVec % 32).toNat = 8 * i := by decide
  exact hall i hi

theorem uint64_shift {i : ℕ} (hi : i < 8) :
    ((UInt64.ofNat (8 * i)).toBitVec % 64).toNat = 8 * i := by
  have hall : ∀ i < 8, ((UInt64.ofNat (8 * i)).toBitVec % 64).toNat = 8 * i := by decide
  exact hall i hi

theorem uint32Bytes_eq (v : UInt32) : uint32Bytes v = leBytes 4 v.toBitVec := by
  refine List.map_congr_left fun i hi => UInt8.toBitVec_inj.mp ?_
  have hi := List.mem_range.mp hi
  refine BitVec.eq_of_getLsbD_eq fun k hk => ?_
  rw [getLsbD_byteAt hk (by omega), UInt32.toBitVec_toUInt8, BitVec.getLsbD_setWidth,
    UInt32.toBitVec_shiftRight, BitVec.ushiftRight_eq', uint32_shift hi,
    BitVec.getLsbD_ushiftRight]
  simp [hk]

theorem uint64Bytes_eq (v : UInt64) : uint64Bytes v = leBytes 8 v.toBitVec := by
  refine List.map_congr_left fun i hi => UInt8.toBitVec_inj.mp ?_
  have hi := List.mem_range.mp hi
  refine BitVec.eq_of_getLsbD_eq fun k hk => ?_
  rw [getLsbD_byteAt hk (by omega), UInt64.toBitVec_toUInt8, BitVec.getLsbD_setWidth,
    UInt64.toBitVec_shiftRight, BitVec.ushiftRight_eq', uint64_shift hi,
    BitVec.getLsbD_ushiftRight]
  simp [hk]

theorem length_uint32Bytes (v : UInt32) : (uint32Bytes v).length = 4 := by simp [uint32Bytes]

theorem length_uint64Bytes (v : UInt64) : (uint64Bytes v).length = 8 := by simp [uint64Bytes]

theorem uint32_uint32Bytes (v : UInt32) : uint32 (uint32Bytes v) = v := by
  refine UInt32.toBitVec_inj.mp ?_
  rw [uint32Bytes_eq]
  have hm : 32 = 8 * 4 := rfl
  exact leWord_leBytes hm v.toBitVec

theorem uint64_uint64Bytes (v : UInt64) : uint64 (uint64Bytes v) = v := by
  refine UInt64.toBitVec_inj.mp ?_
  rw [uint64Bytes_eq]
  have hm : 64 = 8 * 8 := rfl
  exact leWord_leBytes hm v.toBitVec

theorem uint32Bytes_uint32 {bytes : List UInt8} (hlen : bytes.length = 4) :
    uint32Bytes (uint32 bytes) = bytes := by
  rw [uint32Bytes_eq]
  exact leBytes_leWord rfl hlen

theorem uint64Bytes_uint64 {bytes : List UInt8} (hlen : bytes.length = 8) :
    uint64Bytes (uint64 bytes) = bytes := by
  rw [uint64Bytes_eq]
  exact leBytes_leWord rfl hlen

end words

section rates

/-- Below 2^53 every word is a double precision number. -/
theorem float64OfUInt64_of_lt {v : UInt64} (hv : v.toNat < 2 ^ 53) :
    float64OfUInt64 v = v.toNat := by
  have hunit : v.toNat.log2 - 52 = 0 := by
    by_cases hzero : v.toNat = 0
    · rw [hzero]
      rfl
    · have hlog := (Nat.log2_lt hzero).mpr hv
      omega
  rw [float64OfUInt64, hunit]
  simp [Nat.mod_one]

theorem uint64OfFloat64_natCast (implementation : ℚ → UInt64) {n : ℕ} (hn : n < UInt64.size) :
    uint64OfFloat64 implementation (n : ℚ) = UInt64.ofNat n := by
  have hnonneg : (0 : ℚ) ≤ n := Nat.cast_nonneg n
  have hrange : (0 : ℤ) ≤ n ∧ (n : ℤ) < UInt64.size := by omega
  rw [uint64OfFloat64]
  simp only [if_pos hnonneg, Int.floor_natCast, if_pos hrange, Int.toNat_natCast]

/-- An integral rate below 2^53 survives the conversions. -/
theorem float64OfUInt64_uint64OfFloat64 (implementation : ℚ → UInt64) {rate : ℕ}
    (hrate : rate < 2 ^ 53) :
    float64OfUInt64 (uint64OfFloat64 implementation rate) = rate := by
  have hsize : rate < UInt64.size := by
    rw [UInt64.size]
    omega
  have hword : (UInt64.ofNat rate).toNat = rate := UInt64.toNat_ofNat_of_lt' hsize
  rw [uint64OfFloat64_natCast implementation hsize,
    float64OfUInt64_of_lt (by rw [hword]; exact hrate), hword]

/-- A word below 2^53 survives the conversions. -/
theorem uint64OfFloat64_float64OfUInt64 (implementation : ℚ → UInt64) {v : UInt64}
    (hv : v.toNat < 2 ^ 53) : uint64OfFloat64 implementation (float64OfUInt64 v) = v := by
  rw [float64OfUInt64_of_lt hv, uint64OfFloat64_natCast implementation v.toNat_lt_size]
  exact UInt64.ofNat_toNat

end rates

section writing

/-- What is written over the bytes behind others. -/
theorem put_append (front back bytes : List UInt8)
    (hlen : bytes.length ≤ back.length) :
    put (front ++ back) front.length bytes =
      .ok (front ++ bytes ++ back.drop bytes.length) := by
  have hhigh : front.length + bytes.length ≤ (front ++ back).length := by
    rw [List.length_append]
    omega
  have hback : (front ++ back).drop (front.length + bytes.length) = back.drop bytes.length := by
    rw [← List.drop_drop, List.drop_left]
  rw [put, if_pos hhigh, List.take_left, hback]

/-- Bytes of one sample. -/
def sampleBytes (sample : IQSample) : List UInt8 :=
  uint32Bytes sample.i ++ uint32Bytes sample.q

theorem length_sampleBytes (sample : IQSample) : (sampleBytes sample).length = 8 := by
  rw [sampleBytes, List.length_append, length_uint32Bytes, length_uint32Bytes]

theorem length_flatMap_sampleBytes (samples : List IQSample) :
    (samples.flatMap sampleBytes).length = 8 * samples.length := by
  induction samples with
  | nil => rfl
  | cons sample samples ih =>
    rw [List.flatMap_cons, List.length_append, length_sampleBytes, ih, List.length_cons]
    omega

theorem writeSamples_append (front back : List UInt8) (samples : List IQSample)
    (hlen : back.length = 8 * samples.length) :
    writeSamples (front ++ back) front.length samples =
      .ok (front ++ samples.flatMap sampleBytes) := by
  induction samples generalizing front back with
  | nil =>
    have hnil : back = [] := List.eq_nil_of_length_eq_zero hlen
    rw [writeSamples, hnil]
    rfl
  | cons sample samples ih =>
    rw [List.length_cons] at hlen
    have hi := put_append front back (uint32Bytes sample.i) (by rw [length_uint32Bytes]; omega)
    have hq := put_append (front ++ uint32Bytes sample.i) (back.drop 4) (uint32Bytes sample.q)
      (by rw [length_uint32Bytes, List.length_drop]; omega)
    have hrest := ih (front ++ sampleBytes sample) (back.drop 8)
      (by rw [List.length_drop]; omega)
    rw [length_uint32Bytes] at hi
    rw [List.length_append, length_uint32Bytes, length_uint32Bytes, List.drop_drop] at hq
    rw [List.length_append, length_sampleBytes, sampleBytes, ← List.append_assoc] at hrest
    rw [writeSamples, hi]
    simp only [bind, Except.bind, hq, hrest]
    simp [sampleBytes]

/-- The parts of the binary form one after the other. -/
def layout (count : UInt32) (rate timestamp : UInt64) (samples : List IQSample) : List UInt8 :=
  uint32Bytes count ++ (uint64Bytes rate ++ (uint64Bytes timestamp ++ samples.flatMap sampleBytes))

theorem serializeIQ_eq (implementation : ℚ → UInt64) (buffer : IQBuffer) :
    serializeIQ implementation buffer =
      .ok (layout (UInt32.ofNat buffer.samples.length)
        (uint64OfFloat64 implementation buffer.sampleRate) buffer.timestamp.toUInt64
        buffer.samples) := by
  generalize hcount : UInt32.ofNat buffer.samples.length = count
  generalize hrate : uint64OfFloat64 implementation buffer.sampleRate = rate
  generalize htimestamp : buffer.timestamp.toUInt64 = timestamp
  have hzeros : ∀ total n : ℕ, (List.replicate total (0 : UInt8)).drop n =
      List.replicate (total - n) 0 := fun total n => List.drop_replicate
  have h0 := put_append [] (List.replicate (20 + buffer.samples.length * 8) 0)
    (uint32Bytes count) (by rw [length_uint32Bytes, List.length_replicate]; omega)
  have h4 := put_append (uint32Bytes count)
    (List.replicate (20 + buffer.samples.length * 8 - 4) 0) (uint64Bytes rate)
    (by rw [length_uint64Bytes, List.length_replicate]; omega)
  have h12 := put_append (uint32Bytes count ++ uint64Bytes rate)
    (List.replicate (20 + buffer.samples.length * 8 - 4 - 8) 0) (uint64Bytes timestamp)
    (by rw [length_uint64Bytes, List.length_replicate]; omega)
  have h20 := writeSamples_append (uint32Bytes count ++ uint64Bytes rate ++ uint64Bytes timestamp)
    (List.replicate (20 + buffer.samples.length * 8 - 4 - 8 - 8) 0) buffer.samples
    (by rw [List.length_replicate]; omega)
  simp only [List.length_append, length_uint32Bytes, length_uint64Bytes, hzeros, List.nil_append,
    List.length_nil] at h0 h4 h12 h20
  rw [serializeIQ]
  simp only [bind, Except.bind, hcount, hrate, htimestamp, h0, h4, h12, h20]
  simp [layout]

end writing

section reading

theorem slice_of_le {data : List UInt8} (low : ℕ) {high : ℕ} (h : high ≤ data.length) :
    slice data low high = .ok ((data.drop low).take (high - low)) := if_pos h

/-- So many samples at the start of some bytes. -/
def samplesOf (bytes : List UInt8) : ℕ → List IQSample
  | 0 => []
  | n + 1 => ⟨uint32 (bytes.take 4), uint32 ((bytes.drop 4).take 4)⟩ :: samplesOf (bytes.drop 8) n

theorem length_samplesOf (bytes : List UInt8) (n : ℕ) : (samplesOf bytes n).length = n := by
  induction n generalizing bytes with
  | zero => rfl
  | succ n ih => rw [samplesOf, List.length_cons, ih]

theorem readSamples_eq {data : List UInt8} {left offset : ℕ}
    (hlen : offset + 8 * left ≤ data.length) (samples : List IQSample) :
    readSamples data left offset samples = .ok (samples ++ samplesOf (data.drop offset) left) := by
  induction left generalizing offset samples with
  | zero => simp [readSamples, samplesOf]
  | succ left ih =>
    have hi := slice_of_le offset (show offset + 4 ≤ data.length by omega)
    have hq := slice_of_le (offset + 4) (show offset + 8 ≤ data.length by omega)
    have hnext : ∀ acc, readSamples data left (offset + 8) acc =
        .ok (acc ++ samplesOf (data.drop (offset + 8)) left) := fun acc => ih (by omega) acc
    rw [show offset + 4 - offset = 4 by omega] at hi
    rw [show offset + 8 - (offset + 4) = 4 by omega] at hq
    rw [readSamples, hi]
    simp only [bind, Except.bind, hq, hnext]
    simp [samplesOf, List.drop_drop]

/-- The count in the first four bytes. -/
def countOf (data : List UInt8) : ℕ := (uint32 (data.take 4)).toNat

/-- The rate field. -/
def rateOf (data : List UInt8) : UInt64 := uint64 ((data.drop 4).take 8)

/-- The timestamp field. -/
def timestampOf (data : List UInt8) : UInt64 := uint64 ((data.drop 12).take 8)

/-- Reading fails only on data that are too short, with an error. -/
theorem deserializeIQ_eq (data : List UInt8) :
    deserializeIQ data =
      if data.length < 20 then .error (.failed (.errorf (ascii "data too short for header")))
      else if data.length < 20 + 8 * countOf data then
        .error (.failed (.errorf (ascii "data too short for samples")))
      else .ok ⟨samplesOf (data.drop 20) (countOf data), float64OfUInt64 (rateOf data),
        (timestampOf data).toInt64⟩ := by
  rw [deserializeIQ]
  by_cases hheader : data.length < 20
  · rw [if_pos hheader, if_pos hheader]
  · have hcount := slice_of_le 0 (show 4 ≤ data.length by omega)
    have hrate := slice_of_le 4 (show 12 ≤ data.length by omega)
    have htimestamp := slice_of_le 12 (show 20 ≤ data.length by omega)
    have hn : (uint32 ((data.drop 0).take (4 - 0))).toNat = countOf data := rfl
    rw [if_neg hheader, if_neg hheader]
    simp only [bind, Except.bind, hcount, hrate, htimestamp, hn]
    rw [Nat.mul_comm 8]
    split
    · rfl
    · rw [readSamples_eq (by omega)]
      rfl

theorem samplesOf_flatMap (samples : List IQSample) :
    samplesOf (samples.flatMap sampleBytes) samples.length = samples := by
  induction samples with
  | nil => rfl
  | cons sample samples ih =>
    have hi := length_uint32Bytes sample.i
    have hq := length_uint32Bytes sample.q
    have hsplit : (sample :: samples).flatMap sampleBytes =
        uint32Bytes sample.i ++ (uint32Bytes sample.q ++ samples.flatMap sampleBytes) := by
      simp [sampleBytes]
    have hfour : (uint32Bytes sample.i ++
        (uint32Bytes sample.q ++ samples.flatMap sampleBytes)).drop 4 =
          uint32Bytes sample.q ++ samples.flatMap sampleBytes := List.drop_left' hi
    have height : (uint32Bytes sample.i ++
        (uint32Bytes sample.q ++ samples.flatMap sampleBytes)).drop 8 =
          samples.flatMap sampleBytes := by
      rw [show 8 = 4 + 4 from rfl, ← List.drop_drop, hfour, List.drop_left' hq]
    rw [hsplit, List.length_cons, samplesOf, List.take_left' hi, hfour, List.take_left' hq,
      height, uint32_uint32Bytes, uint32_uint32Bytes, ih]

theorem flatMap_samplesOf {bytes : List UInt8} {n : ℕ} (hlen : 8 * n ≤ bytes.length) :
    (samplesOf bytes n).flatMap sampleBytes = bytes.take (8 * n) := by
  induction n generalizing bytes with
  | zero => simp [samplesOf]
  | succ n ih =>
    have hi : (bytes.take 4).length = 4 := by
      rw [List.length_take]
      omega
    have hq : ((bytes.drop 4).take 4).length = 4 := by
      rw [List.length_take, List.length_drop]
      omega
    have hrest : 8 * n ≤ (bytes.drop 8).length := by
      rw [List.length_drop]
      omega
    rw [samplesOf, List.flatMap_cons, ih hrest, sampleBytes, uint32Bytes_uint32 hi,
      uint32Bytes_uint32 hq, show 8 * (n + 1) = 4 + (4 + 8 * n) by omega, List.take_add,
      List.take_add, List.drop_drop, List.append_assoc]

/-- The fields of a layout are where the reader takes them from. -/
theorem fields_layout (count : UInt32) (rate timestamp : UInt64) (samples : List IQSample) :
    countOf (layout count rate timestamp samples) = count.toNat ∧
      rateOf (layout count rate timestamp samples) = rate ∧
      timestampOf (layout count rate timestamp samples) = timestamp ∧
      (layout count rate timestamp samples).drop 20 = samples.flatMap sampleBytes := by
  have h4 : (layout count rate timestamp samples).drop 4 =
      uint64Bytes rate ++ (uint64Bytes timestamp ++ samples.flatMap sampleBytes) :=
    List.drop_left' (length_uint32Bytes count)
  have h12 : (layout count rate timestamp samples).drop 12 =
      uint64Bytes timestamp ++ samples.flatMap sampleBytes := by
    rw [show 12 = 4 + 8 from rfl, ← List.drop_drop, h4, List.drop_left' (length_uint64Bytes rate)]
  have h20 : (layout count rate timestamp samples).drop 20 = samples.flatMap sampleBytes := by
    rw [show 20 = 12 + 8 from rfl, ← List.drop_drop, h12,
      List.drop_left' (length_uint64Bytes timestamp)]
  refine ⟨?_, ?_, ?_, h20⟩
  · rw [countOf, layout, List.take_left' (length_uint32Bytes count), uint32_uint32Bytes]
  · rw [rateOf, h4, List.take_left' (length_uint64Bytes rate), uint64_uint64Bytes]
  · rw [timestampOf, h12, List.take_left' (length_uint64Bytes timestamp), uint64_uint64Bytes]

theorem length_layout (count : UInt32) (rate timestamp : UInt64) (samples : List IQSample) :
    (layout count rate timestamp samples).length = 20 + 8 * samples.length := by
  rw [layout, List.length_append, List.length_append, List.length_append, length_uint32Bytes,
    length_uint64Bytes, length_uint64Bytes, length_flatMap_sampleBytes]
  omega

/-- The layout of what the fields of some data say is the start of the data. -/
theorem layout_fields {data : List UInt8} (hlen : 20 + 8 * countOf data ≤ data.length) :
    layout (uint32 (data.take 4)) (rateOf data) (timestampOf data)
      (samplesOf (data.drop 20) (countOf data)) = data.take (20 + 8 * countOf data) := by
  have hcount : (data.take 4).length = 4 := by
    rw [List.length_take]
    omega
  have hrate : ((data.drop 4).take 8).length = 8 := by
    rw [List.length_take, List.length_drop]
    omega
  have htimestamp : ((data.drop 12).take 8).length = 8 := by
    rw [List.length_take, List.length_drop]
    omega
  have hsamples : 8 * countOf data ≤ (data.drop 20).length := by
    rw [List.length_drop]
    omega
  rw [layout, rateOf, timestampOf, uint32Bytes_uint32 hcount, uint64Bytes_uint64 hrate,
    uint64Bytes_uint64 htimestamp, flatMap_samplesOf hsamples,
    show 20 + 8 * countOf data = 4 + (8 + (8 + 8 * countOf data)) by omega, List.take_add,
    List.take_add, List.take_add, List.drop_drop, List.drop_drop]

end reading

/-- Data are read exactly if they hold the header and the samples that it counts, and no index is
out of range. -/
theorem deserializeIQ_bounds (data : List UInt8) :
    (∀ high length, deserializeIQ data ≠ .error (.outOfRange high length)) ∧
      ((∃ buffer, deserializeIQ data = .ok buffer) ↔
        20 ≤ data.length ∧ 20 + 8 * countOf data ≤ data.length) := by
  rw [deserializeIQ_eq]
  split
  · exact ⟨by simp, by simp; omega⟩
  · split
    · exact ⟨by simp, by simp; omega⟩
    · exact ⟨by simp, by simp; omega⟩

/-- What was written is read back. -/
theorem deserializeIQ_serializeIQ (implementation : ℚ → UInt64) {buffer : IQBuffer} {rate : ℕ}
    (hcount : buffer.samples.length < UInt32.size) (hrate : rate < 2 ^ 53)
    (hbuffer : buffer.sampleRate = rate) :
    ∃ data, serializeIQ implementation buffer = .ok data ∧ deserializeIQ data = .ok buffer := by
  have hword : (UInt32.ofNat buffer.samples.length).toNat = buffer.samples.length :=
    UInt32.toNat_ofNat_of_lt' hcount
  refine ⟨_, serializeIQ_eq implementation buffer, ?_⟩
  generalize hlayout : layout (UInt32.ofNat buffer.samples.length)
    (uint64OfFloat64 implementation buffer.sampleRate) buffer.timestamp.toUInt64
    buffer.samples = data
  obtain ⟨hn, hr, ht, hs⟩ := fields_layout (UInt32.ofNat buffer.samples.length)
    (uint64OfFloat64 implementation buffer.sampleRate) buffer.timestamp.toUInt64 buffer.samples
  have hlength := length_layout (UInt32.ofNat buffer.samples.length)
    (uint64OfFloat64 implementation buffer.sampleRate) buffer.timestamp.toUInt64 buffer.samples
  rw [hlayout] at hn hr ht hs hlength
  rw [hword] at hn
  rw [deserializeIQ_eq, if_neg (by omega), if_neg (by omega), hn, hr, ht, hs, samplesOf_flatMap,
    hbuffer, float64OfUInt64_uint64OfFloat64 implementation hrate, ← hbuffer]
  simp

/-- Where the rate field is exact, writing what was read restores the data. -/
theorem serializeIQ_deserializeIQ (implementation : ℚ → UInt64) {data : List UInt8}
    {buffer : IQBuffer} (hread : deserializeIQ data = .ok buffer)
    (hrate : (rateOf data).toNat < 2 ^ 53) :
    serializeIQ implementation buffer = .ok (data.take (20 + 8 * countOf data)) := by
  rw [deserializeIQ_eq] at hread
  split at hread
  · cases hread
  · split at hread
    · cases hread
    · rename_i hheader hsamples
      have hword : UInt32.ofNat (countOf data) = uint32 (data.take 4) := UInt32.ofNat_toNat
      rw [← Except.ok.inj hread, serializeIQ_eq, length_samplesOf, hword,
        uint64OfFloat64_float64OfUInt64 implementation hrate]
      have hlayout := layout_fields (Nat.le_of_not_lt hsamples)
      simpa using hlayout

/-- One sample at a rate of a million, before the epoch. -/
def specimenBuffer : IQBuffer := ⟨[⟨0x3F800000, 0xBF800000⟩], (1000000 : ℕ), -1⟩

end CislunarDtn.SpiBuffers
