import Mathlib.Algebra.Order.BigOperators.Group.List
import Mathlib.Algebra.Order.Field.Rat
import Mathlib.Data.BitVec
import Mathlib.Data.List.Forall2
import Mathlib.Tactic.Linarith

/-!
# BPSK over a noisy loopback

The modulator unpacks bytes to bits, most significant first, and repeats a
sample for each bit; the demodulator averages the in-phase components of each
window of samples, the last of which may be short, decides by their sign and
packs the bits again. Noise that moves no in-phase component by one or more
changes no decision. Samples are rational.
-/

namespace CislunarDtn.BpskLoopbacks

/-- What the modems use of the mathematical functions: the cosine is exact at
phase zero and at the constant for half a turn. -/
structure MathFunctions where
  /-- The constant for half a turn. -/
  pi : ℚ
  /-- Cosine. -/
  cos : ℚ → ℚ
  /-- Sine. -/
  sin : ℚ → ℚ
  /-- Decimal logarithm. -/
  log10 : ℚ → ℚ
  cos_zero : cos 0 = 1
  cos_pi : cos pi = -1

/-- One baseband sample. -/
structure IQSample where
  /-- In-phase component. -/
  i : ℚ
  /-- Quadrature component. -/
  q : ℚ
  deriving DecidableEq

/-- Configuration as far as BPSK reads it; the loops over symbols advance. -/
structure ModulationConfig where
  /-- Samples per symbol. -/
  samplesPerSym : ℕ
  samplesPerSym_pos : 1 ≤ samplesPerSym

/-- Link quality metrics. -/
structure LinkMetrics where
  /-- Received signal strength in dBm. -/
  rssi : ℚ
  /-- Signal-to-noise ratio in dB. -/
  snr : ℚ
  /-- Error vector magnitude in percent. -/
  evm : ℚ
  /-- Frequency error in Hz. -/
  freqError : ℚ
  deriving DecidableEq

/-- The bit of a byte with this weight as a mask. -/
def mask (bitIdx : ℕ) : UInt8 := 1 <<< UInt8.ofNat bitIdx

/-- Bits of the bytes, most significant first. -/
def bytesToBits (data : List UInt8) : List ℕ :=
  data.flatMap fun b => (List.range 8).map fun j => if b &&& mask (7 - j) ≠ 0 then 1 else 0

/-- One step of the packing loop. -/
def packBit (bits : List ℕ) (data : List UInt8) (i : ℕ) : List UInt8 :=
  if bits[i]? = some 1 then data.modify (i / 8) (· ||| mask (7 - i % 8)) else data

/-- Bytes of the bits, with zeros after the last one. -/
def bitsToBytes (bits : List ℕ) : List UInt8 :=
  let numBytes := (bits.length + 7) / 8
  (List.range bits.length).foldl (packBit bits) (List.replicate numBytes 0)

section modem

variable (M : MathFunctions) (config : ModulationConfig)

/-- The sample of a bit. -/
def sampleOf (bit : ℕ) : IQSample :=
  let phase := if bit = 1 then M.pi else 0
  ⟨M.cos phase, M.sin phase⟩

/-- Samples of the data. -/
def modulateBPSK (data : List UInt8) : List IQSample :=
  (bytesToBits data).flatMap fun bit => List.replicate config.samplesPerSym (sampleOf M bit)

/-- The averaging loop over the window that starts at an index, with so many of
its samples left after the first ones: the sum and the count. -/
def sumWindow (samples : List IQSample) (i : ℕ) : ℕ → ℕ → ℚ × ℕ → ℚ × ℕ
  | 0, _, acc => acc
  | left + 1, j, acc =>
    match samples[i + j]? with
    | some sample => sumWindow samples i left (j + 1) (acc.1 + sample.i, acc.2 + 1)
    | none => acc

/-- The decision for the window that starts at an index. -/
def decideWindow (samples : List IQSample) (i : ℕ) : ℕ :=
  let window := sumWindow samples i config.samplesPerSym 0 (0, 0)
  let avgI := window.1 / window.2
  if avgI > 0 then 0 else 1

/-- The decisions from an index on. -/
def decideFrom (samples : List IQSample) (i : ℕ) : List ℕ :=
  if i < samples.length then
    decideWindow config samples i :: decideFrom samples (i + config.samplesPerSym)
  else []
termination_by samples.length - i
decreasing_by
  have := config.samplesPerSym_pos
  omega

/-- Link quality of the samples. -/
def calculateMetrics (samples : List IQSample) : LinkMetrics :=
  if samples.length = 0 then ⟨0, 0, 0, 0⟩
  else
    let sumPower := samples.foldl (fun sum s => sum + (s.i * s.i + s.q * s.q)) (0 : ℚ)
    let avgPower := sumPower / samples.length
    let rssi := 10 * M.log10 avgPower - 30
    let noiseFloor := -100
    ⟨rssi, rssi - noiseFloor, 5, 0⟩

/-- Data and link quality of the samples. -/
def demodulateBPSK (samples : List IQSample) : List UInt8 × LinkMetrics :=
  if samples.length = 0 then ([], ⟨0, 0, 0, 0⟩)
  else (bitsToBytes (decideFrom config samples 0), calculateMetrics M samples)

/-- Samples that noise has made of others: no in-phase component has moved by
one or more, and the quadrature components are anything. -/
def NoisyVersion (received sent : List IQSample) : Prop :=
  List.Forall₂ (fun r s => |r.i - s.i| < 1) received sent

end modem

section packing

/-- The bits of a mask. -/
theorem getLsbD_mask {bitIdx k : ℕ} (hb : bitIdx < 8) (hk : k < 8) :
    (mask bitIdx).toBitVec.getLsbD k = decide (k = bitIdx) := by
  have htable : ∀ bitIdx < 8, ∀ k < 8,
      (mask bitIdx).toBitVec.getLsbD k = decide (k = bitIdx) := by decide
  exact htable bitIdx hb k hk

/-- Testing a byte with a mask reads a bit of the byte. -/
theorem and_mask_ne_zero_iff (b : UInt8) {bitIdx : ℕ} (hb : bitIdx < 8) :
    b &&& mask bitIdx ≠ 0 ↔ b.toBitVec.getLsbD bitIdx = true := by
  have hbits : ∀ k < 8, (b &&& mask bitIdx).toBitVec.getLsbD k =
      (b.toBitVec.getLsbD k && decide (k = bitIdx)) := by
    intro k hk
    rw [UInt8.toBitVec_and, BitVec.getLsbD_and, getLsbD_mask hb hk]
  constructor
  · intro hne
    by_contra hoff
    refine hne (UInt8.toBitVec_inj.mp (BitVec.eq_of_getLsbD_eq fun k hk => ?_))
    rw [hbits k hk]
    by_cases heq : k = bitIdx
    · simp [heq, Bool.eq_false_iff.mpr hoff]
    · simp [heq]
  · intro hon hzero
    have hbit := hbits bitIdx hb
    rw [hzero, hon] at hbit
    simp at hbit

/-- The bits of the first byte come first. -/
theorem bytesToBits_cons (b : UInt8) (data : List UInt8) :
    bytesToBits (b :: data) = bytesToBits [b] ++ bytesToBits data := by
  simp [bytesToBits]

theorem length_bytesToBits_singleton (b : UInt8) : (bytesToBits [b]).length = 8 := by
  simp [bytesToBits]

theorem length_bytesToBits (data : List UInt8) :
    (bytesToBits data).length = 8 * data.length := by
  induction data with
  | nil => rfl
  | cons b data ih =>
    rw [bytesToBits_cons, List.length_append, length_bytesToBits_singleton, ih, List.length_cons]
    omega

/-- Each bit is the bit of the byte in its place. -/
theorem getElem?_bytesToBits (data : List UInt8) (i : ℕ) :
    (bytesToBits data)[i]? = data[i / 8]?.map fun b =>
      if b.toBitVec.getLsbD (7 - i % 8) then 1 else 0 := by
  induction data generalizing i with
  | nil => rfl
  | cons b data ih =>
    have hone := length_bytesToBits_singleton b
    rw [bytesToBits_cons]
    by_cases hi : i < 8
    · have hdiv : i / 8 = 0 := by omega
      have hmod : i % 8 = i := by omega
      have hbit := and_mask_ne_zero_iff b (show 7 - i < 8 by omega)
      rw [List.getElem?_append_left (by omega), hdiv, hmod]
      simp [bytesToBits, hi, ← hbit]
    · have hdiv : i / 8 = (i - 8) / 8 + 1 := by omega
      have hmod : i % 8 = (i - 8) % 8 := by omega
      rw [List.getElem?_append_right (by omega), hone, ih, hdiv, hmod, List.getElem?_cons_succ]

theorem length_packBit (bits : List ℕ) (data : List UInt8) (i : ℕ) :
    (packBit bits data i).length = data.length := by
  unfold packBit
  split
  · exact List.length_modify ..
  · rfl

/-- The packing loop sets the bits that have been seen, in their places, and no
others. -/
theorem getLsbD_packed (bits : List ℕ) (numBytes n : ℕ) :
    ((List.range n).foldl (packBit bits) (List.replicate numBytes 0)).length = numBytes ∧
      ∀ byteIdx < numBytes, ∀ k < 8,
        (((List.range n).foldl (packBit bits) (List.replicate numBytes 0))[byteIdx]?.map fun b =>
            b.toBitVec.getLsbD k) =
          some (decide (8 * byteIdx + (7 - k) < n ∧ bits[8 * byteIdx + (7 - k)]? = some 1)) := by
  induction n with
  | zero =>
    refine ⟨by simp, ?_⟩
    intro byteIdx hbyte k hk
    simp [List.getElem?_replicate_of_lt hbyte]
  | succ n ih =>
    obtain ⟨hlength, hbits⟩ := ih
    rw [List.range_succ, List.foldl_append, List.foldl_cons, List.foldl_nil]
    generalize (List.range n).foldl (packBit bits) (List.replicate numBytes 0) = data at *
    refine ⟨(length_packBit bits data n).trans hlength, ?_⟩
    intro byteIdx hbyte k hk
    have hbefore := hbits byteIdx hbyte k hk
    have hbyteAt : data[byteIdx]? = some data[byteIdx] := List.getElem?_eq_getElem (by omega)
    rw [hbyteAt, Option.map_some, Option.some.injEq] at hbefore
    unfold packBit
    by_cases hset : bits[n]? = some 1
    · rw [if_pos hset, List.getElem?_modify, hbyteAt]
      simp only [Option.map_eq_map, Option.map_some, Option.some.injEq]
      by_cases hhere : n / 8 = byteIdx
      · -- the byte changes in the bit whose place is seen now
        rw [if_pos hhere, UInt8.toBitVec_or, BitVec.getLsbD_or, hbefore,
          getLsbD_mask (by omega) hk]
        by_cases hplace : k = 7 - n % 8
        · have hseen : 8 * byteIdx + (7 - k) = n := by omega
          rw [hseen, decide_eq_true hplace]
          simp [hset]
        · have hsame : 8 * byteIdx + (7 - k) < n + 1 ↔ 8 * byteIdx + (7 - k) < n := by omega
          simp [hsame, hplace]
      · have hsame : 8 * byteIdx + (7 - k) < n + 1 ↔ 8 * byteIdx + (7 - k) < n := by omega
        rw [if_neg hhere, hbefore]
        simp [hsame]
    · rw [if_neg hset, hbyteAt, Option.map_some, Option.some.injEq, hbefore]
      by_cases hplace : 8 * byteIdx + (7 - k) = n
      · simp [hplace, hset]
      · have hsame : 8 * byteIdx + (7 - k) < n + 1 ↔ 8 * byteIdx + (7 - k) < n := by omega
        simp [hsame]

/-- Packing undoes unpacking: both count the bits of a byte from the top. -/
theorem bitsToBytes_bytesToBits (data : List UInt8) : bitsToBytes (bytesToBits data) = data := by
  have hlen := length_bytesToBits data
  have hnum : ((bytesToBits data).length + 7) / 8 = data.length := by omega
  obtain ⟨hlength, hbits⟩ :=
    getLsbD_packed (bytesToBits data) data.length (bytesToBits data).length
  rw [bitsToBytes, hnum]
  generalize (List.range (bytesToBits data).length).foldl (packBit (bytesToBits data))
    (List.replicate data.length 0) = packed at *
  refine List.ext_getElem hlength fun byteIdx hpacked hdata => ?_
  refine UInt8.toBitVec_inj.mp (BitVec.eq_of_getLsbD_eq fun k hk => ?_)
  have hbit := hbits byteIdx hdata k hk
  have hdiv : (8 * byteIdx + (7 - k)) / 8 = byteIdx := by omega
  have hmod : 7 - (8 * byteIdx + (7 - k)) % 8 = k := by omega
  have hbound : 8 * byteIdx + (7 - k) < (bytesToBits data).length := by omega
  rw [List.getElem?_eq_getElem hpacked, Option.map_some, Option.some.injEq, getElem?_bytesToBits,
    hdiv, hmod, List.getElem?_eq_getElem hdata] at hbit
  rw [hbit]
  cases hk' : data[byteIdx].toBitVec.getLsbD k <;> simp [hbound, hk']

end packing

section decisions

variable (M : MathFunctions) (config : ModulationConfig)

/-- The averaging loop takes what the buffer still holds of its window. -/
theorem sumWindow_eq (samples : List IQSample) (i left j : ℕ) (acc : ℚ × ℕ) :
    sumWindow samples i left j acc =
      (acc.1 + (((samples.drop (i + j)).take left).map IQSample.i).sum,
        acc.2 + ((samples.drop (i + j)).take left).length) := by
  induction left generalizing j acc with
  | zero => simp [sumWindow]
  | succ left ih =>
    rw [sumWindow]
    by_cases hin : i + j < samples.length
    · rw [List.getElem?_eq_getElem hin, List.drop_eq_getElem_cons hin]
      simp only [ih, List.take_succ_cons, List.map_cons, List.sum_cons, List.length_cons,
        Nat.add_assoc]
      rw [add_assoc, Nat.add_comm 1]
    · rw [List.getElem?_eq_none (by omega), List.drop_eq_nil_of_le (by omega)]
      simp

/-- Where all in-phase components of a window have one sign, it decides. -/
theorem decideWindow_of_sign {front window rest : List IQSample}
    (hlength : window.length = config.samplesPerSym) :
    ((∀ s ∈ window, 0 < s.i) → decideWindow config (front ++ (window ++ rest)) front.length = 0) ∧
      ((∀ s ∈ window, s.i < 0) →
        decideWindow config (front ++ (window ++ rest)) front.length = 1) := by
  have hpos := config.samplesPerSym_pos
  have hwindow : ((front ++ (window ++ rest)).drop (front.length + 0)).take
      config.samplesPerSym = window := by
    rw [Nat.add_zero, List.drop_left, ← hlength, List.take_left]
  have hne : window.map IQSample.i ≠ [] := by
    intro hnil
    rw [List.map_eq_nil_iff] at hnil
    rw [hnil, List.length_nil] at hlength
    omega
  have hcount : (0 : ℚ) < config.samplesPerSym := by exact_mod_cast hpos
  have hdecide : decideWindow config (front ++ (window ++ rest)) front.length =
      if (window.map IQSample.i).sum / config.samplesPerSym > 0 then 0 else 1 := by
    rw [decideWindow, sumWindow_eq, hwindow, hlength]
    simp
  constructor
  · intro hsign
    have hsum : 0 < (window.map IQSample.i).sum := by
      refine List.sum_pos _ ?_ hne
      intro x hx
      obtain ⟨s, hs, rfl⟩ := List.mem_map.mp hx
      exact hsign s hs
    rw [hdecide, if_pos (div_pos hsum hcount)]
  · intro hsign
    have hsum : (window.map IQSample.i).sum < 0 := by
      have hless := List.sum_lt_sum_of_ne_nil (by simpa using hne) IQSample.i (fun _ => (0 : ℚ))
        hsign
      simpa using hless
    rw [hdecide, if_neg (not_lt.mpr (div_nonpos_of_nonpos_of_nonneg hsum.le hcount.le))]

/-- Noise below one leaves the sign of what was sent for a bit. -/
theorem sign_of_noisy {bit : ℕ} {window : List IQSample}
    (h : NoisyVersion window (List.replicate config.samplesPerSym (sampleOf M bit))) :
    window.length = config.samplesPerSym ∧
      ((bit ≠ 1 → ∀ s ∈ window, 0 < s.i) ∧ (bit = 1 → ∀ s ∈ window, s.i < 0)) := by
  have hlength : window.length = config.samplesPerSym := by
    rw [h.length_eq, List.length_replicate]
  have hnear : ∀ s ∈ window, |s.i - (sampleOf M bit).i| < 1 := by
    intro s hs
    obtain ⟨k, hk, rfl⟩ := List.getElem_of_mem hs
    have hget := (List.forall₂_iff_get.mp h).2 k hk (by simpa [← hlength] using hk)
    simpa using hget
  refine ⟨hlength, ?_, ?_⟩
  · intro hbit s hs
    have hdistance := abs_lt.mp (hnear s hs)
    rw [sampleOf, if_neg hbit, M.cos_zero] at hdistance
    linarith
  · intro hbit s hs
    have hdistance := abs_lt.mp (hnear s hs)
    rw [sampleOf, if_pos hbit, M.cos_pi] at hdistance
    linarith

/-- The decisions from an index on are the bits sent from there on. -/
theorem decideFrom_noisy {bits : List ℕ} (hbits : ∀ bit ∈ bits, bit = 0 ∨ bit = 1)
    (front : List IQSample) {received : List IQSample}
    (h : NoisyVersion received
      (bits.flatMap fun bit => List.replicate config.samplesPerSym (sampleOf M bit))) :
    decideFrom config (front ++ received) front.length = bits := by
  induction bits generalizing front received with
  | nil =>
    have hnil : received = [] := List.forall₂_nil_right_iff.mp h
    rw [hnil, decideFrom, if_neg (by simp)]
  | cons bit bits ih =>
    have hpos := config.samplesPerSym_pos
    rw [List.flatMap_cons] at h
    -- the window of the first bit, and the rest
    have hwindow := List.forall₂_take_append _ _ _ h
    have hrest := List.forall₂_drop_append _ _ _ h
    rw [List.length_replicate] at hwindow hrest
    rw [← List.take_append_drop config.samplesPerSym received]
    generalize received.take config.samplesPerSym = window at *
    generalize received.drop config.samplesPerSym = rest at *
    obtain ⟨hlength, hplus, hminus⟩ := sign_of_noisy M config hwindow
    have hbit : decideWindow config (front ++ (window ++ rest)) front.length = bit := by
      obtain ⟨hzero, hone⟩ := @decideWindow_of_sign config front window rest hlength
      rcases hbits bit (List.mem_cons_self ..) with rfl | rfl
      · exact hzero (hplus (by omega))
      · exact hone (hminus rfl)
    have hnext := ih (fun b hb => hbits b (List.mem_cons_of_mem _ hb)) (front ++ window) hrest
    rw [List.length_append, hlength, List.append_assoc] at hnext
    rw [decideFrom, if_pos (by simp only [List.length_append]; omega), hbit, hnext]

theorem bytesToBits_bit (data : List UInt8) : ∀ bit ∈ bytesToBits data, bit = 0 ∨ bit = 1 := by
  intro bit hbit
  obtain ⟨b, -, hb⟩ := List.mem_flatMap.mp hbit
  obtain ⟨j, -, rfl⟩ := List.mem_map.mp hb
  split <;> simp

end decisions

/-- Demodulating what noise below one has made of the samples of some data
returns the data. -/
theorem demodulateBPSK_noisy (M : MathFunctions) (config : ModulationConfig)
    (data : List UInt8) {received : List IQSample}
    (h : NoisyVersion received (modulateBPSK M config data)) :
    (demodulateBPSK M config received).1 = data := by
  have hdecisions := decideFrom_noisy M config (bytesToBits_bit data) [] h
  rw [List.nil_append, List.length_nil] at hdecisions
  rw [demodulateBPSK]
  split
  · rename_i hempty
    -- no samples are decided to no bits
    rw [decideFrom, if_neg (by omega)] at hdecisions
    have hround := bitsToBytes_bytesToBits data
    rw [← hdecisions] at hround
    exact hround
  · rw [hdecisions, bitsToBytes_bytesToBits]

/-- Exact functions at the two phases. -/
def exactFunctions : MathFunctions where
  pi := 22 / 7
  cos x := if x = 0 then 1 else -1
  sin _ := 0
  log10 _ := 0
  cos_zero := by simp
  cos_pi := by norm_num

/-- Two samples for each bit, moved up and down by nine tenths. -/
theorem demodulateBPSK_noisy_byte :
    (demodulateBPSK exactFunctions ⟨2, by decide⟩
      ((modulateBPSK exactFunctions ⟨2, by decide⟩ [0xA5]).map fun s =>
        ⟨s.i + 9 / 10, 3⟩)).1 = [0xA5] := by
  refine demodulateBPSK_noisy _ _ [0xA5] ?_
  rw [NoisyVersion, List.forall₂_map_left_iff]
  refine List.forall₂_same.mpr fun s _ => ?_
  norm_num

end CislunarDtn.BpskLoopbacks
