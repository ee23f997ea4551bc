import Mathlib.Data.BitVec
import Mathlib.Data.List.GetD

/-!
# Registers of cyclic redundancy checks

A register in reflected form is shifted towards its lowest bit, and the
polynomial is added when a one falls out. Such a shift is linear, and it loses
nothing when the polynomial has its highest bit. What differs between two
messages of one length is therefore seen in the register as the register of
the difference, and a difference within as many bits as the register has is
never lost.
-/

namespace CislunarDtn.CheckRegisters

variable {w : ℕ} (poly : BitVec w)

/-- Shift the register by one bit. -/
def shift (c : BitVec w) : BitVec w := if c.getLsbD 0 then (c >>> 1) ^^^ poly else c >>> 1

/-- The register after a bit of the message. -/
def feedBit (c : BitVec w) (b : Bool) : BitVec w :=
  shift poly (c ^^^ (BitVec.ofBool b).setWidth w)

/-- The register after the bits of a message. -/
def feed (c : BitVec w) (bits : List Bool) : BitVec w := bits.foldl (feedBit poly) c

/-- The bits in which two messages of one length differ. -/
def difference (bits bits' : List Bool) : List Bool := List.zipWith xor bits bits'

@[simp]
theorem feed_nil (c : BitVec w) : feed poly c [] = c := rfl

@[simp]
theorem feed_cons (c : BitVec w) (b : Bool) (bits : List Bool) :
    feed poly c (b :: bits) = feed poly (feedBit poly c b) bits := rfl

theorem feed_append (c : BitVec w) (first second : List Bool) :
    feed poly c (first ++ second) = feed poly (feed poly c first) second := List.foldl_append ..

section linear

theorem shift_xor (a b : BitVec w) : shift poly (a ^^^ b) = shift poly a ^^^ shift poly b := by
  have hcancel : ∀ x y : BitVec w, (x ^^^ poly) ^^^ (y ^^^ poly) = x ^^^ y := by
    intro x y
    rw [BitVec.xor_comm y poly, BitVec.xor_assoc, ← BitVec.xor_assoc poly, BitVec.xor_self,
      BitVec.zero_xor]
  unfold shift
  rw [BitVec.getLsbD_xor, BitVec.ushiftRight_xor_distrib]
  cases ha : a.getLsbD 0 <;> cases hb : b.getLsbD 0
  · simp
  · simp [BitVec.xor_assoc]
  · simp only [Bool.xor_false, if_true, Bool.false_eq_true, if_false]
    rw [BitVec.xor_assoc, BitVec.xor_assoc, BitVec.xor_comm poly]
  · simp only [Bool.xor_self, Bool.false_eq_true, if_false, if_true]
    exact (hcancel _ _).symm

@[simp]
theorem shift_zero : shift poly 0#w = 0#w := by simp [shift]

theorem feedBit_xor (a b : BitVec w) (p q : Bool) :
    feedBit poly (a ^^^ b) (p ^^ q) = feedBit poly a p ^^^ feedBit poly b q := by
  have hbit : (BitVec.ofBool (p ^^ q)).setWidth w =
      (BitVec.ofBool p).setWidth w ^^^ (BitVec.ofBool q).setWidth w := by
    cases p <;> cases q <;> simp
  rw [feedBit, feedBit, feedBit, ← shift_xor, hbit]
  congr 1
  rw [BitVec.xor_assoc, BitVec.xor_assoc, ← BitVec.xor_assoc b, BitVec.xor_comm b,
    BitVec.xor_assoc]

/-- The registers of two messages differ by the register of their difference. -/
theorem feed_xor (a b : BitVec w) {bits bits' : List Bool} (h : bits.length = bits'.length) :
    feed poly a bits ^^^ feed poly b bits' =
      feed poly (a ^^^ b) (difference bits bits') := by
  induction bits generalizing a b bits' with
  | nil =>
    have hnil : bits' = [] := List.length_eq_zero_iff.mp h.symm
    rw [hnil]
    rfl
  | cons p bits ih =>
    cases bits' with
    | nil => simp at h
    | cons q bits' =>
      have htail : bits.length = bits'.length := Nat.succ_injective h
      rw [feed_cons, feed_cons, ih _ _ htail, ← feedBit_xor]
      rfl

/-- Zeros leave a register of zeros as it is. -/
theorem feed_replicate_false (n : ℕ) : feed poly 0#w (List.replicate n false) = 0#w := by
  induction n with
  | zero => rfl
  | succ n ih =>
    have hbit : feedBit poly 0#w false = 0#w := by
      have hfalse : (BitVec.ofBool false).setWidth w = 0#w := by simp
      rw [feedBit, hfalse, BitVec.xor_self, shift_zero]
    rw [List.replicate_succ, feed_cons, hbit, ih]

end linear

section invertible

variable {poly}

/-- A shift loses nothing: the polynomial marks in the highest bit that a one fell out. -/
theorem eq_zero_of_shift (hpoly : poly.msb = true) {c : BitVec w} (h : shift poly c = 0#w) :
    c = 0#w := by
  have hw : 0 < w := by
    by_contra hzero
    have hnil : w = 0 := by omega
    subst hnil
    simp [BitVec.msb] at hpoly
  cases hlow : c.getLsbD 0 with
  | true =>
    have htop : (shift poly c).getLsbD (w - 1) = true := by
      rw [shift, hlow, if_pos rfl, BitVec.getLsbD_xor, BitVec.getLsbD_ushiftRight,
        BitVec.getLsbD_of_ge c (1 + (w - 1)) (by omega), Bool.false_xor]
      rw [← BitVec.msb_eq_getLsbD_last]
      exact hpoly
    rw [h] at htop
    simp at htop
  | false =>
    have hshift : c >>> 1 = 0#w := by
      rw [shift, hlow] at h
      simpa using h
    refine BitVec.eq_of_getLsbD_eq fun i hi => ?_
    cases i with
    | zero => simpa using hlow
    | succ i =>
      have hbit := congrArg (fun x => BitVec.getLsbD x i) hshift
      rw [BitVec.getLsbD_ushiftRight, Nat.add_comm] at hbit
      simpa using hbit

theorem shift_injective (hpoly : poly.msb = true) : Function.Injective (shift poly) := by
  intro a b h
  have hzero : shift poly (a ^^^ b) = 0#w := by
    rw [shift_xor, h, BitVec.xor_self]
  exact BitVec.xor_eq_zero_iff.mp (eq_zero_of_shift hpoly hzero)

/-- What differs before the same bits differs after them. -/
theorem feed_injective (hpoly : poly.msb = true) (bits : List Bool) :
    Function.Injective fun c => feed poly c bits := by
  induction bits with
  | nil => exact fun a b h => h
  | cons p bits ih =>
    intro a b h
    have hfirst : feedBit poly a p = feedBit poly b p := ih h
    have hboth := shift_injective hpoly hfirst
    have hxor := congrArg (· ^^^ (BitVec.ofBool p).setWidth w) hboth
    simpa [BitVec.xor_assoc] using hxor

end invertible

section bursts

variable (w) in
/-- The word that has the bits, lowest first. -/
def word : List Bool → BitVec w
  | [] => 0#w
  | b :: bits => (BitVec.ofBool b).setWidth w ^^^ word bits <<< 1

theorem getLsbD_word (bits : List Bool) {i : ℕ} (hi : i < w) :
    (word w bits).getLsbD i = bits.getD i false := by
  induction bits generalizing i with
  | nil => simp [word]
  | cons b bits ih =>
    rw [word, BitVec.getLsbD_xor, BitVec.getLsbD_shiftLeft, BitVec.getLsbD_setWidth]
    cases i with
    | zero => simp [hi]
    | succ i =>
      have hbelow : i < w := by omega
      simp [hi, ih hbelow]

/-- Bits that are within the width are all zero where their word is. -/
theorem not_mem_of_word_eq_zero {bits : List Bool} (h : bits.length ≤ w) (hz : word w bits = 0#w) :
    true ∉ bits := by
  intro hmem
  obtain ⟨i, hi, hbit⟩ := List.getElem_of_mem hmem
  have hget := getLsbD_word bits (show i < w by omega)
  rw [hz, List.getD_eq_getElem?_getD, List.getElem?_eq_getElem hi, Option.getD_some, hbit] at hget
  simp at hget

/-- What leaves room for a zero at the low end is shifted back to where it was. -/
theorem shift_shiftLeft {c : BitVec w} (h : c.getLsbD (w - 1) = false) :
    shift poly (c <<< 1) = c := by
  have hlow : (c <<< 1).getLsbD 0 = false := by simp
  rw [shift, hlow, if_neg Bool.false_ne_true]
  refine BitVec.eq_of_getLsbD_eq fun i hi => ?_
  rw [BitVec.getLsbD_ushiftRight, BitVec.getLsbD_shiftLeft]
  by_cases htop : 1 + i < w
  · simp [htop]
  · have hi' : i = w - 1 := by omega
    rw [hi', h]
    simp [show ¬1 + (w - 1) < w by omega]

/-- As many bits as the register has, or fewer, act as shifts of the register
with their word added to it. -/
theorem feed_eq_feed_replicate {bits : List Bool} (h : bits.length ≤ w) (c : BitVec w) :
    feed poly c bits = feed poly (c ^^^ word w bits) (List.replicate bits.length false) := by
  induction bits generalizing c with
  | nil => simp [word]
  | cons b bits ih =>
    have hlen : bits.length < w := h
    have htop : (word w bits).getLsbD (w - 1) = false := by
      rw [getLsbD_word _ (by omega)]
      exact List.getD_eq_default _ _ (by omega)
    have hstep : feedBit poly (c ^^^ word w (b :: bits)) false =
        feedBit poly c b ^^^ word w bits := by
      have hfalse : (BitVec.ofBool false).setWidth w = 0#w := by simp
      rw [feedBit, feedBit, hfalse, word, ← BitVec.xor_assoc, shift_xor, shift_xor,
        shift_shiftLeft poly htop]
      simp
    rw [List.length_cons, List.replicate_succ, feed_cons, feed_cons, ih hlen.le, hstep]

variable {poly}

/-- Bits within the width, not all of them zero, leave something in a register of zeros. -/
theorem feed_ne_zero (hpoly : poly.msb = true) {bits : List Bool} (h : bits.length ≤ w)
    (hone : true ∈ bits) : feed poly 0#w bits ≠ 0#w := by
  rw [feed_eq_feed_replicate poly h, BitVec.zero_xor]
  intro hzero
  have hzeros := feed_replicate_false poly bits.length
  have hword : word w bits = 0#w := feed_injective hpoly _ (hzero.trans hzeros.symm)
  exact not_mem_of_word_eq_zero h hword hone

/-- A burst no longer than the register, at any place of a message, leaves
something in the register. -/
theorem feed_burst_ne_zero (hpoly : poly.msb = true) {burst : List Bool} (h : burst.length ≤ w)
    (hone : true ∈ burst) (before after : ℕ) :
    feed poly 0#w (List.replicate before false ++ burst ++ List.replicate after false) ≠ 0#w := by
  rw [feed_append, feed_append, feed_replicate_false]
  intro hzero
  have hzeros := feed_replicate_false poly after
  exact feed_ne_zero hpoly h hone (feed_injective hpoly _ (hzero.trans hzeros.symm))

/-- Ones that lie within a window as long as the register leave something in it. -/
theorem feed_window_ne_zero (hpoly : poly.msb = true) {bits : List Bool} (hone : true ∈ bits)
    {first : ℕ} (h : ∀ j, bits.getD j false = true → first ≤ j ∧ j < first + w) :
    feed poly 0#w bits ≠ 0#w := by
  have hzeros : ∀ l : List Bool, true ∉ l → l = List.replicate l.length false := by
    intro l hl
    exact List.eq_replicate_iff.mpr ⟨rfl, fun b hb => by cases b; rfl; exact absurd hb hl⟩
  have hbefore : true ∉ bits.take first := by
    intro hmem
    obtain ⟨j, hj, hbit⟩ := List.getElem_of_mem hmem
    rw [List.getElem_take] at hbit
    have hlen : j < bits.length ∧ j < first := by simp at hj; omega
    have hwindow := h j (by rw [List.getD_eq_getElem _ _ hlen.1, hbit])
    omega
  have hafter : true ∉ (bits.drop first).drop w := by
    intro hmem
    obtain ⟨j, hj, hbit⟩ := List.getElem_of_mem hmem
    rw [List.getElem_drop, List.getElem_drop] at hbit
    have hlen : first + (w + j) < bits.length := by simp at hj; omega
    have hwindow := h _ (by rw [List.getD_eq_getElem _ _ hlen, hbit])
    omega
  have hsplit : bits = bits.take first ++ (bits.drop first).take w ++ (bits.drop first).drop w := by
    rw [List.append_assoc, List.take_append_drop, List.take_append_drop]
  have hwithin : true ∈ (bits.drop first).take w := by
    rw [hsplit, List.mem_append, List.mem_append] at hone
    exact (hone.resolve_right hafter).resolve_left hbefore
  rw [hsplit, hzeros _ hbefore, hzeros _ hafter]
  exact feed_burst_ne_zero hpoly (by simp) hwithin _ _

end bursts

end CislunarDtn.CheckRegisters
