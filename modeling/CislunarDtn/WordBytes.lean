import Mathlib.Data.BitVec

/-!
# Words and their bytes

A word is cut into bytes by arithmetic shifts, lowest byte first, and bytes
are put together by shifts and disjunction. Both are described bit by bit, so
that either undoes the other within the width.
-/

namespace CislunarDtn.WordBytes

variable {m : ℕ}

/-- Byte of a word, by an arithmetic shift to the right. -/
def byteAt (w : BitVec m) (i : ℕ) : BitVec 8 := (w.sshiftRight (8 * i)).setWidth 8

/-- The word put together from so many bytes. -/
def assemble (m : ℕ) (bytes : ℕ → BitVec 8) : ℕ → BitVec m
  | 0 => 0
  | i + 1 => assemble m bytes i ||| (bytes i).setWidth m <<< (8 * i)

theorem assemble_congr {bytes bytes' : ℕ → BitVec 8} {n : ℕ}
    (h : ∀ i < n, bytes i = bytes' i) : assemble m bytes n = assemble m bytes' n := by
  induction n with
  | zero => rfl
  | succ n ih => rw [assemble, assemble, ih fun i hi => h i (by omega), h n (by omega)]

theorem getLsbD_byteAt {w : BitVec m} {i k : ℕ} (hk : k < 8) (hm : 8 * i + k < m) :
    (byteAt w i).getLsbD k = w.getLsbD (8 * i + k) := by
  have hnot : ¬m ≤ k := by omega
  simp [byteAt, BitVec.getLsbD_sshiftRight, hk, hm, hnot]

/-- Each bit of the word is the bit of the byte in its place. -/
theorem getLsbD_assemble (bytes : ℕ → BitVec 8) (n : ℕ) {j : ℕ} (hj : j < m) :
    (assemble m bytes n).getLsbD j =
      (decide (j < 8 * n) && (bytes (j / 8)).getLsbD (j % 8)) := by
  induction n with
  | zero => simp [assemble]
  | succ n ih =>
    rw [assemble, BitVec.getLsbD_or, ih, BitVec.getLsbD_shiftLeft, BitVec.getLsbD_setWidth]
    by_cases hbelow : j < 8 * n
    · have hnext : j < 8 * (n + 1) := by omega
      simp [hbelow, hnext]
    · by_cases hhere : j < 8 * (n + 1)
      · -- the bit lies in the byte that is added
        have hquotient : j / 8 = n := by omega
        have hremainder : j - 8 * n = j % 8 := by omega
        have hwidth : j % 8 < m := by omega
        simp [hj, hbelow, hhere, hquotient, hremainder, hwidth]
      · have hbeyond : (bytes n).getLsbD (j - 8 * n) = false :=
          BitVec.getLsbD_of_ge _ _ (by omega)
        simp [hbelow, hhere, hbeyond]

/-- The bytes of a word put together are the word. -/
theorem assemble_byteAt {n : ℕ} (hm : m = 8 * n) (w : BitVec m) :
    assemble m (byteAt w) n = w := by
  refine BitVec.eq_of_getLsbD_eq fun j hj => ?_
  have hplace : 8 * (j / 8) + j % 8 = j := by omega
  rw [getLsbD_assemble _ _ hj, getLsbD_byteAt (by omega) (by omega), hplace]
  simp [show j < 8 * n by omega]

/-- A word put together has the bytes it was put together from. -/
theorem byteAt_assemble {n : ℕ} (hm : m = 8 * n) (bytes : ℕ → BitVec 8) {i : ℕ} (hi : i < n) :
    byteAt (assemble m bytes n) i = bytes i := by
  refine BitVec.eq_of_getLsbD_eq fun k hk => ?_
  have hquotient : (8 * i + k) / 8 = i := by omega
  have hremainder : (8 * i + k) % 8 = k := by omega
  rw [getLsbD_byteAt hk (by omega), getLsbD_assemble _ _ (by omega), hquotient, hremainder]
  simp [show 8 * i + k < 8 * n by omega]

/-- The first bytes of a word, lowest first. -/
def leBytes (n : ℕ) (w : BitVec m) : List UInt8 := (List.range n).map fun i => ⟨byteAt w i⟩

/-- The word in the first bytes, lowest first. -/
def leWord (m n : ℕ) (bytes : List UInt8) : BitVec m :=
  assemble m (fun i => (bytes.getD i 0).toBitVec) n

theorem getD_leBytes (w : BitVec m) {n i : ℕ} (hi : i < n) :
    ((leBytes n w).getD i 0).toBitVec = byteAt w i := by
  simp [leBytes, List.getD_eq_getElem?_getD, hi]

/-- The word is that in its bytes. -/
theorem leWord_leBytes {n : ℕ} (hm : m = 8 * n) (w : BitVec m) :
    leWord m n (leBytes n w) = w := by
  rw [leWord, assemble_congr fun i hi => getD_leBytes w hi]
  exact assemble_byteAt hm w

/-- The bytes are those of their word. -/
theorem leBytes_leWord {n : ℕ} (hm : m = 8 * n) {bytes : List UInt8} (hlen : bytes.length = n) :
    leBytes n (leWord m n bytes) = bytes := by
  refine List.ext_getElem (by simp [leBytes, hlen]) fun i h1 h2 => ?_
  have hi : i < n := by omega
  simp only [leBytes, List.getElem_map, List.getElem_range]
  rw [leWord, byteAt_assemble hm _ hi, List.getD_eq_getElem?_getD, List.getElem?_eq_getElem h2]
  rfl

end CislunarDtn.WordBytes
