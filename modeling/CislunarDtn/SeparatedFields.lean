import Mathlib.Data.List.Basic

/-!
# Fields joined by separators

Two fields are joined by a separator that may occur in both. If no proper part
of it both begins and ends it, the text leaves exactly one freedom: which
occurrence of the separator is meant.
-/

namespace CislunarDtn.SeparatedFields

variable {α : Type*}

/-- No proper part of the separator both begins and ends it. -/
def Borderless (w : List α) : Prop := ∀ x y z, w = x ++ y → w = y ++ z → y = [] ∨ y = w

/-- The second pair reads a later occurrence of the separator as the division. -/
def Shifted (w s p s' p' : List α) : Prop := ∃ r, s' = s ++ w ++ r ∧ p = r ++ w ++ p'

theorem Shifted.text_eq {w s p s' p' : List α} (h : Shifted w s p s' p') :
    s ++ w ++ p = s' ++ w ++ p' := by
  obtain ⟨r, rfl, rfl⟩ := h
  simp

/-- A first field that goes on ends in another occurrence of the separator. -/
theorem shifted_of_append {w s p m p' : List α} (hw : Borderless w)
    (h : w ++ p = m ++ (w ++ p')) : m = [] ∨ Shifted w s p (s ++ m) p' := by
  rcases List.append_eq_append_iff.mp h with ⟨r, rfl, hp⟩ | ⟨c, hwc, hp⟩
  · exact Or.inr ⟨r, by simp, by simpa using hp⟩
  · -- the separator begins with m and the rest of it begins it again
    have hbegins : ∃ z, w = c ++ z := by
      rcases List.append_eq_append_iff.mp hp with ⟨z, hz, -⟩ | ⟨z, hz, -⟩
      · have hlen := congrArg List.length hwc
        have hlen' := congrArg List.length hz
        simp only [List.length_append] at hlen hlen'
        have hnil : z = [] := List.length_eq_zero_iff.mp (by omega)
        exact ⟨[], by rw [hz, hnil]; simp⟩
      · exact ⟨z, hz⟩
    obtain ⟨z, hz⟩ := hbegins
    rcases hw m c z hwc hz with rfl | hc
    · right
      refine ⟨[], ?_, ?_⟩
      · rw [hwc]
        simp
      · simpa using hp.symm
    · left
      have hlen := congrArg List.length hwc
      rw [hc, List.length_append] at hlen
      exact List.length_eq_zero_iff.mp (by omega)

/-- Two pairs of fields have the same text exactly if they are the same, or one
reads a later occurrence of the separator as the division. -/
theorem joined_eq_iff {w s p s' p' : List α} (hw : Borderless w) :
    s ++ w ++ p = s' ++ w ++ p' ↔
      (s = s' ∧ p = p') ∨ Shifted w s p s' p' ∨ Shifted w s' p' s p := by
  constructor
  · intro h
    rw [List.append_assoc, List.append_assoc] at h
    rcases List.append_eq_append_iff.mp h with ⟨m, rfl, hm⟩ | ⟨m, rfl, hm⟩
    · rcases shifted_of_append (s := s) hw hm with rfl | hshift
      · exact Or.inl ⟨by simp, by simpa using hm⟩
      · exact Or.inr (Or.inl hshift)
    · rcases shifted_of_append (s := s') hw hm with rfl | hshift
      · exact Or.inl ⟨by simp, by simpa using hm.symm⟩
      · exact Or.inr (Or.inr hshift)
  · rintro (⟨rfl, rfl⟩ | hshift | hshift)
    · rfl
    · exact hshift.text_eq
    · exact hshift.text_eq.symm

end CislunarDtn.SeparatedFields
