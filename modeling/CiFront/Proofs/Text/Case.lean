import CiFront.Text.Blank
import CiFront.Text.Case
import Mathlib
/-!
# Letters, their cases and blanks

A text without capitals is its own lower case, and the upper case of a text does not depend on the case
that the text is in. No letter and no digit is a blank.
-/

namespace CiFront.Text

variable {s : List Char}

theorem lower_eq_self (h : ∀ c ∈ s, c.isUpper = false) : lower s = s :=
  calc s.map Char.toLower = s.map id :=
        List.map_congr_left fun c hc => Char.toLower_eq_of_not_isUpper (Bool.eq_false_iff.mp (h c hc))
    _ = s := List.map_id s

theorem upper_eq_self (h : ∀ c ∈ s, c.isLower = false) : upper s = s :=
  calc s.map Char.toUpper = s.map id :=
        List.map_congr_left fun c hc => Char.toUpper_eq_of_not_isLower (Bool.eq_false_iff.mp (h c hc))
    _ = s := List.map_id s

theorem upper_lower (s : List Char) : upper (lower s) = upper s := by
  rw [upper, lower, List.map_map, upper]
  exact List.map_congr_left fun c _ => Char.toUpper_toLower_eq_toUpper c

theorem isLower_eq_false_of_isDigit {c : Char} (h : c.isDigit = true) : c.isLower = false := by
  rw [← Bool.not_eq_true]
  simp only [Char.isDigit, isLower_eq, Bool.and_eq_true, decide_eq_true_eq,
    UInt32.le_iff_toNat_le] at h ⊢
  simp at h ⊢
  omega

theorem toNat_lt_of_isUpper {c : Char} (h : c.isUpper = true) : c.toNat < 128 := by
  simp only [isUpper_eq, decide_eq_true_eq, UInt32.le_iff_toNat_le] at h
  simp at h
  omega

theorem isBlank_eq_false_of_isAlphanum {c : Char} (h : c.isAlphanum = true) : isBlank c = false := by
  rw [← Bool.not_eq_true]
  intro hblank
  simp only [isBlank, Bool.or_eq_true, Bool.and_eq_true, decide_eq_true_eq, beq_iff_eq,
    ← Char.toNat_inj, Char.le_def, UInt32.le_iff_toNat_le] at hblank
  simp only [Char.isAlphanum, Char.isDigit, isAlpha_eq, isUpper_eq, isLower_eq, Bool.or_eq_true,
    Bool.and_eq_true, decide_eq_true_eq, UInt32.le_iff_toNat_le] at h
  simp only [Char.toNat] at hblank
  simp at h hblank
  omega

end CiFront.Text
