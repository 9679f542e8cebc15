/-!
# ASCII letter case and order

Case is folded for the ASCII letters alone; every other character is its own lower and upper case. Two
texts agree up to case if their folded forms are equal. Texts stand in the order of their code points.
-/

namespace CiFront.Text

/-- The text with its ASCII capitals in lower case. -/
def lower (s : List Char) : List Char :=
  s.map Char.toLower

/-- The text with its small ASCII letters in upper case. -/
def upper (s : List Char) : List Char :=
  s.map Char.toUpper

/-- Whether two texts differ in the case of ASCII letters at most. -/
def agreeUpToCase (s t : List Char) : Bool :=
  lower s == lower t

/-- The least text of a list. -/
def least? : List String → Option String
  | [] => none
  | s :: rest =>
    match least? rest with
    | some least => if least < s then some least else some s
    | none => some s

theorem isLower_eq (c : Char) :
    c.isLower = (decide ('a'.val ≤ c.val) && decide (c.val ≤ 'z'.val)) := rfl

theorem isUpper_eq (c : Char) :
    c.isUpper = decide ('A'.val ≤ c.val ∧ c.val ≤ 'Z'.val) := rfl

theorem isAlpha_eq (c : Char) : c.isAlpha = (c.isUpper || c.isLower) := rfl

/-- The ASCII letters. -/
theorem isAlpha_iff {c : Char} :
    c.isAlpha = true ↔ 'A' ≤ c ∧ c ≤ 'Z' ∨ 'a' ≤ c ∧ c ≤ 'z' := by
  simp [isAlpha_eq, isUpper_eq, isLower_eq, Char.le_def]

/-- The ASCII letters and digits. -/
theorem isAlphanum_iff {c : Char} : c.isAlphanum = true
    ↔ 'A' ≤ c ∧ c ≤ 'Z' ∨ 'a' ≤ c ∧ c ≤ 'z' ∨ '0' ≤ c ∧ c ≤ '9' := by
  rw [Char.isAlphanum, Bool.or_eq_true, isAlpha_iff, or_assoc]
  simp [Char.isDigit, Char.le_def]

theorem isLower_toLower {c : Char} (h : c.isAlpha = true) : c.toLower.isLower = true := by
  unfold Char.toLower
  split
  · rename_i hupper
    have hlow := UInt32.le_iff_toNat_le.mp hupper.1
    have hhigh := UInt32.le_iff_toNat_le.mp hupper.2
    simp only [isLower_eq, Bool.and_eq_true, decide_eq_true_eq,
      UInt32.le_iff_toNat_le, UInt32.toNat_add] at *
    simp at hlow hhigh ⊢
    omega
  · rw [isAlpha_eq, Bool.or_eq_true] at h
    rcases h with h | h
    · simp only [isUpper_eq, decide_eq_true_eq] at h
      exact absurd h (by assumption)
    · exact h

theorem isUpper_or_isDigit_toUpper {c : Char} (h : c.isAlphanum = true) :
    (c.toUpper.isUpper || c.toUpper.isDigit) = true := by
  unfold Char.toUpper
  split
  · rename_i hlower
    have hlow := UInt32.le_iff_toNat_le.mp hlower.1
    have hhigh := UInt32.le_iff_toNat_le.mp hlower.2
    simp only [isUpper_eq, Bool.or_eq_true, decide_eq_true_eq, UInt32.le_iff_toNat_le,
      UInt32.toNat_add] at *
    simp at hlow hhigh ⊢
    omega
  · simp only [Char.isAlphanum, isAlpha_eq, Bool.or_eq_true] at h ⊢
    rcases h with (h | h) | h
    · exact Or.inl h
    · simp only [isLower_eq, Bool.and_eq_true, decide_eq_true_eq] at h
      exact absurd h (by assumption)
    · exact Or.inr h

end CiFront.Text
