import CiFront.Number.Decimal
import Mathlib.Data.Nat.Digits.Defs
/-!
# Numerals

A numeral is a run of digits, and denotes the number with these digits in base ten, leading zeros or
not. The readers of natural numbers and of indices accept numerals and nothing else.
-/

namespace CiFront.Decimal

/-- Whether a character is an ASCII digit. -/
def IsDigit (c : Char) : Prop := '0' ≤ c ∧ c ≤ '9'

/-- The number that digits denote, the most significant first. -/
def value (s : List Char) : Nat :=
  Nat.ofDigits 10 (s.reverse.map fun c => c.toNat - '0'.toNat)

/-- Whether a text is a numeral of a number. -/
def Denotes (s : List Char) (n : Nat) : Prop :=
  s ≠ [] ∧ (∀ c ∈ s, IsDigit c) ∧ value s = n

instance (c : Char) : Decidable (IsDigit c) :=
  inferInstanceAs (Decidable (_ ∧ _))

instance (s : List Char) (n : Nat) : Decidable (Denotes s n) :=
  inferInstanceAs (Decidable (_ ∧ _))

theorem digit?_eq_some_iff {c : Char} {d : Nat} :
    digit? c = some d ↔ IsDigit c ∧ c.toNat - '0'.toNat = d := by
  rw [digit?, IsDigit]
  split <;> simp_all

theorem value_cons (c : Char) (s : List Char) :
    value (c :: s) = (c.toNat - '0'.toNat) * 10 ^ s.length + value s := by
  rw [value, List.reverse_cons, List.map_append, Nat.ofDigits_append, List.length_map,
    List.length_reverse, List.map_singleton, Nat.ofDigits_singleton, value, Nat.mul_comm, Nat.add_comm]

theorem natFrom?_eq_some_iff {s : List Char} {m n : Nat} :
    natFrom? m s = some n ↔ (∀ c ∈ s, IsDigit c) ∧ m * 10 ^ s.length + value s = n := by
  induction s generalizing m with
  | nil => simp [natFrom?, value]
  | cons c s ih =>
    rw [List.forall_mem_cons, value_cons, List.length_cons, natFrom?]
    cases hdigit : digit? c with
    | none =>
      have hno : ¬ IsDigit c := by
        intro hc
        rw [digit?_eq_some_iff.mpr ⟨hc, rfl⟩] at hdigit
        cases hdigit
      simp [hno]
    | some d =>
      obtain ⟨hc, rfl⟩ := digit?_eq_some_iff.mp hdigit
      have hvalue : (10 * m + (c.toNat - '0'.toNat)) * 10 ^ s.length + value s
          = m * 10 ^ (s.length + 1) + ((c.toNat - '0'.toNat) * 10 ^ s.length + value s) := by
        ring
      dsimp only
      rw [ih, hvalue]
      simp only [hc, true_and]

theorem nat?_eq_some_iff {s : List Char} {n : Nat} : nat? s = some n ↔ Denotes s n := by
  cases s with
  | nil => simp [nat?, Denotes]
  | cons c s =>
    change natFrom? 0 (c :: s) = some n ↔ _
    rw [natFrom?_eq_some_iff, Denotes, Nat.zero_mul, Nat.zero_add]
    simp

/-- An index is a numeral that may follow one plus sign. -/
theorem index?_eq_some_iff {s : List Char} {n : Nat} :
    index? s = some n ↔ ∃ digits, (s = digits ∨ s = '+' :: digits) ∧ Denotes digits n := by
  have hplus (digits : List Char) : ¬ Denotes ('+' :: digits) n := by
    intro h
    exact absurd (h.2.1 '+' List.mem_cons_self) (by decide)
  constructor
  · intro h
    unfold index? at h
    split at h
    · exact ⟨_, .inr rfl, nat?_eq_some_iff.mp h⟩
    · exact ⟨_, .inl rfl, nat?_eq_some_iff.mp h⟩
  · rintro ⟨digits, rfl | rfl, h⟩
    · rw [index?]
      · exact nat?_eq_some_iff.mpr h
      · rintro rest rfl
        exact hplus rest h
    · exact nat?_eq_some_iff.mpr h

end CiFront.Decimal
