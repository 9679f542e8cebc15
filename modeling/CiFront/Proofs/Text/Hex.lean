import CiFront.Proofs.Text.Utf16
import Mathlib.Algebra.Group.Nat.Defs
import Mathlib.Data.Bool.AllAny
/-!
# What hexadecimal digits are read and written

Reading accepts the sixteen digits in both letter cases and nothing else. The digits that are written of a
number are read back as the number.
-/

namespace CiFront.Text.Hex

/-! ### Reading -/

theorem le_of_digit? {c : Char} {d : Nat} (h : digit? c = some d) : c ≤ 'f' := by
  rw [digit?] at h
  split at h
  next hdigit => exact Char.le_trans hdigit.2 (by decide)
  next =>
    split at h
    next hlower => exact hlower.2
    next =>
      split at h
      next hupper => exact Char.le_trans hupper.2 (by decide)
      next => cases h

theorem mem_alphabet_of_digit? {c : Char} {d : Nat} (h : digit? c = some d) : c ∈ alphabet := by
  have hall : ∀ n ≤ 'f'.toNat, (digit? (Char.ofNat n)).isSome = true → Char.ofNat n ∈ alphabet := by
    decide
  have hc := hall c.toNat (le_of_digit? h)
  rw [Char.ofNat_toNat, h] at hc
  exact hc rfl

theorem exists_digit?_eq_some {c : Char} (h : c ∈ alphabet) : ∃ d < 16, digit? c = some d := by
  have hall : ∀ c ∈ alphabet, ∃ d, d < 16 ∧ digit? c = some d :=
    List.all_iff_forall_prop.mp (by decide)
  exact hall c h

theorem forall_mem_alphabet_of_valueFrom? {s : List Char} {m n : Nat}
    (h : valueFrom? m s = some n) : ∀ c ∈ s, c ∈ alphabet := by
  induction s generalizing m with
  | nil => exact fun c hc => nomatch hc
  | cons c s ih =>
    rw [valueFrom?] at h
    cases hdigit : digit? c with
    | none =>
      rw [hdigit] at h
      cases h
    | some d =>
      rw [hdigit] at h
      exact List.forall_mem_cons.mpr ⟨mem_alphabet_of_digit? hdigit, ih h⟩

theorem forall_mem_alphabet_of_value? {s : List Char} {n : Nat} (h : value? s = some n) :
    ∀ c ∈ s, c ∈ alphabet :=
  forall_mem_alphabet_of_valueFrom? h

/-- Digits on top of a number give a number that has as many digits more. -/
theorem exists_valueFrom?_eq_some {s : List Char} (h : ∀ c ∈ s, c ∈ alphabet) (m : Nat) :
    ∃ n, valueFrom? m s = some n ∧ n < (m + 1) * 16 ^ s.length := by
  induction s generalizing m with
  | nil => exact ⟨m, rfl, by simp⟩
  | cons c s ih =>
    obtain ⟨hc, hs⟩ := List.forall_mem_cons.mp h
    obtain ⟨d, hlt, hdigit⟩ := exists_digit?_eq_some hc
    obtain ⟨n, hn, hbound⟩ := ih hs (16 * m + d)
    refine ⟨n, ?_, ?_⟩
    · rw [valueFrom?, hdigit]
      exact hn
    · have hle : 16 * m + d + 1 ≤ (m + 1) * 16 := by omega
      calc n < (16 * m + d + 1) * 16 ^ s.length := hbound
        _ ≤ (m + 1) * 16 * 16 ^ s.length := Nat.mul_le_mul_right _ hle
        _ = (m + 1) * 16 ^ (s.length + 1) := by rw [pow_succ', mul_assoc]

theorem exists_value?_eq_some {s : List Char} (h : ∀ c ∈ s, c ∈ alphabet) :
    ∃ n, value? s = some n ∧ n < 16 ^ s.length := by
  obtain ⟨n, hn, hlt⟩ := exists_valueFrom?_eq_some h 0
  exact ⟨n, hn, by simpa using hlt⟩

/-! ### Writing -/

theorem digitChar_mem_alphabet {n : Nat} (h : n < 16) : digitChar n ∈ alphabet := by
  have hall : ∀ n < 16, digitChar n ∈ alphabet := by decide
  exact hall n h

theorem digit?_digitChar {n : Nat} (h : n < 16) : digit? (digitChar n) = some n := by
  have hall : ∀ n < 16, digit? (digitChar n) = some n := by decide
  exact hall n h

theorem forall_mem_digits (n : Nat) : ∀ c ∈ digits n, c ∈ alphabet := by
  fun_induction digits n with
  | case1 n hlt => exact List.forall_mem_singleton.mpr (digitChar_mem_alphabet hlt)
  | case2 n hlt ih =>
    intro c hc
    rcases List.mem_append.mp hc with hfront | hlast
    · exact ih c hfront
    · obtain rfl := List.mem_singleton.mp hlast
      exact digitChar_mem_alphabet (Nat.mod_lt n (by decide))

theorem valueFrom?_append {s t : List Char} {m n : Nat} (h : valueFrom? m s = some n) :
    valueFrom? m (s ++ t) = valueFrom? n t := by
  induction s generalizing m with
  | nil =>
    cases h
    rfl
  | cons c s ih =>
    rw [valueFrom?] at h
    rw [List.cons_append, valueFrom?]
    cases hdigit : digit? c with
    | none =>
      rw [hdigit] at h
      cases h
    | some d =>
      rw [hdigit] at h
      exact ih h

theorem value?_digits (n : Nat) : value? (digits n) = some n := by
  fun_induction digits n with
  | case1 n hlt => simp only [value?, valueFrom?, digit?_digitChar hlt, Nat.mul_zero, Nat.zero_add]
  | case2 n hlt ih =>
    have hlast : digit? (digitChar (n % 16)) = some (n % 16) :=
      digit?_digitChar (Nat.mod_lt n (by decide))
    simp only [value?, valueFrom?_append ih, valueFrom?, hlast, Nat.div_add_mod]

end CiFront.Text.Hex
