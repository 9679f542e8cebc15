import CiFront.Number.Decimal
import CiFront.Proofs.Text.Trim
import Mathlib.Tactic.IntervalCases
/-!
# Decimal texts are read back

The digits of a number are read back as that number, and so is the text of every signed 64-bit
integer, the least one included, whose digits alone do not fit the range.
-/

namespace CiFront.Decimal

/-! ### Digits -/

theorem digit?_digitChar {d : Nat} (h : d < 10) : digit? (digitChar d) = some d := by
  interval_cases d <;> decide

theorem isBlank_digitChar {d : Nat} (h : d < 10) : Text.isBlank (digitChar d) = false := by
  interval_cases d <;> decide

/-- A property of every digit is a property of everything that a number is written with. -/
theorem forall_mem_digits {P : Char → Prop} (hdigit : ∀ d < 10, P (digitChar d)) (n : Nat) :
    ∀ c ∈ digits n, P c := by
  induction n using digits.induct with
  | case1 n hsmall =>
    rw [digits, if_pos hsmall]
    intro c hc
    rw [List.mem_singleton.mp hc]
    exact hdigit n hsmall
  | case2 n hlarge ih =>
    rw [digits, if_neg hlarge]
    intro c hc
    rcases List.mem_append.mp hc with hc | hc
    · exact ih c hc
    · rw [List.mem_singleton.mp hc]
      exact hdigit _ (Nat.mod_lt n (by decide))

theorem digits_ne_nil (n : Nat) : digits n ≠ [] := by
  rw [digits]
  split <;> simp

theorem natFrom?_append (n : Nat) (s t : List Char) :
    natFrom? n (s ++ t) = (natFrom? n s).bind fun m => natFrom? m t := by
  induction s generalizing n with
  | nil => rfl
  | cons c s ih =>
    rw [List.cons_append, natFrom?, natFrom?]
    cases digit? c with
    | none => rfl
    | some d => exact ih (10 * n + d)

theorem natFrom?_singleton {d : Nat} (h : d < 10) (n : Nat) :
    natFrom? n [digitChar d] = some (10 * n + d) := by
  rw [natFrom?, digit?_digitChar h]
  rfl

theorem natFrom?_digits (n : Nat) : natFrom? 0 (digits n) = some n := by
  induction n using digits.induct with
  | case1 n hsmall =>
    rw [digits, if_pos hsmall, natFrom?_singleton hsmall, Nat.mul_zero, Nat.zero_add]
  | case2 n hlarge ih =>
    rw [digits, if_neg hlarge, natFrom?_append, ih, Option.bind_some,
      natFrom?_singleton (Nat.mod_lt n (by decide)), Nat.div_add_mod]

theorem le_of_natFrom? {n m : Nat} {s : List Char} (h : natFrom? n s = some m) : n ≤ m := by
  induction s generalizing n with
  | nil => exact (Option.some.inj h).le
  | cons c s ih =>
    rw [natFrom?] at h
    cases hdigit : digit? c with
    | none => rw [hdigit] at h; cases h
    | some d =>
      rw [hdigit] at h
      have := ih h
      omega

/-! ### Signed integers -/

/-- A magnitude on the side of zero that a sign names. -/
def signed (negative : Bool) (n : Nat) : Int := if negative then -n else n

theorem signed_step (negative : Bool) (n d : Nat) :
    (if negative then 10 * signed negative n - d else 10 * signed negative n + d)
      = signed negative (10 * n + d) := by
  cases negative <;> simp only [signed, Bool.false_eq_true, if_true, if_false] <;> omega

/-- Digits that stand for a magnitude within the range are read to their end. -/
theorem readDigits_of_natFrom? (negative : Bool) {n m : Nat} {s : List Char}
    (h : natFrom? n s = some m) (hlow : Int64.minValue.toInt ≤ signed negative m)
    (hhigh : signed negative m ≤ Int64.maxValue.toInt) :
    readDigits negative (signed negative n) s = .ok (Int64.ofInt (signed negative m)) := by
  induction s generalizing n with
  | nil => rw [Option.some.inj h, readDigits]
  | cons c s ih =>
    rw [natFrom?] at h
    cases hdigit : digit? c with
    | none => rw [hdigit] at h; cases h
    | some d =>
      rw [hdigit] at h
      have hle : 10 * n + d ≤ m := le_of_natFrom? h
      have hinside : Int64.minValue.toInt ≤ signed negative (10 * n + d)
          ∧ signed negative (10 * n + d) ≤ Int64.maxValue.toInt := by
        have hbounds : Int64.minValue.toInt ≤ 0 ∧ 0 ≤ Int64.maxValue.toInt := by decide
        cases negative <;> simp only [signed, Bool.false_eq_true, if_true, if_false] at * <;> omega
      rw [readDigits, hdigit]
      dsimp only
      rw [signed_step, if_neg (Int.not_lt.mpr hinside.1), if_neg (Int.not_lt.mpr hinside.2)]
      exact ih h

theorem readInt64_plain {s : List Char} (hne : s ≠ []) (hplus : s.head? ≠ some '+')
    (hminus : s.head? ≠ some '-') : readInt64 s = readDigits false 0 s := by
  unfold readInt64
  split <;> simp_all

theorem readInt64_minus {s : List Char} (hne : s ≠ []) :
    readInt64 ('-' :: s) = readDigits true 0 s := by
  cases s with
  | nil => exact absurd rfl hne
  | cons c s => rfl

theorem head?_digits_ne {c : Char} (hdigit : ∀ d < 10, digitChar d ≠ c) (n : Nat) :
    (digits n).head? ≠ some c := by
  intro hhead
  exact forall_mem_digits (P := (· ≠ c)) hdigit n c (List.mem_of_head? hhead) rfl

/-- The digits of a 64-bit integer are read on its side of zero as that integer. -/
theorem readDigits_digits {negative : Bool} {n : Int64}
    (hsigned : signed negative n.toInt.natAbs = n.toInt) :
    readDigits negative 0 (digits n.toInt.natAbs) = .ok n := by
  have hread := readDigits_of_natFrom? negative (natFrom?_digits n.toInt.natAbs)
    (by rw [hsigned]; exact n.minValue_le_toInt) (by rw [hsigned]; exact n.toInt_le)
  rw [hsigned, Int64.ofInt_toInt] at hread
  rw [← hread]
  cases negative <;> rfl

/-- The text of a 64-bit integer is read as that integer. -/
theorem readInt64_signedDigits (n : Int64) : readInt64 (signedDigits n.toInt) = .ok n := by
  rw [signedDigits]
  split
  · rename_i hnegative
    rw [readInt64_minus (digits_ne_nil _)]
    apply readDigits_digits
    rw [signed, if_pos rfl]
    omega
  · rename_i hpositive
    rw [readInt64_plain (digits_ne_nil _) (head?_digits_ne (by decide) _)
      (head?_digits_ne (by decide) _)]
    apply readDigits_digits
    rw [signed, if_neg Bool.false_ne_true]
    omega

theorem forall_mem_signedDigits {P : Char → Prop} (hminus : P '-')
    (hdigit : ∀ d < 10, P (digitChar d)) (n : Int) : ∀ c ∈ signedDigits n, P c := by
  have hdigits := forall_mem_digits hdigit n.natAbs
  rw [signedDigits]
  split
  · exact List.forall_mem_cons.mpr ⟨hminus, hdigits⟩
  · exact hdigits

theorem trim_signedDigits (n : Int) : Text.trim (signedDigits n) = signedDigits n :=
  Text.trim_eq_self_of_forall
    (forall_mem_signedDigits (P := (Text.isBlank · = false)) (by decide) @isBlank_digitChar n)

end CiFront.Decimal
