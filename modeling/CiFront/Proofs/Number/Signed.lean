import CiFront.Proofs.Number.Decimal
import CiFront.Proofs.Number.Numeral
/-!
# Signed numerals

A signed numeral is a numeral that may stand behind one sign. Signed 64-bit integers are read from exactly
the signed numerals of the integers in their range, of any length. The reader leaves the range with the
first digit that does, and rightly so: the digits behind it only lead further away from zero.
-/

namespace CiFront.Decimal

variable {s : List Char} {z : Int}

/-- Whether a text is a numeral of an integer, behind a sign or not. -/
inductive DenotesInt : List Char → Int → Prop
  | plain {digits n} (h : Denotes digits n) : DenotesInt digits n
  | plus {digits n} (h : Denotes digits n) : DenotesInt ('+' :: digits) n
  | minus {digits n} (h : Denotes digits n) : DenotesInt ('-' :: digits) (-n)

theorem not_denotes_cons {c : Char} (hc : ¬ IsDigit c) {n : Nat} : ¬ Denotes (c :: s) n :=
  fun h => hc (h.2.1 c List.mem_cons_self)

theorem denotesInt_plus_iff : DenotesInt ('+' :: s) z ↔ ∃ n : Nat, Denotes s n ∧ signed false n = z := by
  constructor
  · rintro (h | h)
    · exact absurd h (not_denotes_cons (by decide))
    · exact ⟨_, h, rfl⟩
  · rintro ⟨n, h, rfl⟩
    exact .plus h

theorem denotesInt_minus_iff : DenotesInt ('-' :: s) z ↔ ∃ n : Nat, Denotes s n ∧ signed true n = z := by
  constructor
  · rintro (h | h | h)
    · exact absurd h (not_denotes_cons (by decide))
    · exact ⟨_, h, rfl⟩
  · rintro ⟨n, h, rfl⟩
    exact .minus h

theorem denotesInt_plain_iff (hplus : s.head? ≠ some '+') (hminus : s.head? ≠ some '-') :
    DenotesInt s z ↔ ∃ n : Nat, Denotes s n ∧ signed false n = z := by
  constructor
  · rintro (h | h | h)
    · exact ⟨_, h, rfl⟩
    · exact absurd rfl hplus
    · exact absurd rfl hminus
  · rintro ⟨n, h, rfl⟩
    exact .plain h

theorem DenotesInt.ne_nil (h : DenotesInt s z) : s ≠ [] := by
  cases h with
  | plain h => exact h.1
  | plus | minus => exact List.cons_ne_nil _ _

theorem DenotesInt.unique {other : Int} (h : DenotesInt s z) (hother : DenotesInt s other) :
    z = other := by
  cases h with
  | plain h =>
    cases hother with
    | plain hother => rw [← h.2.2, ← hother.2.2]
    | plus | minus => exact absurd h (not_denotes_cons (by decide))
  | plus h =>
    obtain ⟨n, hn, rfl⟩ := denotesInt_plus_iff.mp hother
    rw [← h.2.2, ← hn.2.2, signed, if_neg Bool.false_ne_true]
  | minus h =>
    obtain ⟨n, hn, rfl⟩ := denotesInt_minus_iff.mp hother
    rw [← h.2.2, ← hn.2.2, signed, if_pos rfl]

theorem DenotesInt.forall_mem (h : DenotesInt s z) : ∀ c ∈ s, IsDigit c ∨ c = '+' ∨ c = '-' := by
  cases h with
  | plain h => exact fun c hc => .inl (h.2.1 c hc)
  | plus h => exact List.forall_mem_cons.mpr ⟨.inr (.inl rfl), fun c hc => .inl (h.2.1 c hc)⟩
  | minus h => exact List.forall_mem_cons.mpr ⟨.inr (.inr rfl), fun c hc => .inl (h.2.1 c hc)⟩

theorem denotesInt_signedDigits (z : Int) : DenotesInt (signedDigits z) z := by
  have hdigits : Denotes (digits z.natAbs) z.natAbs := by
    have hfrom := natFrom?_eq_some_iff.mp (natFrom?_digits z.natAbs)
    rw [Nat.zero_mul, Nat.zero_add] at hfrom
    exact ⟨digits_ne_nil _, hfrom⟩
  rw [signedDigits]
  split
  · have hminus := DenotesInt.minus hdigits
    rwa [show -(z.natAbs : Int) = z by omega] at hminus
  · have hplain := DenotesInt.plain hdigits
    rwa [show (z.natAbs : Int) = z by omega] at hplain

/-! ### The reader -/

/-- Digits on top of a magnitude in the range are read if what they come to is in the range too. -/
theorem readDigits_eq_ok_iff {negative : Bool} {n : Nat} {k : Int64}
    (hlow : Int64.minValue.toInt ≤ signed negative n) (hhigh : signed negative n ≤ Int64.maxValue.toInt) :
    readDigits negative (signed negative n) s = .ok k
      ↔ ∃ m, natFrom? n s = some m ∧ signed negative m = k.toInt := by
  constructor
  · intro h
    -- That the value so far is in the range holds again after every digit that does not end the reading.
    induction s generalizing n with
    | nil =>
      cases h
      have hround : (Int64.ofInt (signed negative n)).toInt = signed negative n :=
        Int64.toInt_ofInt_of_le hlow (Int.lt_add_one_of_le hhigh)
      exact ⟨n, rfl, hround.symm⟩
    | cons c s ih =>
      rw [readDigits] at h
      split at h
      next => cases h
      next d hdigit =>
        rw [signed_step] at h
        dsimp only at h
        split at h
        next => cases h
        next hlow' =>
          split at h
          next => cases h
          next hhigh' =>
            rw [natFrom?, hdigit]
            exact ih (Int.not_lt.mp hlow') (Int.not_lt.mp hhigh') h
  · rintro ⟨m, hm, hk⟩
    have hread := readDigits_of_natFrom? negative hm (hk ▸ k.minValue_le_toInt) (hk ▸ k.toInt_le)
    rwa [hk, Int64.ofInt_toInt] at hread

theorem readDigits_zero_eq_ok_iff {negative : Bool} {k : Int64} (hne : s ≠ []) :
    readDigits negative 0 s = .ok k ↔ ∃ n, Denotes s n ∧ signed negative n = k.toInt := by
  have hzero : signed negative 0 = 0 := by cases negative <;> rfl
  have hnat : nat? s = natFrom? 0 s := by
    cases s with
    | nil => exact absurd rfl hne
    | cons c s => rfl
  have hread : readDigits negative (signed negative 0) s = .ok k
      ↔ ∃ n, natFrom? 0 s = some n ∧ signed negative n = k.toInt :=
    readDigits_eq_ok_iff (by rw [hzero]; decide) (by rw [hzero]; decide)
  rw [hzero] at hread
  simp only [hread, ← hnat, nat?_eq_some_iff]

theorem readInt64_plus_eq_ok_iff {k : Int64} :
    readInt64 ('+' :: s) = .ok k ↔ ∃ n, Denotes s n ∧ signed false n = k.toInt := by
  cases s with
  | nil => simp [readInt64, Denotes]
  | cons c s => exact readDigits_zero_eq_ok_iff (List.cons_ne_nil c s)

theorem readInt64_minus_eq_ok_iff {k : Int64} :
    readInt64 ('-' :: s) = .ok k ↔ ∃ n, Denotes s n ∧ signed true n = k.toInt := by
  cases s with
  | nil => simp [readInt64, Denotes]
  | cons c s => exact readDigits_zero_eq_ok_iff (List.cons_ne_nil c s)

/-- A 64-bit integer is read from its signed numerals and from no other text. -/
theorem readInt64_eq_ok_iff {k : Int64} : readInt64 s = .ok k ↔ DenotesInt s k.toInt := by
  cases s with
  | nil => exact iff_of_false nofun fun h => h.ne_nil rfl
  | cons c s =>
    by_cases hplus : c = '+'
    · rw [hplus, readInt64_plus_eq_ok_iff, denotesInt_plus_iff]
    by_cases hminus : c = '-'
    · rw [hminus, readInt64_minus_eq_ok_iff, denotesInt_minus_iff]
    have hplus' : (c :: s).head? ≠ some '+' := fun h => hplus (Option.some.inj h)
    have hminus' : (c :: s).head? ≠ some '-' := fun h => hminus (Option.some.inj h)
    rw [readInt64_plain (List.cons_ne_nil c s) hplus' hminus',
      readDigits_zero_eq_ok_iff (List.cons_ne_nil c s), denotesInt_plain_iff hplus' hminus']

end CiFront.Decimal
