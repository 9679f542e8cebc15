import CiFront.Text.Hex
import CiFront.Text.Utf16
/-!
# Characters as escaped code units

The code units of a character stand for that character alone, and four hexadecimal digits in either
case are read as the unit that they spell. Units that are no text come to a half that stands alone.
-/

namespace CiFront.Text

/-! ### Hexadecimal digits -/

namespace Hex

/-- A hexadecimal digit of a value, in either case. -/
def Spells (digit : Nat) (c : Char) : Prop :=
  digit < 16 ∧ (c = digit.digitChar ∨ c = digit.digitChar.toUpper)

instance (digit : Nat) (c : Char) : Decidable (Spells digit c) :=
  inferInstanceAs (Decidable (_ ∧ _))

theorem Spells.digit?_eq {digit : Nat} {c : Char} (h : Spells digit c) : digit? c = some digit := by
  have hdigits : ∀ digit < 16, digit? digit.digitChar = some digit
      ∧ digit? digit.digitChar.toUpper = some digit := by
    decide
  rcases h with ⟨hlt, rfl | rfl⟩
  · exact (hdigits digit hlt).1
  · exact (hdigits digit hlt).2

/-- The characters that are hexadecimal digits. -/
def alphabet : List Char :=
  "0123456789abcdefABCDEF".toList

theorem Spells.mem_alphabet {digit : Nat} {c : Char} (h : Spells digit c) : c ∈ alphabet := by
  have hdigits : ∀ digit < 16, digit.digitChar ∈ alphabet ∧ digit.digitChar.toUpper ∈ alphabet := by
    decide
  rcases h with ⟨hlt, rfl | rfl⟩
  · exact (hdigits digit hlt).1
  · exact (hdigits digit hlt).2

end Hex

/-! ### Code units -/

namespace Utf16

/-- The code units of a character. -/
def units (c : Char) : List Nat :=
  if c.toNat < 0x10000 then [c.toNat]
  else [0xD800 + (c.toNat - 0x10000) / 0x400, 0xDC00 + (c.toNat - 0x10000) % 0x400]

/-- Four hexadecimal digits for a code unit, behind `\u`. -/
inductive Escapes (unit : Nat) : List Char → Prop
  | mk {a b c d : Char} (ha : Hex.Spells (unit / 0x1000) a) (hb : Hex.Spells (unit / 0x100 % 0x10) b)
      (hc : Hex.Spells (unit / 0x10 % 0x10) c) (hd : Hex.Spells (unit % 0x10) d) :
      Escapes unit ['\\', 'u', a, b, c, d]

theorem Escapes.exists_eq {unit : Nat} {s : List Char} (h : Escapes unit s) :
    ∃ a b c d, s = ['\\', 'u', a, b, c, d] := by
  cases h with
  | mk _ _ _ _ => exact ⟨_, _, _, _, rfl⟩

theorem Escapes.lt {unit : Nat} {s : List Char} (h : Escapes unit s) : unit < 0x10000 := by
  cases h with
  | mk ha _ _ _ =>
    have hfirst := ha.1
    omega

theorem char?_toNat (c : Char) : char? c.toNat = some c := by
  have hvalid : c.toNat.isValidChar := c.valid
  rw [char?, if_pos hvalid, Char.ofNat_toNat]

theorem isHigh_toNat (c : Char) : isHigh c.toNat = false := by
  have hvalid : c.toNat < 0xD800 ∨ 0xDFFF < c.toNat ∧ c.toNat < 0x110000 := c.valid
  rw [isHigh, Bool.and_eq_false_iff, decide_eq_false_iff_not, decide_eq_false_iff_not]
  omega

/-- The two halves of a character beyond the basic plane are told apart and stand for it together.
-/
theorem pair?_units {c : Char} {high low : Nat} (h : units c = [high, low]) :
    isHigh high = true ∧ isLow low = true ∧ pair? high low = some c := by
  have hvalid : c.toNat < 0xD800 ∨ 0xDFFF < c.toNat ∧ c.toNat < 0x110000 := c.valid
  rw [units] at h
  split at h
  · cases h
  · rename_i hlarge
    simp only [List.cons.injEq, and_true] at h
    obtain ⟨rfl, rfl⟩ := h
    have hpoint : 0x10000 + (0xD800 + (c.toNat - 0x10000) / 0x400) % 0x400 * 0x400
        + (0xDC00 + (c.toNat - 0x10000) % 0x400) % 0x400 = c.toNat := by
      omega
    refine ⟨?_, ?_, ?_⟩
    · simp only [isHigh, Bool.and_eq_true, decide_eq_true_eq]
      omega
    · simp only [isLow, Bool.and_eq_true, decide_eq_true_eq]
      omega
    · rw [pair?, hpoint, char?_toNat]

/-- A character has one code unit, which is its code point, or two. -/
theorem units_eq (c : Char) : units c = [c.toNat] ∨ ∃ high low, units c = [high, low] := by
  rw [units]
  split
  · exact .inl rfl
  · exact .inr ⟨_, _, rfl⟩

theorem Escapes.value?_eq {unit : Nat} {a b c d : Char} (h : Escapes unit ['\\', 'u', a, b, c, d]) :
    Hex.value? [a, b, c, d] = some unit := by
  cases h with
  | mk ha hb hc hd =>
    simp only [Hex.value?, Hex.valueFrom?, ha.digit?_eq, hb.digit?_eq, hc.digit?_eq, hd.digit?_eq]
    congr 1
    omega

/-! ### Texts -/

/-- The code units of a text, character by character. -/
def encode (text : List Char) : List Nat :=
  text.flatMap units

theorem exists_toNat_eq {point : Nat} (h : point.isValidChar) : ∃ c : Char, c.toNat = point := by
  refine ⟨Char.ofNat point, ?_⟩
  rw [Char.ofNat, dif_pos h]
  rfl

theorem exists_units_eq_singleton {unit : Nat} (hlt : unit < 0x10000) (hhigh : isHigh unit = false)
    (hlow : isLow unit = false) : ∃ c, units c = [unit] := by
  simp only [isHigh, isLow, Bool.and_eq_false_iff, decide_eq_false_iff_not] at hhigh hlow
  have hvalid : unit.isValidChar := by
    rw [Nat.isValidChar]
    omega
  obtain ⟨c, rfl⟩ := exists_toNat_eq hvalid
  refine ⟨c, ?_⟩
  rw [units, if_pos hlt]

/-- Any high half and any low half are together the code units of a character. -/
theorem exists_units_eq_pair {high low : Nat} (hhigh : isHigh high = true) (hlow : isLow low = true) :
    ∃ c, units c = [high, low] := by
  simp only [isHigh, isLow, Bool.and_eq_true, decide_eq_true_eq] at hhigh hlow
  have hvalid : (0x10000 + (high - 0xD800) * 0x400 + (low - 0xDC00)).isValidChar := by
    rw [Nat.isValidChar]
    omega
  obtain ⟨c, hc⟩ := exists_toNat_eq hvalid
  have hlarge : ¬ c.toNat < 0x10000 := by omega
  have hfirst : 0xD800 + (c.toNat - 0x10000) / 0x400 = high := by omega
  have hsecond : 0xDC00 + (c.toNat - 0x10000) % 0x400 = low := by omega
  refine ⟨c, ?_⟩
  rw [units, if_neg hlarge, hfirst, hsecond]

/-- A half that is no part of a pair, in front of what follows it: a high half in front of no low half,
or a low half. -/
def StandsAlone (half : Nat) (after : List Nat) : Prop :=
  isHigh half = true ∧ (∀ next ∈ after.head?, isLow next = false) ∨ isLow half = true

/-- Code units are those of a text, up to a half that stands alone if there is one. -/
def IsTextUpToHalf (us : List Nat) : Prop :=
  ∃ text rest, us = encode text ++ rest ∧ ∀ half after, rest = half :: after → StandsAlone half after

theorem StandsAlone.isTextUpToHalf {half : Nat} {after : List Nat} (h : StandsAlone half after) :
    IsTextUpToHalf (half :: after) := by
  refine ⟨[], half :: after, rfl, ?_⟩
  intro other rest heq
  obtain ⟨rfl, rfl⟩ := List.cons.inj heq
  exact h

theorem IsTextUpToHalf.units_append {rest : List Nat} (h : IsTextUpToHalf rest) (c : Char) :
    IsTextUpToHalf (units c ++ rest) := by
  obtain ⟨text, more, rfl, halone⟩ := h
  refine ⟨c :: text, more, ?_, halone⟩
  rw [encode, encode, List.flatMap_cons, List.append_assoc]

theorem isTextUpToHalf (us : List Nat) (hus : ∀ unit ∈ us, unit < 0x10000) : IsTextUpToHalf us := by
  -- A character takes one unit or two, so the induction is on the number of units.
  induction hlength : us.length using Nat.strongRecOn generalizing us with
  | _ n ih =>
    have hrest {rest : List Nat} (hsuffix : rest <:+ us) (hne : rest.length < us.length) :
        IsTextUpToHalf rest :=
      ih rest.length (hlength ▸ hne) rest (fun unit hunit => hus unit (hsuffix.mem hunit)) rfl
    cases us with
    | nil => exact ⟨[], [], rfl, by simp⟩
    | cons unit rest =>
      cases hlow : isLow unit with
      | true => exact StandsAlone.isTextUpToHalf (.inr hlow)
      | false =>
        cases hhigh : isHigh unit with
        | false =>
          obtain ⟨c, hc⟩ := exists_units_eq_singleton (hus unit List.mem_cons_self) hhigh hlow
          have hmore := (hrest (List.suffix_cons unit rest) (by simp)).units_append c
          rwa [hc] at hmore
        | true =>
          by_cases hpair : ∃ low after, rest = low :: after ∧ isLow low = true
          · obtain ⟨low, after, rfl, hnext⟩ := hpair
            obtain ⟨c, hc⟩ := exists_units_eq_pair hhigh hnext
            have hshort : after.length < (unit :: low :: after).length := by
              rw [List.length_cons, List.length_cons]
              omega
            have hmore := (hrest (List.suffix_append [unit, low] after) hshort).units_append c
            rwa [hc] at hmore
          · refine StandsAlone.isTextUpToHalf (.inl ⟨hhigh, fun next hnext => ?_⟩)
            rw [← Bool.not_eq_true]
            intro hlow
            obtain ⟨tail, rfl⟩ := List.head?_eq_some_iff.mp hnext
            exact hpair ⟨next, tail, rfl, hlow⟩

end Utf16

end CiFront.Text
