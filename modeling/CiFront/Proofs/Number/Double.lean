import CiFront.Number.Double
import CiFront.Proofs.Number.Signed
/-!
# The text of a double is no integer's

However a double is laid out, its text holds a point or an exponent. No signed numeral has either, so a
double never passes for an integer, not even one without a fraction.
-/

namespace CiFront.Double

/-- Whether a text holds a point or the mark of an exponent. -/
def HasPointOrExponent (s : List Char) : Prop :=
  '.' ∈ s ∨ 'e' ∈ s

theorem hasPointOrExponent_layout (digits : List Char) (power : Int) :
    HasPointOrExponent (layout digits power) := by
  unfold layout
  simp only [HasPointOrExponent]
  split_ifs <;> simp

theorem HasPointOrExponent.cons {s : List Char} (h : HasPointOrExponent s) (c : Char) :
    HasPointOrExponent (c :: s) :=
  h.imp (List.mem_cons_of_mem c) (List.mem_cons_of_mem c)

theorem hasPointOrExponent_chars (x : Double) : HasPointOrExponent x.chars := by
  unfold chars
  extract_lets body
  have hbody : HasPointOrExponent body := by
    unfold body
    split
    · exact .inl (by decide)
    · obtain ⟨digits, power⟩ := shortest x.significand x.exponent
      exact hasPointOrExponent_layout (Decimal.digits digits) power
  split
  · exact hbody.cons '-'
  · exact hbody

theorem hasPointOrExponent_text (x : Double) : HasPointOrExponent x.text.toList := by
  rw [text, String.toList_ofList]
  exact hasPointOrExponent_chars x

theorem HasPointOrExponent.not_denotesInt_trim {s : List Char} (hs : HasPointOrExponent s) (z : Int) :
    ¬ Decimal.DenotesInt (Text.trim s) z := by
  intro h
  obtain hpoint | hexponent := hs
  · exact absurd (h.forall_mem _ ((Text.mem_trim_iff rfl).mpr hpoint)) (by decide)
  · exact absurd (h.forall_mem _ ((Text.mem_trim_iff rfl).mpr hexponent)) (by decide)

end CiFront.Double
