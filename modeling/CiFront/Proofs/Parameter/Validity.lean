import CiFront.Proofs.Parameter.Replay
/-!
# Valid definitions are the usable ones

A definition is usable if some token has a value and the default is a value that its own exported text
has. Validity is checked on the fields alone, without converting anything: the bounds must leave room
for the default and for at least one number, and there must be a choice. The two notions agree on every
definition whose name is not blank.
-/

namespace CiFront.Parameter

/-- A definition that has a value for some token, and that takes its default, where there is one, back
from the text it is exported as. -/
structure Usable (parameter : Parameter) : Prop where
  accepts : ∃ token value, parameter.convert token = .ok value
  takesDefault : ∀ value, parameter.default? = some value →
    parameter.convert value.payload.exported = .ok value

/-! ### Bounds -/

section

variable {default min max : Option Int64} {n : Int64}

theorem outOfRange?_eq_none_iff :
    outOfRange? min max n = none ↔ (∀ low ∈ min, low ≤ n) ∧ ∀ high ∈ max, n ≤ high := by
  cases min with
  | none =>
    cases max with
    | none => simp [outOfRange?]
    | some high => by_cases hhigh : high < n <;> simp [outOfRange?, hhigh, ← Int64.not_lt]
  | some low =>
    by_cases hlow : n < low
    · simp [outOfRange?, hlow, ← Int64.not_lt]
    · cases max with
      | none => simp [outOfRange?, hlow, ← Int64.not_lt]
      | some high => by_cases hhigh : high < n <;> simp [outOfRange?, hlow, hhigh, ← Int64.not_lt]

/-- Bounds leave room for a number if the lower one is not above the upper one. -/
theorem exists_inRange_iff :
    (∃ n, outOfRange? min max n = none) ↔ ∀ low ∈ min, ∀ high ∈ max, low ≤ high := by
  simp only [outOfRange?_eq_none_iff]
  constructor
  · rintro ⟨n, hlow, hhigh⟩ low hmin high hmax
    exact Int64.le_trans (hlow low hmin) (hhigh high hmax)
  · intro h
    cases min with
    | some low => exact ⟨low, by simp, h low rfl⟩
    | none => exact ⟨max.getD 0, by simp, fun high hmax => by simp [Option.mem_def.mp hmax]⟩

theorem Kind.fault?_integer_eq_none_iff :
    (Kind.integer default min max).fault? = none
      ↔ (∃ n, outOfRange? min max n = none) ∧ ∀ n ∈ default, outOfRange? min max n = none := by
  rw [exists_inRange_iff]
  cases min with
  | none => simp [Kind.fault?]
  | some low =>
    cases max with
    | none => simp [Kind.fault?]
    | some high =>
      by_cases horder : high < low <;> simp [Kind.fault?, horder, ← Int64.not_lt]

theorem Kind.payload_integer_eq_ok_iff {token : String} {payload : Payload} :
    (Kind.integer default min max).payload token = .ok payload
      ↔ ∃ n, Decimal.readInt64 (Text.trim token.toList) = .ok n ∧ outOfRange? min max n = none
        ∧ payload = .integer n := by
  rw [Kind.payload]
  cases hread : Decimal.readInt64 (Text.trim token.toList) with
  | error fault => simp
  | ok n => cases hrange : outOfRange? min max n <;> simp [hrange, eq_comm]

end

/-! ### Kinds -/

/-- The fields of a kind fit together exactly if some token has a payload and the default is the
payload of its exported text. -/
theorem Kind.fault?_eq_none_iff (kind : Kind) :
    kind.fault? = none ↔ (∃ token payload, kind.payload token = .ok payload)
      ∧ ∀ payload, kind.default? = some payload → kind.payload payload.exported = .ok payload := by
  constructor
  · intro hvalid
    refine ⟨?_, fun payload hdefault => ?_⟩
    · cases kind with
      | integer default min max =>
        obtain ⟨⟨n, hrange⟩, _⟩ := Kind.fault?_integer_eq_none_iff.mp hvalid
        exact ⟨_, _, Kind.payload_integer_text hrange⟩
      | choice choices =>
        cases choices with
        | nil => cases hvalid
        | cons first rest => exact ⟨first, _, if_pos List.mem_cons_self⟩
      | boolean default =>
        refine ⟨Payload.flagText default, .boolean default, ?_⟩
        simp only [Kind.payload, flag?_flagText]
      | string default trimmed => exact ⟨"", _, rfl⟩
      | text default => exact ⟨"", _, rfl⟩
      | password default => exact ⟨"", _, rfl⟩
    · obtain ⟨token, htoken⟩ := Kind.exists_token_of_default hvalid hdefault
      exact Kind.payload_exported htoken
  · rintro ⟨⟨token, payload, htoken⟩, hdefault⟩
    cases kind with
    | integer default min max =>
      rw [Kind.fault?_integer_eq_none_iff]
      refine ⟨?_, fun n hn => ?_⟩
      · obtain ⟨n, _, hrange, _⟩ := Kind.payload_integer_eq_ok_iff.mp htoken
        exact ⟨n, hrange⟩
      · have htaken := hdefault (.integer n) (congrArg (Option.map Payload.integer) hn)
        obtain ⟨m, _, hrange, hm⟩ := Kind.payload_integer_eq_ok_iff.mp htaken
        cases hm
        exact hrange
    | choice choices =>
      cases choices with
      | nil => cases htoken
      | cons first rest => rfl
    | string default trimmed => rfl
    | text default => rfl
    | boolean default => rfl
    | password default => rfl

/-! ### Definitions -/

theorem validate_eq_ok_iff {parameter : Parameter} (hname : Text.isBlankText parameter.name = false) :
    parameter.validate = .ok () ↔ parameter.kind.fault? = none := by
  rw [validate, hname, if_neg Bool.false_ne_true]
  cases parameter.kind.fault? <;> simp

/-- **A definition is valid exactly if it can be used.** -/
theorem validate_eq_ok_iff_usable (parameter : Parameter)
    (hname : ∃ c ∈ parameter.name.toList, Text.isBlank c = false) :
    parameter.validate = .ok () ↔ parameter.Usable := by
  have hnotBlank : Text.isBlankText parameter.name = false := by
    simpa [Text.isBlankText] using hname
  rw [validate_eq_ok_iff hnotBlank, Kind.fault?_eq_none_iff]
  constructor
  · rintro ⟨⟨token, payload, htoken⟩, htaken⟩
    refine ⟨⟨token, ⟨parameter.name, payload⟩, convert_eq_ok.mpr ⟨rfl, htoken⟩⟩, ?_⟩
    intro value hdefault
    obtain ⟨heq, hpayload⟩ := default?_eq_some.mp hdefault
    exact convert_eq_ok.mpr ⟨heq, htaken _ hpayload⟩
  · rintro ⟨⟨token, value, htoken⟩, htaken⟩
    refine ⟨⟨token, value.payload, (convert_eq_ok.mp htoken).2⟩, fun payload hpayload => ?_⟩
    have hdefault : parameter.default? = some ⟨parameter.name, payload⟩ :=
      default?_eq_some.mpr ⟨rfl, hpayload⟩
    exact (convert_eq_ok.mp (htaken _ hdefault)).2

/-- The only number between the bounds may be the least one there is, and bounds the wrong way round
leave none. -/
theorem usable_leastInteger_and_not_usable_inverted :
    (∃ c ∈ "OFFSET".toList, Text.isBlank c = false)
      ∧ Usable ⟨"OFFSET", none, .integer (some Int64.minValue) none (some Int64.minValue)⟩
      ∧ ¬ Usable ⟨"OFFSET", none, .integer none (some 1) (some 0)⟩ := by
  have hname : ∃ c ∈ "OFFSET".toList, Text.isBlank c = false := ⟨'O', by decide, by decide⟩
  refine ⟨hname, ?_, fun husable => ?_⟩
  · exact (validate_eq_ok_iff_usable _ hname).mp (by decide)
  · exact absurd ((validate_eq_ok_iff_usable _ hname).mpr husable) (by decide)

end CiFront.Parameter
