import CiFront.Parameter.Basic
import CiFront.Proofs.Number.Decimal
/-!
# Exported texts as tokens

The exported text of a payload is itself a token of the kind that made the payload, and it has the
same payload. That holds of what a token was converted to and, where the fields of the kind fit
together, of its default, because every default is what some token has.
-/

namespace CiFront.Parameter

theorem toList_normalize (trimmed : Bool) (token : String) :
    (normalize trimmed token).toList = if trimmed then Text.trim token.toList else token.toList := by
  cases trimmed <;> simp [normalize]

theorem normalize_normalize (trimmed : Bool) (token : String) :
    normalize trimmed (normalize trimmed token) = normalize trimmed token := by
  apply String.toList_injective
  rw [toList_normalize, toList_normalize]
  cases trimmed
  · rfl
  · exact Text.trim_trim token.toList

theorem flag?_flagText (flag : Bool) : flag? (Payload.flagText flag) = some flag := by
  cases flag <;> decide

theorem readInt64_trim_text (n : Int64) :
    Decimal.readInt64 (Text.trim (Decimal.text n.toInt).toList) = .ok n := by
  rw [Decimal.text, String.toList_ofList, Decimal.trim_signedDigits, Decimal.readInt64_signedDigits]

/-! ### Payloads of a kind -/

theorem Kind.payload_integer_text {default min max : Option Int64} {n : Int64}
    (h : outOfRange? min max n = none) :
    (Kind.integer default min max).payload (Decimal.text n.toInt) = .ok (.integer n) := by
  simp only [Kind.payload, readInt64_trim_text, h]

theorem Kind.payload_exported {kind : Kind} {token : String} {payload : Payload}
    (h : kind.payload token = .ok payload) : kind.payload payload.exported = .ok payload := by
  cases kind with
  | string default trimmed =>
    cases h
    simp only [Payload.exported, Kind.payload, normalize_normalize]
  | text default =>
    cases h
    rfl
  | boolean default =>
    rw [Kind.payload] at h
    split at h
    · cases h
      simp only [Payload.exported, Kind.payload, flag?_flagText]
    · cases h
  | integer default min max =>
    rw [Kind.payload] at h
    split at h
    · cases h
    · split at h
      · cases h
      · rename_i hrange
        cases h
        exact Kind.payload_integer_text hrange
  | choice choices =>
    rw [Kind.payload] at h
    split at h
    · rename_i hmem
      cases h
      exact if_pos hmem
    · cases h
  | password default =>
    cases h
    rfl

theorem Kind.outOfRange?_default {min max : Option Int64} {n : Int64}
    (h : (Kind.integer (some n) min max).fault? = none) : outOfRange? min max n = none := by
  rw [Kind.fault?.eq_def] at h
  cases min <;> cases max <;> simp only [Option.bind_some, Option.map_eq_none_iff] at h
  · exact h
  · exact h
  · exact h
  · split at h
    · cases h
    · exact Option.map_eq_none_iff.mp h

/-- Every default of a kind whose fields fit together is the payload of a token. -/
theorem Kind.exists_token_of_default {kind : Kind} {payload : Payload} (hvalid : kind.fault? = none)
    (h : kind.default? = some payload) : ∃ token, kind.payload token = .ok payload := by
  cases kind with
  | string default trimmed =>
    cases h
    exact ⟨default.getD "", rfl⟩
  | text default =>
    cases h
    exact ⟨default.getD "", rfl⟩
  | boolean default =>
    cases h
    refine ⟨Payload.flagText default, ?_⟩
    simp only [Kind.payload, flag?_flagText]
  | integer default min max =>
    obtain ⟨n, rfl, rfl⟩ := Option.map_eq_some_iff.mp h
    exact ⟨Decimal.text n.toInt, Kind.payload_integer_text (Kind.outOfRange?_default hvalid)⟩
  | choice choices =>
    obtain ⟨first, hfirst, rfl⟩ := Option.map_eq_some_iff.mp h
    exact ⟨first, if_pos (List.mem_of_head? hfirst)⟩
  | password default =>
    cases h
    exact ⟨(default.getD ⟨""⟩).reveal, rfl⟩

/-! ### Values of a parameter -/

theorem convert_eq_ok {parameter : Parameter} {token : String} {value : Value} :
    parameter.convert token = .ok value
      ↔ value.name = parameter.name ∧ parameter.kind.payload token = .ok value.payload := by
  rw [convert]
  cases value
  cases parameter.kind.payload token <;> simp [eq_comm]

theorem default?_eq_some {parameter : Parameter} {value : Value} :
    parameter.default? = some value
      ↔ value.name = parameter.name ∧ parameter.kind.default? = some value.payload := by
  rw [default?]
  cases value
  cases parameter.kind.default? <;> simp [eq_comm]

theorem fault?_of_validate {parameter : Parameter} (h : parameter.validate = .ok ()) :
    parameter.kind.fault? = none := by
  rw [validate] at h
  split at h
  · cases h
  · split at h
    · cases h
    · assumption

/-- The exported text of a converted value is a token of the same value. -/
theorem convert_exported {parameter : Parameter} {token : String} {value : Value}
    (h : parameter.convert token = .ok value) :
    parameter.convert value.payload.exported = .ok value := by
  obtain ⟨hname, hpayload⟩ := convert_eq_ok.mp h
  exact convert_eq_ok.mpr ⟨hname, Kind.payload_exported hpayload⟩

/-- The exported text of a valid parameter's default is a token of that default. -/
theorem convert_exported_of_default {parameter : Parameter} {value : Value}
    (hvalid : parameter.validate = .ok ()) (h : parameter.default? = some value) :
    parameter.convert value.payload.exported = .ok value := by
  obtain ⟨hname, hpayload⟩ := default?_eq_some.mp h
  obtain ⟨token, htoken⟩ := Kind.exists_token_of_default (fault?_of_validate hvalid) hpayload
  exact convert_eq_ok.mpr ⟨hname, Kind.payload_exported htoken⟩

end CiFront.Parameter
