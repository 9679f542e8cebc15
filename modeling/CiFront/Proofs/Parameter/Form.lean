import CiFront.Parameter.Form
import CiFront.Proofs.Parameter.Replay
import CiFront.Proofs.Parameter.Secrecy
/-!
# Values sent back as forms

A value as an object is itself an entry of a web form. Its value member is read by the text that is shown
of the payload. That is the exported text, which every kind but a password takes back as the value it came
from, and for a password it is the mask, which is then a secret like any other.
-/

namespace CiFront

/-- The values that a form may hold in place of a text: texts, flags and integers. -/
inductive Json.IsScalar : Json → Prop
  | str (text : String) : IsScalar (.str text)
  | bool (flag : Bool) : IsScalar (.bool flag)
  | int (n : Int) : IsScalar (.int n)

namespace Parameter

/-! ### Values as objects -/

theorem Payload.isScalar_toJson (payload : Payload) : payload.toJson.IsScalar := by
  cases payload <;> constructor

theorem Payload.shown_of_not_sensitive {payload : Payload} (h : payload.isSensitive = false) :
    payload.shown = payload.exported := by
  rw [shown, h]
  rfl

/-- Forms are converted by what is shown of a payload. -/
theorem convertFormValue_toJson (parameter : Parameter) (write : Double → String)
    (payload : Payload) :
    parameter.convertFormValue write (some payload.toJson) = parameter.convert payload.shown := by
  cases payload <;> rfl

theorem convertForm_toJson {parameter : Parameter} {value : Value}
    (h : value.name = parameter.name) :
    parameter.convertForm value.toJson = parameter.convert value.payload.shown := by
  have hname : parameter.checkFormName value.toJson = .ok () := if_pos h
  rw [convertForm, convertFormBy, hname]
  exact convertFormValue_toJson parameter Double.text value.payload

/-! ### Payloads of a kind -/

theorem Kind.kindName_of_payload {kind : Kind} {token : String} {payload : Payload}
    (h : kind.payload token = .ok payload) : payload.kindName = kind.name := by
  cases kind with
  | boolean default =>
    rw [Kind.payload] at h
    split at h <;> cases h
    rfl
  | integer default min max =>
    rw [Kind.payload] at h
    split at h
    · cases h
    · split at h <;> cases h
      rfl
  | choice choices =>
    rw [Kind.payload] at h
    split at h <;> cases h
    rfl
  | string | text | password =>
    cases h
    rfl

theorem Kind.kindName_of_default {kind : Kind} {payload : Payload}
    (h : kind.default? = some payload) : payload.kindName = kind.name := by
  cases kind with
  | integer default min max =>
    obtain ⟨n, _, rfl⟩ := Option.map_eq_some_iff.mp h
    rfl
  | choice choices =>
    obtain ⟨first, _, rfl⟩ := Option.map_eq_some_iff.mp h
    rfl
  | string | text | boolean | password =>
    cases h
    rfl

/-- Only passwords have secret payloads. -/
theorem Kind.isSensitive_of_kindName {kind : Kind} {payload : Payload} (hkind : ¬ kind.IsPassword)
    (h : payload.kindName = kind.name) : payload.isSensitive = false := by
  cases payload with
  | password secret =>
    cases kind with
    | password default => exact absurd ⟨default, rfl⟩ hkind
    | _ => exact absurd h (by simp [Payload.kindName, Kind.name])
  | _ => rfl

/-! ### Values of a parameter -/

section

variable {parameter : Parameter} {value : Value}

/-- A value that a parameter gives bears its name and is of its kind. -/
theorem name_eq_and_kindName_eq
    (h : (∃ token, parameter.convert token = .ok value) ∨ parameter.default? = some value) :
    value.name = parameter.name ∧ value.payload.kindName = parameter.kind.name := by
  rcases h with ⟨token, htoken⟩ | hdefault
  · obtain ⟨hname, hpayload⟩ := convert_eq_ok.mp htoken
    exact ⟨hname, Kind.kindName_of_payload hpayload⟩
  · obtain ⟨hname, hpayload⟩ := default?_eq_some.mp hdefault
    exact ⟨hname, Kind.kindName_of_default hpayload⟩

theorem toJson_eq_obj
    (h : (∃ token, parameter.convert token = .ok value) ∨ parameter.default? = some value) :
    value.toJson = .obj [("name", .str parameter.name), ("type", .str parameter.kind.name),
      ("value", value.payload.toJson)] := by
  obtain ⟨hname, hkind⟩ := name_eq_and_kindName_eq h
  rw [Value.toJson, hname, hkind]

theorem convertForm_toJson_of_not_isPassword (hkind : ¬ parameter.kind.IsPassword)
    (h : (∃ token, parameter.convert token = .ok value)
      ∨ parameter.validate = .ok () ∧ parameter.default? = some value) :
    parameter.convertForm value.toJson = .ok value := by
  obtain ⟨hname, hkindName⟩ := name_eq_and_kindName_eq (h.imp_right And.right)
  rw [convertForm_toJson hname,
    Payload.shown_of_not_sensitive (Kind.isSensitive_of_kindName hkind hkindName)]
  rcases h with ⟨token, htoken⟩ | ⟨hvalid, hdefault⟩
  · exact convert_exported htoken
  · exact convert_exported_of_default hvalid hdefault

theorem convertForm_toJson_of_isPassword (hkind : parameter.kind.IsPassword)
    (h : (∃ token, parameter.convert token = .ok value) ∨ parameter.default? = some value) :
    value.payload.toJson = .str Secret.mask
      ∧ parameter.convertForm value.toJson = .ok ⟨parameter.name, .password ⟨Secret.mask⟩⟩ := by
  obtain ⟨hname, hkindName⟩ := name_eq_and_kindName_eq h
  have hsecret : ∃ secret, value.payload = .password secret := by
    obtain ⟨default, hdefault⟩ := hkind
    rw [hdefault] at hkindName
    cases hpayload : value.payload with
    | password secret => exact ⟨secret, rfl⟩
    | _ => exact absurd (hpayload ▸ hkindName) (by simp [Payload.kindName, Kind.name])
  obtain ⟨secret, hsecret⟩ := hsecret
  rw [convertForm_toJson hname, hsecret]
  exact ⟨rfl, convert_password hkind Secret.mask⟩

end

/-- **Values can be sent back as forms.** As an object a value holds its name, its kind and a scalar. A
parameter that is no password takes every value of its tokens back from this object, and its default too if
it is valid. A password takes back the mask, whatever the secret was. -/
theorem convertForm_toJson_eq_ok (parameter : Parameter) :
    (¬ parameter.kind.IsPassword → ∀ value,
      ((∃ token, parameter.convert token = .ok value)
        ∨ parameter.validate = .ok () ∧ parameter.default? = some value) →
      (∃ scalar : Json, scalar.IsScalar ∧ value.toJson
          = .obj [("name", .str parameter.name), ("type", .str parameter.kind.name), ("value", scalar)])
        ∧ parameter.convertForm value.toJson = .ok value)
      ∧ (parameter.kind.IsPassword → ∀ value,
        ((∃ token, parameter.convert token = .ok value) ∨ parameter.default? = some value) →
        value.toJson = .obj [("name", .str parameter.name), ("type", .str "password"),
            ("value", .str Secret.mask)]
          ∧ parameter.convertForm value.toJson = .ok ⟨parameter.name, .password ⟨Secret.mask⟩⟩) := by
  constructor
  · intro hkind value hvalue
    exact ⟨⟨_, value.payload.isScalar_toJson, toJson_eq_obj (hvalue.imp_right And.right)⟩,
      convertForm_toJson_of_not_isPassword hkind hvalue⟩
  · intro hkind value hvalue
    obtain ⟨hmask, hform⟩ := convertForm_toJson_of_isPassword hkind hvalue
    have hname : parameter.kind.name = "password" := by
      obtain ⟨default, hdefault⟩ := hkind
      rw [hdefault]
      rfl
    refine ⟨?_, hform⟩
    rw [toJson_eq_obj hvalue, hname, hmask]

/-- The least integer there is comes back from a number and from a default, and a password comes back as
the mask. -/
theorem convertForm_toJson_leastInteger_and_password :
    (¬ (Kind.integer (some Int64.minValue) none (some (-1))).IsPassword
        ∧ convert ⟨"OFFSET", none, .integer (some Int64.minValue) none (some (-1))⟩ " -0007 "
          = .ok ⟨"OFFSET", .integer (-7)⟩
        ∧ convertForm ⟨"OFFSET", none, .integer (some Int64.minValue) none (some (-1))⟩
          (Value.toJson ⟨"OFFSET", .integer (-7)⟩) = .ok ⟨"OFFSET", .integer (-7)⟩
        ∧ convertForm ⟨"OFFSET", none, .integer (some Int64.minValue) none (some (-1))⟩
          (Value.toJson ⟨"OFFSET", .integer Int64.minValue⟩) = .ok ⟨"OFFSET", .integer Int64.minValue⟩)
      ∧ (Kind.password none).IsPassword
        ∧ convertForm ⟨"TOKEN", none, .password none⟩ (Value.toJson ⟨"TOKEN", .password ⟨"hunter2"⟩⟩)
          = .ok ⟨"TOKEN", .password ⟨Secret.mask⟩⟩ := by
  have hinteger : ¬ (Kind.integer (some Int64.minValue) none (some (-1))).IsPassword :=
    fun ⟨_, h⟩ => nomatch h
  have hpassword : (Kind.password none).IsPassword := ⟨none, rfl⟩
  have htoken : convert ⟨"OFFSET", none, .integer (some Int64.minValue) none (some (-1))⟩ " -0007 "
      = .ok ⟨"OFFSET", .integer (-7)⟩ := by decide
  refine ⟨⟨hinteger, htoken, ?_, ?_⟩, hpassword, ?_⟩
  · exact ((convertForm_toJson_eq_ok _).1 hinteger _ (.inl ⟨_, htoken⟩)).2
  · exact ((convertForm_toJson_eq_ok _).1 hinteger _ (.inr ⟨by decide, rfl⟩)).2
  · exact ((convertForm_toJson_eq_ok _).2 hpassword _ (.inl ⟨"hunter2", rfl⟩)).2

end Parameter

end CiFront
