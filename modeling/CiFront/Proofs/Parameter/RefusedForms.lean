import CiFront.Parameter.Form
import CiFront.Proofs.Parameter.Secrecy
import CiFront.Proofs.Text.Quoted
/-!
# What refused password forms show

A password takes any scalar, so a form for it is refused for a foreign name, for a value that is missing
or null, or for an array or object. Only in the last case does the message depend on the value, and there
it shows the whole of its text.
-/

namespace CiFront

/-- The types of values. -/
inductive Json.Kind where
  | null
  | boolean
  | number
  | string
  | array
  | object
  deriving DecidableEq

/-- The type of a value. -/
def Json.kind : Json → Json.Kind
  | .null => .null
  | .bool _ => .boolean
  | .int _ => .number
  | .real _ => .number
  | .str _ => .string
  | .arr _ => .array
  | .obj _ => .object

/-- Whether a value is made of other values. -/
def Json.IsCompound (json : Json) : Prop :=
  json.kind = .array ∨ json.kind = .object

namespace Parameter

/-! ### Messages -/

theorem Error.message_invalidToken (name token : String) (fault : TokenFault) :
    (invalidToken name token fault).message = "Invalid value for parameter '" ++ name ++ "': "
      ++ Text.quoted token ++ " (" ++ fault.message ++ ")" :=
  rfl

/-- The message about a token shows all of it. -/
theorem Error.message_invalidToken_inj {name first second : String} {fault : TokenFault} :
    (invalidToken name first fault).message = (invalidToken name second fault).message
      ↔ first = second := by
  constructor
  · intro h
    rw [message_invalidToken, message_invalidToken] at h
    have hclosing := (String.append_left_inj _).mp h
    have hfault := (String.append_left_inj _).mp hclosing
    have hopening := (String.append_left_inj _).mp hfault
    have hquoted := (String.append_right_inj _).mp hopening
    exact Text.quoted_injective hquoted
  · intro h
    exact congrArg (fun token => (invalidToken name token fault).message) h

/-! ### Values of a form -/

variable {parameter : Parameter} {write : Double → String}

theorem convertFormValue_of_isCompound {json : Json} (h : json.IsCompound) :
    parameter.convertFormValue write (some json)
      = .error (.invalidToken parameter.name json.compact .notAScalar) := by
  cases json with
  | arr | obj => rfl
  | null | bool | int | real | str => exact absurd h (by simp [Json.IsCompound, Json.kind])

theorem convertFormValue_of_missing {value : Option Json}
    (h : value.map Json.kind = none ∨ value.map Json.kind = some .null) :
    parameter.convertFormValue write value = .error (.missingValue parameter.name) := by
  match value with
  | none => rfl
  | some .null => rfl
  | some (.bool _) | some (.int _) | some (.real _) | some (.str _) | some (.arr _) | some (.obj _) =>
    exact absurd h (by simp [Json.kind])

/-- A password takes every scalar. -/
theorem exists_convertFormValue_eq_ok (hkind : parameter.kind.IsPassword) {value : Option Json}
    {kind : Json.Kind} (h : value.map Json.kind = some kind)
    (hscalar : kind = .boolean ∨ kind = .number ∨ kind = .string) :
    ∃ taken, parameter.convertFormValue write value = .ok taken := by
  obtain ⟨json, rfl, rfl⟩ := Option.map_eq_some_iff.mp h
  cases json with
  | bool | int | real | str => exact ⟨_, convert_password hkind _⟩
  | null | arr | obj => exact absurd hscalar (by simp [Json.kind])

theorem exists_isCompound {value : Option Json} {kind : Json.Kind}
    (h : value.map Json.kind = some kind) (hcompound : kind = .array ∨ kind = .object) :
    ∃ json, value = some json ∧ json.IsCompound := by
  obtain ⟨json, rfl, rfl⟩ := Option.map_eq_some_iff.mp h
  exact ⟨json, rfl, hcompound⟩

/-- What comes of two values of the same type: both are taken, both are missing, or both are compound. -/
inductive Alike (parameter : Parameter) (write : Double → String) :
    Option Json → Option Json → Prop
  | taken {first second value other} (hfirst : parameter.convertFormValue write first = .ok value)
      (hsecond : parameter.convertFormValue write second = .ok other) : Alike parameter write first second
  | missing {first second}
      (hfirst : parameter.convertFormValue write first = .error (.missingValue parameter.name))
      (hsecond : parameter.convertFormValue write second = .error (.missingValue parameter.name)) :
      Alike parameter write first second
  | compound {first second : Json} (hfirst : first.IsCompound) (hsecond : second.IsCompound) :
      Alike parameter write (some first) (some second)

theorem alike_of_kind_eq (hkind : parameter.kind.IsPassword) {first second : Option Json}
    (h : first.map Json.kind = second.map Json.kind) : Alike parameter write first second := by
  have hmissing (hnone : second.map Json.kind = none ∨ second.map Json.kind = some .null) :
      Alike parameter write first second :=
    .missing (convertFormValue_of_missing (h ▸ hnone)) (convertFormValue_of_missing hnone)
  have hscalar {kind : Json.Kind} (hsome : second.map Json.kind = some kind)
      (hscalar : kind = .boolean ∨ kind = .number ∨ kind = .string) :
      Alike parameter write first second := by
    obtain ⟨value, hvalue⟩ := exists_convertFormValue_eq_ok hkind (h.trans hsome) hscalar
    obtain ⟨other, hother⟩ := exists_convertFormValue_eq_ok hkind hsome hscalar
    exact .taken hvalue hother
  have hcompound {kind : Json.Kind} (hsome : second.map Json.kind = some kind)
      (hcompound : kind = .array ∨ kind = .object) : Alike parameter write first second := by
    obtain ⟨json, rfl, hjson⟩ := exists_isCompound (h.trans hsome) hcompound
    obtain ⟨other, rfl, hother⟩ := exists_isCompound hsome hcompound
    exact .compound hjson hother
  match hsome : second.map Json.kind with
  | none => exact hmissing (.inl hsome)
  | some .null => exact hmissing (.inr hsome)
  | some .boolean => exact hscalar hsome (.inl rfl)
  | some .number => exact hscalar hsome (.inr (.inl rfl))
  | some .string => exact hscalar hsome (.inr (.inr rfl))
  | some .array => exact hcompound hsome (.inl rfl)
  | some .object => exact hcompound hsome (.inr rfl)

theorem Alike.message_eq_iff {first second : Option Json} (h : Alike parameter write first second)
    {error other : Error} (hfirst : parameter.convertFormValue write first = .error error)
    (hsecond : parameter.convertFormValue write second = .error other) :
    error.message = other.message ↔ ∀ json value, first = some json → second = some value →
      json.IsCompound → json.compact = value.compact := by
  cases h with
  | taken htaken =>
    rw [htaken] at hfirst
    cases hfirst
  | missing hmissing hmissing' =>
    rw [hmissing] at hfirst
    rw [hmissing'] at hsecond
    cases hfirst
    cases hsecond
    refine ⟨?_, fun _ => rfl⟩
    rintro _ json value rfl _ hjson
    rw [convertFormValue_of_isCompound hjson] at hmissing
    cases hmissing
  | compound hcompound hcompound' =>
    rw [convertFormValue_of_isCompound hcompound] at hfirst
    rw [convertFormValue_of_isCompound hcompound'] at hsecond
    cases hfirst
    cases hsecond
    rw [Error.message_invalidToken_inj]
    constructor
    · rintro htext _ _ ⟨⟩ ⟨⟩ _
      exact htext
    · exact fun hsame => hsame _ _ rfl rfl hcompound

theorem Alike.refuses_iff {first second : Option Json} (h : Alike parameter write first second) :
    (∃ error, parameter.convertFormValue write first = .error error)
      ↔ ∃ error, parameter.convertFormValue write second = .error error := by
  cases h with
  | taken hfirst hsecond =>
    rw [hfirst, hsecond]
    exact ⟨nofun, nofun⟩
  | missing hfirst hsecond => rw [hfirst, hsecond]
  | compound hfirst hsecond =>
    rw [convertFormValue_of_isCompound hfirst, convertFormValue_of_isCompound hsecond]
    exact ⟨fun _ => ⟨_, rfl⟩, fun _ => ⟨_, rfl⟩⟩

/-! ### Forms -/

theorem convertFormBy_of_checkFormName {form : Json} (h : parameter.checkFormName form = .ok ()) :
    parameter.convertFormBy write form = parameter.convertFormValue write (form.get? "value") := by
  rw [convertFormBy, h]

theorem checkFormName_congr {first second : Json} (h : first.get? "name" = second.get? "name") :
    parameter.checkFormName first = parameter.checkFormName second := by
  rw [checkFormName, checkFormName, h]

/-- **What refused password forms show.** Two forms for a password that state the same name and hold
values of the same type are refused together. The messages are the same, unless the values are compound,
under a name that is accepted: then they are the same only if the values have the same text. -/
theorem convertForm_refuses_iff_and_message_eq_iff (hkind : parameter.kind.IsPassword)
    {first second : Json} (hname : first.get? "name" = second.get? "name")
    (htype : (first.get? "value").map Json.kind = (second.get? "value").map Json.kind) :
    ((∃ error, parameter.convertForm first = .error error)
        ↔ ∃ error, parameter.convertForm second = .error error)
      ∧ ∀ error other, parameter.convertForm first = .error error →
        parameter.convertForm second = .error other →
        (error.message = other.message ↔ (parameter.checkFormName first = .ok () →
          ∀ json value, first.get? "value" = some json → second.get? "value" = some value →
            json.IsCompound → json.compact = value.compact)) := by
  have hcongr : parameter.checkFormName first = parameter.checkFormName second :=
    checkFormName_congr hname
  rw [convertForm, convertForm]
  cases hcheck : parameter.checkFormName first with
  | error refused =>
    rw [convertFormBy, convertFormBy, ← hcongr, hcheck]
    refine ⟨Iff.rfl, ?_⟩
    rintro _ _ ⟨⟩ ⟨⟩
    exact ⟨fun _ => nofun, fun _ => rfl⟩
  | ok =>
    rw [convertFormBy_of_checkFormName hcheck, convertFormBy_of_checkFormName (hcongr ▸ hcheck)]
    have halike : Alike parameter Double.text _ _ := alike_of_kind_eq hkind htype
    refine ⟨halike.refuses_iff, fun error other hfirst hsecond => ?_⟩
    rw [halike.message_eq_iff hfirst hsecond]
    exact ⟨fun hsame _ => hsame, fun hsame => hsame rfl⟩

/-- A password. -/
def secretToken : Parameter := ⟨"TOKEN", none, .password none⟩

/-- A form that sends a token in an array. -/
def arrayForm (name token : String) : Json :=
  .obj [("name", .str name), ("value", .arr [.str token])]

/-- Under the name of the password the messages tell the tokens apart; under a foreign name they do not. -/
theorem message_arrayForm_ne_and_eq :
    secretToken.kind.IsPassword
      ∧ (∃ error other, secretToken.convertForm (arrayForm "TOKEN" "hunter2") = .error error
        ∧ secretToken.convertForm (arrayForm "TOKEN" "a") = .error other ∧ error.message ≠ other.message)
      ∧ ∃ error other, secretToken.convertForm (arrayForm "PIN" "hunter2") = .error error
        ∧ secretToken.convertForm (arrayForm "PIN" "a") = .error other ∧ error.message = other.message := by
  have hkind : secretToken.kind.IsPassword := ⟨none, rfl⟩
  have htold := @convertForm_refuses_iff_and_message_eq_iff secretToken hkind (arrayForm "TOKEN" "hunter2")
    (arrayForm "TOKEN" "a") rfl rfl
  have hhidden := @convertForm_refuses_iff_and_message_eq_iff secretToken hkind (arrayForm "PIN" "hunter2")
    (arrayForm "PIN" "a") rfl rfl
  refine ⟨hkind, ⟨_, _, rfl, rfl, ?_⟩, _, _, rfl, rfl, ?_⟩
  · rw [Ne, htold.2 _ _ rfl rfl]
    intro hsame
    have htext := hsame rfl _ _ rfl rfl (.inl rfl)
    exact absurd htext (by decide +kernel)
  · rw [hhidden.2 _ _ rfl rfl]
    intro haccepted
    exact absurd haccepted (by decide +kernel)

end Parameter

end CiFront
