import CiFront.Parameter.Document
/-!
# What passwords leave no trace in

Concealing takes the secret out of a password and leaves everything else as it is. What is shown or
serialised of a value or of a definition is what is shown of the concealed one, and conversion fails
alike for all definitions that are the same when concealed.
-/

namespace CiFront.Parameter

/-- A kind without the default of a password. -/
def Kind.concealed : Kind → Kind
  | .password _ => .password none
  | kind => kind

/-- Whether the values of a kind are secrets. -/
def Kind.IsPassword (kind : Kind) : Prop :=
  ∃ default, kind = .password default

/-- A definition without the default of a password. -/
def concealed (parameter : Parameter) : Parameter :=
  ⟨parameter.name, parameter.description, parameter.kind.concealed⟩

/-- A payload without its secret. -/
def Payload.concealed : Payload → Payload
  | .password _ => .password ⟨Secret.mask⟩
  | payload => payload

/-- A value without its secret. -/
def Value.concealed (value : Value) : Value :=
  ⟨value.name, value.payload.concealed⟩

/-! ### Texts of values and definitions -/

theorem Value.toJson_concealed (value : Value) : value.concealed.toJson = value.toJson := by
  rcases value with ⟨name, payload⟩
  cases payload <;> rfl

theorem Value.shown_concealed (value : Value) : value.concealed.shown = value.shown := by
  rcases value with ⟨name, payload⟩
  cases payload <;> rfl

theorem Value.line_concealed (value : Value) : value.concealed.line false = value.line false := by
  rcases value with ⟨name, payload⟩
  cases payload <;> rfl

theorem toJson_concealed (parameter : Parameter) : parameter.concealed.toJson = parameter.toJson := by
  rcases parameter with ⟨name, description, kind⟩
  cases kind <;> rfl

/-- A function that does not see secrets takes lists to the same list that are the same when
concealed. -/
theorem map_eq_of_concealed {α β : Type} {conceal : α → α} {f : α → β} (hf : ∀ a, f (conceal a) = f a)
    {first second : List α} (h : first.map conceal = second.map conceal) :
    first.map f = second.map f := by
  have hmap (list : List α) : (list.map conceal).map f = list.map f := by
    rw [List.map_map]
    exact List.map_congr_left fun a _ => hf a
  rw [← hmap first, ← hmap second, h]

/-! ### Conversion -/

/-- Two definitions that are the same when concealed are the same, or both are passwords. -/
theorem eq_or_isPassword_of_concealed {first second : Parameter}
    (h : first.concealed = second.concealed) :
    first = second ∨ first.kind.IsPassword ∧ second.kind.IsPassword := by
  rcases first with ⟨name, description, kind⟩
  rcases second with ⟨name', description', kind'⟩
  rw [concealed, concealed, Parameter.mk.injEq] at h
  obtain ⟨rfl, rfl, hkind⟩ := h
  cases kind <;> cases kind' <;> simp only [Kind.concealed, reduceCtorEq] at hkind
  case password.password => exact .inr ⟨⟨_, rfl⟩, ⟨_, rfl⟩⟩
  all_goals exact .inl (by rw [hkind])

theorem name_eq_of_concealed {first second : Parameter} (h : first.concealed = second.concealed) :
    first.name = second.name := by
  have hname := congrArg Parameter.name h
  exact hname

theorem convert_password {parameter : Parameter} (h : parameter.kind.IsPassword) (token : String) :
    parameter.convert token = .ok ⟨parameter.name, .password ⟨token⟩⟩ := by
  obtain ⟨default, hkind⟩ := h
  rw [convert, hkind]
  rfl

theorem default?_password {parameter : Parameter} (h : parameter.kind.IsPassword) :
    ∃ secret, parameter.default? = some ⟨parameter.name, .password secret⟩ := by
  obtain ⟨default, hkind⟩ := h
  rw [default?, hkind]
  exact ⟨_, rfl⟩

theorem validate_password {name : String} {description : Option String} {default : Option Secret}
    (h : Text.isBlankText name = false) :
    Parameter.validate ⟨name, description, .password default⟩ = .ok () := by
  simp only [validate, h, Kind.fault?, Bool.false_eq_true, if_false]

theorem convert_concealed {first second : Parameter} {token other : String}
    (h : first.concealed = second.concealed) (htoken : ¬ first.kind.IsPassword → token = other) :
    (first.convert token).map Value.concealed = (second.convert other).map Value.concealed := by
  by_cases hpassword : first.kind.IsPassword
  · have hother : second.kind.IsPassword := by
      rcases eq_or_isPassword_of_concealed h with rfl | hboth
      · exact hpassword
      · exact hboth.2
    rw [convert_password hpassword, convert_password hother, name_eq_of_concealed h]
    rfl
  · rcases eq_or_isPassword_of_concealed h with rfl | hboth
    · rw [htoken hpassword]
    · exact absurd hboth.1 hpassword

theorem default?_concealed {first second : Parameter} (h : first.concealed = second.concealed) :
    first.default?.map Value.concealed = second.default?.map Value.concealed := by
  rcases eq_or_isPassword_of_concealed h with rfl | ⟨hfirst, hsecond⟩
  · rfl
  · obtain ⟨secret, hsecret⟩ := default?_password hfirst
    obtain ⟨other, hother⟩ := default?_password hsecond
    rw [hsecret, hother, name_eq_of_concealed h]
    rfl

end CiFront.Parameter
