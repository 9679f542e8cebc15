import CiFront.Proofs.Number.Double
import CiFront.Proofs.Parameter.RefusedForms
import CiFront.Proofs.Parameter.Validity
/-!
# Integers are converted exactly

A parameter for an integer takes the signed numerals of the integers that it admits, in blanks or not, and
refuses every other token as it was given. From a form it takes the numbers that it admits. A double is
refused even if it is a whole number, because its text says that it is one.
-/

namespace CiFront.Parameter

/-- Whether an integer is one of 64 bits that neither bound excludes. -/
structure Admits (min max : Option Int64) (z : Int) : Prop where
  least : -2 ^ 63 ≤ z
  greatest : z ≤ 2 ^ 63 - 1
  min : ∀ low ∈ min, low.toInt ≤ z
  max : ∀ high ∈ max, z ≤ high.toInt

/-- Whether a conversion gives an integer under a name. -/
def GivesInteger (name : String) (z : Int) (outcome : Except Error Value) : Prop :=
  ∃ n : Int64, n.toInt = z ∧ outcome = .ok ⟨name, .integer n⟩

/-- Whether a conversion refuses a token as no value of the parameter of a name. -/
def RefusesToken (name token : String) (outcome : Except Error Value) : Prop :=
  ∃ fault, outcome = .error (.invalidToken name token fault)

/-- Whether a form states no name but the given one. -/
def StatesOnly (form : Json) (name : String) : Prop :=
  ∀ stated, form.get? "name" = some (.str stated) → stated = name

variable {parameter : Parameter} {default min max : Option Int64} {form : Json} {z : Int}

theorem admits_toInt_iff {n : Int64} : Admits min max n.toInt ↔ outOfRange? min max n = none := by
  simp only [outOfRange?_eq_none_iff, Int64.le_iff_toInt_le]
  constructor
  · exact fun h => ⟨h.min, h.max⟩
  · rintro ⟨hmin, hmax⟩
    exact ⟨n.minValue_le_toInt, Int.le_sub_one_of_lt n.toInt_lt, hmin, hmax⟩

theorem Admits.exists_toInt_eq (h : Admits min max z) : ∃ n : Int64, n.toInt = z :=
  ⟨Int64.ofInt z, Int64.toInt_ofInt_of_le h.least (Int.lt_of_le_sub_one h.greatest)⟩

/-! ### Tokens -/

theorem convert_eq_ok_integer_iff (hkind : parameter.kind = .integer default min max) {token : String}
    {n : Int64} : parameter.convert token = .ok ⟨parameter.name, .integer n⟩
      ↔ Decimal.DenotesInt (Text.trim token.toList) n.toInt ∧ Admits min max n.toInt := by
  rw [convert_eq_ok, and_iff_right rfl, hkind, Kind.payload_integer_eq_ok_iff, admits_toInt_iff,
    ← Decimal.readInt64_eq_ok_iff]
  constructor
  · rintro ⟨_, hread, hrange, ⟨⟩⟩
    exact ⟨hread, hrange⟩
  · rintro ⟨hread, hrange⟩
    exact ⟨n, hread, hrange, rfl⟩

theorem givesInteger_convert_iff (hkind : parameter.kind = .integer default min max) {token : String} :
    GivesInteger parameter.name z (parameter.convert token)
      ↔ Decimal.DenotesInt (Text.trim token.toList) z ∧ Admits min max z := by
  constructor
  · rintro ⟨n, rfl, h⟩
    exact (convert_eq_ok_integer_iff hkind).mp h
  · intro h
    obtain ⟨n, rfl⟩ := h.2.exists_toInt_eq
    exact ⟨n, rfl, (convert_eq_ok_integer_iff hkind).mpr h⟩

/-- A token has an integer for its value or is refused. -/
theorem exists_givesInteger_or_refusesToken (hkind : parameter.kind = .integer default min max)
    (token : String) : (∃ z, GivesInteger parameter.name z (parameter.convert token))
      ∨ RefusesToken parameter.name token (parameter.convert token) := by
  cases hpayload : parameter.kind.payload token with
  | error fault =>
    refine .inr ⟨fault, ?_⟩
    rw [convert, hpayload]
  | ok payload =>
    have hinteger := hpayload
    rw [hkind, Kind.payload_integer_eq_ok_iff] at hinteger
    obtain ⟨n, -, -, rfl⟩ := hinteger
    exact .inl ⟨n.toInt, n, rfl, convert_eq_ok.mpr ⟨rfl, hpayload⟩⟩

theorem RefusesToken.not_givesInteger {name token : String} {outcome : Except Error Value}
    (h : RefusesToken name token outcome) : ¬ GivesInteger name z outcome := by
  obtain ⟨fault, rfl⟩ := h
  rintro ⟨n, -, ⟨⟩⟩

theorem refusesToken_convert_iff (hkind : parameter.kind = .integer default min max) {token : String} :
    RefusesToken parameter.name token (parameter.convert token)
      ↔ ∀ z, Decimal.DenotesInt (Text.trim token.toList) z → ¬ Admits min max z := by
  constructor
  · intro hrefuses z hdenotes hadmits
    exact hrefuses.not_givesInteger ((givesInteger_convert_iff hkind).mpr ⟨hdenotes, hadmits⟩)
  · intro h
    obtain ⟨z, hgives⟩ | hrefuses := exists_givesInteger_or_refusesToken hkind token
    · obtain ⟨hdenotes, hadmits⟩ := (givesInteger_convert_iff hkind).mp hgives
      exact absurd hadmits (h z hdenotes)
    · exact hrefuses

/-! ### Forms -/

section

variable {write : Double → String}

theorem checkFormName_of_statesOnly (h : StatesOnly form parameter.name) :
    parameter.checkFormName form = .ok () := by
  rw [checkFormName]
  split
  next stated hstated =>
    obtain ⟨json, hjson, htext⟩ := Option.bind_eq_some_iff.mp hstated
    cases json with
    | str text =>
      cases htext
      exact if_pos (h stated hjson)
    | null | bool | int | real | arr | obj => cases htext
  next => rfl

/-- A form that states another name is refused for it, whatever it holds. -/
theorem exists_convertFormBy_eq_unknownParameter (h : ¬ StatesOnly form parameter.name) :
    ∃ stated, stated ≠ parameter.name
      ∧ parameter.convertFormBy write form = .error (.unknownParameter stated) := by
  simp only [StatesOnly, Classical.not_forall] at h
  obtain ⟨stated, hstated, hne⟩ := h
  refine ⟨stated, hne, ?_⟩
  rw [convertFormBy, checkFormName, hstated, Option.bind_some, Json.str?]
  dsimp only
  rw [if_neg hne]

/-- As a token the text of an integer denotes that integer. -/
theorem denotesInt_trim_text_iff {other : Int} :
    Decimal.DenotesInt (Text.trim (Decimal.text z).toList) other ↔ other = z := by
  rw [Decimal.text, String.toList_ofList, Decimal.trim_signedDigits]
  constructor
  · exact fun h => h.unique (Decimal.denotesInt_signedDigits z)
  · rintro rfl
    exact Decimal.denotesInt_signedDigits other

theorem convertFormBy_of_int (hvalue : form.get? "value" = some (.int z))
    (hname : StatesOnly form parameter.name) :
    parameter.convertFormBy write form = parameter.convert (Decimal.text z) := by
  rw [convertFormBy_of_checkFormName (checkFormName_of_statesOnly hname), hvalue, convertFormValue]

theorem convertFormBy_of_real {x : Double} (hvalue : form.get? "value" = some (.real x))
    (hname : StatesOnly form parameter.name) :
    parameter.convertFormBy write form = parameter.convert (write x) := by
  rw [convertFormBy_of_checkFormName (checkFormName_of_statesOnly hname), hvalue, convertFormValue]

theorem statesOnly_of_convertFormBy_ne (write : Double → String)
    (h : ∀ stated, parameter.convertFormBy write form ≠ .error (.unknownParameter stated)) :
    StatesOnly form parameter.name := by
  by_contra hforeign
  obtain ⟨stated, -, hrefused⟩ := exists_convertFormBy_eq_unknownParameter hforeign
  exact h stated hrefused

theorem givesInteger_convertFormBy_iff (hkind : parameter.kind = .integer default min max)
    (hvalue : form.get? "value" = some (.int z)) :
    GivesInteger parameter.name z (parameter.convertFormBy write form)
      ↔ StatesOnly form parameter.name ∧ Admits min max z := by
  constructor
  · intro hgives
    have hname : StatesOnly form parameter.name := by
      apply statesOnly_of_convertFormBy_ne write
      obtain ⟨n, -, hok⟩ := hgives
      simp [hok]
    rw [convertFormBy_of_int hvalue hname, givesInteger_convert_iff hkind] at hgives
    exact ⟨hname, hgives.2⟩
  · rintro ⟨hname, hadmits⟩
    rw [convertFormBy_of_int hvalue hname, givesInteger_convert_iff hkind]
    exact ⟨denotesInt_trim_text_iff.mpr rfl, hadmits⟩

theorem refusesToken_convertFormBy_iff (hkind : parameter.kind = .integer default min max)
    (hvalue : form.get? "value" = some (.int z)) :
    RefusesToken parameter.name (Decimal.text z) (parameter.convertFormBy write form)
      ↔ StatesOnly form parameter.name ∧ ¬ Admits min max z := by
  constructor
  · intro hrefuses
    have hname : StatesOnly form parameter.name := by
      apply statesOnly_of_convertFormBy_ne write
      obtain ⟨fault, herror⟩ := hrefuses
      simp [herror]
    refine ⟨hname, fun hadmits => ?_⟩
    exact hrefuses.not_givesInteger ((givesInteger_convertFormBy_iff hkind hvalue).mpr ⟨hname, hadmits⟩)
  · rintro ⟨hname, hadmits⟩
    rw [convertFormBy_of_int hvalue hname, refusesToken_convert_iff hkind]
    intro other hother
    rw [denotesInt_trim_text_iff.mp hother]
    exact hadmits

/-- No text of a double is a numeral, so a form that holds one is refused for it. -/
theorem refusesToken_convertFormBy_of_real (hwrite : ∀ x, Double.HasPointOrExponent (write x).toList)
    (hkind : parameter.kind = .integer default min max) {x : Double}
    (hvalue : form.get? "value" = some (.real x)) (hname : StatesOnly form parameter.name) :
    RefusesToken parameter.name (write x) (parameter.convertFormBy write form) := by
  rw [convertFormBy_of_real hvalue hname, refusesToken_convert_iff hkind]
  exact fun z hdenotes _ => (hwrite x).not_denotesInt_trim z hdenotes

theorem exists_convertFormBy_eq_error_of_real
    (hwrite : ∀ x, Double.HasPointOrExponent (write x).toList)
    (hkind : parameter.kind = .integer default min max) {x : Double}
    (hvalue : form.get? "value" = some (.real x)) :
    ∃ error, parameter.convertFormBy write form = .error error := by
  by_cases hname : StatesOnly form parameter.name
  · obtain ⟨fault, hrefused⟩ := refusesToken_convertFormBy_of_real hwrite hkind hvalue hname
    exact ⟨_, hrefused⟩
  · obtain ⟨stated, -, hrefused⟩ := exists_convertFormBy_eq_unknownParameter hname
    exact ⟨_, hrefused⟩

end

/-- **Integers are converted exactly.** A token gives an integer if and only if it is, in blanks or not, a
signed numeral of it, and the integer has 64 bits and is within the bounds. Every other token is refused as
it was given. However doubles are written, as long as each has a point or an exponent, as in the shortest
texts that read back: a form under no other name that holds an integer gives it under the same condition and
is refused for the text of the integer otherwise, and no form that holds a double gives anything. -/
theorem givesInteger_iff_and_refusesToken_iff (hkind : parameter.kind = .integer default min max) :
    (∀ token z, GivesInteger parameter.name z (parameter.convert token)
        ↔ Decimal.DenotesInt (Text.trim token.toList) z ∧ Admits min max z)
      ∧ (∀ token, RefusesToken parameter.name token (parameter.convert token)
        ↔ ∀ z, Decimal.DenotesInt (Text.trim token.toList) z → ¬ Admits min max z)
      ∧ (∀ form, parameter.convertForm form = parameter.convertFormBy Double.text form)
      ∧ (∀ x : Double, Double.HasPointOrExponent x.text.toList)
      ∧ ∀ write : Double → String, (∀ x, Double.HasPointOrExponent (write x).toList) →
        (∀ form z, form.get? "value" = some (.int z) →
          (GivesInteger parameter.name z (parameter.convertFormBy write form)
              ↔ StatesOnly form parameter.name ∧ Admits min max z)
            ∧ (RefusesToken parameter.name (Decimal.text z) (parameter.convertFormBy write form)
              ↔ StatesOnly form parameter.name ∧ ¬ Admits min max z))
        ∧ (∀ form x, form.get? "value" = some (.real x) →
          (∃ error, parameter.convertFormBy write form = .error error)
            ∧ (StatesOnly form parameter.name →
              RefusesToken parameter.name (write x) (parameter.convertFormBy write form)))
        ∧ ∀ form, ¬ StatesOnly form parameter.name → ∃ stated, stated ≠ parameter.name
          ∧ parameter.convertFormBy write form = .error (.unknownParameter stated) := by
  refine ⟨fun token z => givesInteger_convert_iff hkind, fun token => refusesToken_convert_iff hkind,
    fun form => rfl, Double.hasPointOrExponent_text, ?_⟩
  intro write hwrite
  refine ⟨?_, ?_, fun form => exists_convertFormBy_eq_unknownParameter⟩
  · intro form z hvalue
    exact ⟨givesInteger_convertFormBy_iff hkind hvalue, refusesToken_convertFormBy_iff hkind hvalue⟩
  · intro form x hvalue
    exact ⟨exists_convertFormBy_eq_error_of_real hwrite hkind hvalue,
      refusesToken_convertFormBy_of_real hwrite hkind hvalue⟩

/-- An offset that may be any integer of 64 bits up to five. -/
def offset : Parameter := ⟨"OFFSET", none, .integer none none (some 5)⟩

/-- The least integer there is is read behind a leading zero, and the integer below it is refused, as are
an integer above the bound and a double that is a whole number. -/
theorem offset_givesInteger_least_and_refusesToken :
    offset.kind = .integer none none (some 5)
      ∧ GivesInteger "OFFSET" (-2 ^ 63) (offset.convert "\t-09223372036854775808\n")
      ∧ RefusesToken "OFFSET" " -9223372036854775809" (offset.convert " -9223372036854775809")
      ∧ RefusesToken "OFFSET" "6" (offset.convertForm (.obj [("value", .int 6)]))
      ∧ RefusesToken "OFFSET" "1.0"
        (offset.convertForm (.obj [("value", .real ⟨false, 2 ^ 52, -52⟩)])) := by
  have hkind : offset.kind = .integer none none (some 5) := rfl
  obtain ⟨hgives, hrefuses, -, htext, hforms⟩ := givesInteger_iff_and_refusesToken_iff hkind
  obtain ⟨hint, hreal, -⟩ := hforms Double.text htext
  have hunnamed (json : Json) : StatesOnly (.obj [("value", json)]) "OFFSET" := nofun
  have hdigits : Decimal.Denotes "09223372036854775808".toList (2 ^ 63) :=
    Decimal.nat?_eq_some_iff.mp (by decide)
  have hdigits' : Decimal.Denotes "9223372036854775809".toList (2 ^ 63 + 1) :=
    Decimal.nat?_eq_some_iff.mp (by decide)
  have hleast : Decimal.DenotesInt "-09223372036854775808".toList (-2 ^ 63) := .minus hdigits
  have hbelow : Decimal.DenotesInt "-9223372036854775809".toList (-(2 ^ 63 + 1 : Nat)) := .minus hdigits'
  have hsix : Decimal.text 6 = "6" := by decide +kernel
  have hone : Double.text ⟨false, 2 ^ 52, -52⟩ = "1.0" := by decide +kernel
  refine ⟨hkind, (hgives _ _).mpr ⟨?_, ?_⟩, (hrefuses _).mpr ?_, ?_, ?_⟩
  · exact hleast
  · exact ⟨by decide, by decide, nofun, by rintro _ ⟨⟩; decide⟩
  · intro z hz hadmits
    have hbound := hadmits.least
    rw [hz.unique hbelow] at hbound
    exact absurd hbound (by decide)
  · have hrefused := (hint (.obj [("value", .int 6)]) 6 rfl).2.mpr
      ⟨hunnamed _, fun hadmits => absurd (hadmits.max 5 rfl) (by decide)⟩
    rwa [hsix] at hrefused
  · have hrefused := (hreal (.obj [("value", .real ⟨false, 2 ^ 52, -52⟩)]) _ rfl).2 (hunnamed _)
    rwa [hone] at hrefused

end CiFront.Parameter
