import CiFront.Json.Basic
import CiFront.Text.Blank
import CiFront.Text.Case
import CiFront.Text.Quoted
/-!
# Locales

A locale is a language with an optional region. The language is two or three small letters and the region
two or three capitals or digits, so the tag `de_AT` names one locale and a locale has one tag. Reading is
lenient: either letter case, `-` for `_`, blanks around, and a suffix that starts with `.` or `@`.
-/

namespace CiFront

/-- Two or three small ASCII letters. -/
def IsLanguageCode (s : List Char) : Prop :=
  (2 ≤ s.length ∧ s.length ≤ 3) ∧ s.all Char.isLower = true

/-- Two or three ASCII capitals or digits. -/
def IsRegionCode (s : List Char) : Prop :=
  (2 ≤ s.length ∧ s.length ≤ 3) ∧ s.all (fun c => c.isUpper || c.isDigit) = true

/-- A language with an optional region. -/
structure Locale where
  language : String
  region : Option String
  language_isCode : IsLanguageCode language.toList
  region_isCode : ∀ code ∈ region, IsRegionCode code.toList
  deriving DecidableEq

namespace Locale

/-- A text that names no locale. -/
structure Invalid where
  text : String
  deriving DecidableEq, Repr

/-- The wording of an invalid locale. -/
def Invalid.message (invalid : Invalid) : String :=
  "Invalid locale: " ++ Text.quoted invalid.text

/-- Two or three ASCII letters of either case. -/
def isLanguage (s : List Char) : Bool :=
  (2 ≤ s.length && s.length ≤ 3) && s.all Char.isAlpha

/-- Two or three ASCII letters or digits. -/
def isRegion (s : List Char) : Bool :=
  (2 ≤ s.length && s.length ≤ 3) && s.all Char.isAlphanum

theorem two_le_and_le_three_iff {n : Nat} : 2 ≤ n ∧ n ≤ 3 ↔ n = 2 ∨ n = 3 := by
  omega

theorem isLanguage_iff {s : List Char} : isLanguage s = true
    ↔ (s.length = 2 ∨ s.length = 3) ∧ ∀ c ∈ s, 'A' ≤ c ∧ c ≤ 'Z' ∨ 'a' ≤ c ∧ c ≤ 'z' := by
  simp only [isLanguage, Bool.and_eq_true, decide_eq_true_eq, List.all_eq_true,
    two_le_and_le_three_iff, Text.isAlpha_iff]

theorem isRegion_iff {s : List Char} : isRegion s = true
    ↔ (s.length = 2 ∨ s.length = 3)
      ∧ ∀ c ∈ s, 'A' ≤ c ∧ c ≤ 'Z' ∨ 'a' ≤ c ∧ c ≤ 'z' ∨ '0' ≤ c ∧ c ≤ '9' := by
  simp only [isRegion, Bool.and_eq_true, decide_eq_true_eq, List.all_eq_true,
    two_le_and_le_three_iff, Text.isAlphanum_iff]

theorem isLanguageCode_lower {s : List Char} (h : isLanguage s = true) :
    IsLanguageCode (Text.lower s) := by
  obtain ⟨hlength, hletters⟩ := isLanguage_iff.mp h
  refine ⟨by simpa [Text.lower] using two_le_and_le_three_iff.mpr hlength, ?_⟩
  simp only [Text.lower, List.all_map, List.all_eq_true, Function.comp_apply]
  exact fun c hc => Text.isLower_toLower (Text.isAlpha_iff.mpr (hletters c hc))

theorem isRegionCode_upper {s : List Char} (h : isRegion s = true) :
    IsRegionCode (Text.upper s) := by
  obtain ⟨hlength, hcharacters⟩ := isRegion_iff.mp h
  refine ⟨by simpa [Text.upper] using two_le_and_le_three_iff.mpr hlength, ?_⟩
  simp only [Text.upper, List.all_map, List.all_eq_true, Function.comp_apply]
  exact fun c hc => Text.isUpper_or_isDigit_toUpper (Text.isAlphanum_iff.mpr (hcharacters c hc))

/-- The locale of a language and a region in any letter case. -/
def ofCodes? (language : List Char) (region : Option (List Char)) : Option Locale :=
  if hlanguage : isLanguage language = true then
    match region with
    | none => some
      { language := String.ofList (Text.lower language)
        region := none
        language_isCode := by simpa using isLanguageCode_lower hlanguage
        region_isCode := by simp }
    | some code =>
      if hregion : isRegion code = true then some
        { language := String.ofList (Text.lower language)
          region := some (String.ofList (Text.upper code))
          language_isCode := by simpa using isLanguageCode_lower hlanguage
          region_isCode := by simpa using isRegionCode_upper hregion }
      else none
  else none

/-- The characters that stand between a language and a region. -/
def isSeparator (c : Char) : Bool :=
  c == '_' || c == '-'

theorem isSeparator_iff {c : Char} : isSeparator c = true ↔ c = '_' ∨ c = '-' := by
  simp [isSeparator]

/-- The characters that open a suffix, which names an encoding or a variant. -/
def isSuffixMark (c : Char) : Bool :=
  c == '.' || c == '@'

theorem isSuffixMark_iff {c : Char} : isSuffixMark c = true ↔ c = '.' ∨ c = '@' := by
  simp [isSuffixMark]

/-- The locale that a text names, if it names one. -/
def ofChars? (s : List Char) : Option Locale :=
  let base := (Text.trim s).takeWhile fun c => !isSuffixMark c
  let language := base.takeWhile fun c => !isSeparator c
  match base.dropWhile fun c => !isSeparator c with
  | [] => ofCodes? language none
  | _ :: region => ofCodes? language (some region)

/-- Reads a locale such as `de`, `de_AT`, `de-AT` or `de_AT.UTF-8`. -/
def parse (text : String) : Except Invalid Locale :=
  match ofChars? text.toList with
  | some locale => .ok locale
  | none => .error ⟨text⟩

/-- Reads the locale of a language and a region, as one text with `_` between the two. -/
def ofParts (language : String) (region : Option String) : Except Invalid Locale :=
  match region with
  | some code => parse (language ++ "_" ++ code)
  | none => parse language

/-- The locale of a language code, without a region. -/
def ofLanguage (code : String) (h : IsLanguageCode code.toList) : Locale where
  language := code
  region := none
  language_isCode := h
  region_isCode := by simp

/-- English without a region, the locale descriptions are rendered in unless another is named. -/
def root : Locale :=
  ofLanguage "en" ⟨by decide, by decide⟩

/-- The language of a locale, without its region. -/
def withoutRegion (locale : Locale) : Locale :=
  ofLanguage locale.language locale.language_isCode

/-- The text that names a locale: the language, and `_` and the region if there is one. -/
def tag (locale : Locale) : String :=
  match locale.region with
  | some code => locale.language ++ "_" ++ code
  | none => locale.language

/-- A locale as a string, its tag. -/
def toJson (locale : Locale) : Json :=
  .str locale.tag

/-- Reads a locale from a string, in any spelling. -/
def ofJson? (json : Json) : Option Locale := do
  (parse (← json.str?)).toOption

/-- The locales whose messages serve a locale, the most specific first. -/
def chain (locale : Locale) : List Locale :=
  match locale.region with
  | some _ => [locale, locale.withoutRegion]
  | none => [locale]

/-- The tags under which messages for a locale are looked up, the most specific first. -/
def candidates (locale : Locale) : List String :=
  locale.chain.map tag

/-- No region stands before any region, and two regions stand in the order of their text. -/
def regionBefore : Option String → Option String → Bool
  | none, none => false
  | none, some _ => true
  | some _, none => false
  | some a, some b => decide (a < b)

/-- Locales stand in the order of their languages, those of one language in the order of regions. -/
def before (a b : Locale) : Bool :=
  decide (a.language < b.language) || (a.language == b.language && regionBefore a.region b.region)

/-- The locales of a list in order, neighbours that are equal merged. -/
def inOrder (locales : List Locale) : List Locale :=
  (locales.mergeSort fun a b => !b.before a).eraseReps

end Locale

end CiFront
