import CiFront.Proofs.Locale.Tag
import CiFront.Proofs.Text.Case
import CiFront.Proofs.Text.Strip
/-!
# Spellings of locales

A locale is spelled by its language, by its region behind a separator unless it has none, and by a suffix
that a mark opens, or by no suffix. Reading accepts the spellings with blanks around them and nothing else,
and all it sees of a spelling is the language and the region, in any letter case.
-/

namespace CiFront.Locale

/-! ### Letters, separators and marks -/

theorem isSuffixMark_eq_false_of_isAlphanum {c : Char} (h : c.isAlphanum = true) :
    isSuffixMark c = false := by
  rw [← Bool.not_eq_true, isSuffixMark_iff]
  rintro (rfl | rfl) <;> exact absurd h (by decide)

theorem isSeparator_eq_false_of_isAlphanum {c : Char} (h : c.isAlphanum = true) :
    isSeparator c = false := by
  rw [← Bool.not_eq_true, isSeparator_iff]
  rintro (rfl | rfl) <;> exact absurd h (by decide)

theorem isSuffixMark_eq_false_of_isSeparator {c : Char} (h : isSeparator c = true) :
    isSuffixMark c = false := by
  rcases isSeparator_iff.mp h with rfl | rfl <;> rfl

theorem isBlank_eq_false_of_isSeparator {c : Char} (h : isSeparator c = true) :
    Text.isBlank c = false := by
  rcases isSeparator_iff.mp h with rfl | rfl <;> rfl

theorem isAlphanum_of_isLanguage {language : List Char} (h : isLanguage language = true) {c : Char}
    (hc : c ∈ language) : c.isAlphanum = true := by
  rw [Char.isAlphanum, Text.isAlpha_iff.mpr ((isLanguage_iff.mp h).2 c hc), Bool.true_or]

theorem isAlphanum_of_isRegion {code : List Char} (h : isRegion code = true) {c : Char}
    (hc : c ∈ code) : c.isAlphanum = true :=
  Text.isAlphanum_iff.mpr ((isRegion_iff.mp h).2 c hc)

theorem isSuffixMark_head?_nil : ∀ c ∈ ([] : List Char).head?, isSuffixMark c = true := by
  rintro _ ⟨⟩

/-! ### Spellings -/

/-- A text that names a locale, in parts. -/
structure Spelling where
  language : List Char
  /-- A separator and the region behind it. -/
  region : Option (Char × List Char)
  suffix : List Char
  isLanguage_language : isLanguage language = true
  isRegion_region : ∀ part ∈ region, isSeparator part.1 = true ∧ isRegion part.2 = true
  isSuffixMark_suffix : ∀ c ∈ suffix.head?, isSuffixMark c = true

namespace Spelling

/-- The region without its separator. -/
def code? (spelling : Spelling) : Option (List Char) :=
  spelling.region.map Prod.snd

/-- The region behind its separator; nothing if there is none. -/
def regionPart (spelling : Spelling) : List Char :=
  match spelling.region with
  | some (separator, code) => separator :: code
  | none => []

/-- What stands in front of the suffix. -/
def base (spelling : Spelling) : List Char :=
  spelling.language ++ spelling.regionPart

/-- The text of a spelling. -/
def text (spelling : Spelling) : List Char :=
  spelling.base ++ spelling.suffix

theorem isRegion_of_mem_code? (spelling : Spelling) {code : List Char} (h : code ∈ spelling.code?) :
    isRegion code = true := by
  obtain ⟨part, hpart, rfl⟩ := Option.map_eq_some_iff.mp h
  exact (spelling.isRegion_region part hpart).2

/-- The locale that a spelling names. -/
def locale (spelling : Spelling) : Locale where
  language := String.ofList (Text.lower spelling.language)
  region := (spelling.code?.map Text.upper).map String.ofList
  language_isCode := by simpa using isLanguageCode_lower spelling.isLanguage_language
  region_isCode := by
    intro region hregion
    rw [Option.map_map] at hregion
    obtain ⟨code, hcode, rfl⟩ := Option.map_eq_some_iff.mp hregion
    simpa using isRegionCode_upper (spelling.isRegion_of_mem_code? hcode)

/-- Whether a text is the one of a spelling with blanks around it. -/
def Spells (spelling : Spelling) (text : String) : Prop :=
  Text.StripsTo Text.isBlank text.toList spelling.text

instance (spelling : Spelling) (text : String) : Decidable (spelling.Spells text) :=
  inferInstanceAs (Decidable (Text.StripsTo Text.isBlank text.toList spelling.text))

/-- Whether two spellings have the same language and the same region up to letter case. -/
def AgreesUpToCase (first second : Spelling) : Prop :=
  Text.lower first.language = Text.lower second.language
    ∧ first.code?.map Text.lower = second.code?.map Text.lower

theorem AgreesUpToCase.locale_eq {first second : Spelling} (h : first.AgreesUpToCase second) :
    first.locale = second.locale := by
  obtain ⟨hlanguage, hcode⟩ := h
  have hupper : first.code?.map Text.upper = second.code?.map Text.upper := by
    rw [← funext Text.upper_lower]
    have hboth := congrArg (Option.map Text.upper) hcode
    rwa [Option.map_map, Option.map_map] at hboth
  rw [locale, locale, Locale.mk.injEq, hlanguage, hupper]
  exact ⟨rfl, rfl⟩

theorem not_isSeparator_language (spelling : Spelling) :
    ∀ c ∈ spelling.language, (!isSeparator c) = true := by
  intro c hc
  rw [isSeparator_eq_false_of_isAlphanum (isAlphanum_of_isLanguage spelling.isLanguage_language hc)]
  rfl

theorem isSeparator_head_regionPart (spelling : Spelling) :
    ∀ c ∈ spelling.regionPart.head?, (!isSeparator c) = false := by
  intro c hc
  rw [regionPart] at hc
  cases hregion : spelling.region with
  | none => rw [hregion] at hc; cases hc
  | some part =>
    rw [hregion] at hc
    cases hc
    rw [(spelling.isRegion_region part hregion).1]
    rfl

theorem isAlphanum_or_isSeparator_of_mem_base (spelling : Spelling) {c : Char}
    (h : c ∈ spelling.base) : c.isAlphanum = true ∨ isSeparator c = true := by
  rw [base, List.mem_append] at h
  rcases h with hlanguage | hregion
  · exact .inl (isAlphanum_of_isLanguage spelling.isLanguage_language hlanguage)
  · rw [regionPart] at hregion
    cases hpart : spelling.region with
    | none => rw [hpart] at hregion; cases hregion
    | some part =>
      rw [hpart] at hregion
      obtain ⟨hseparator, hcode⟩ := spelling.isRegion_region part hpart
      rcases List.mem_cons.mp hregion with rfl | hmem
      · exact .inr hseparator
      · exact .inl (isAlphanum_of_isRegion hcode hmem)

theorem not_isSuffixMark_base (spelling : Spelling) :
    ∀ c ∈ spelling.base, (!isSuffixMark c) = true := by
  intro c hc
  rw [Bool.not_eq_true']
  rcases spelling.isAlphanum_or_isSeparator_of_mem_base hc with halphanum | hseparator
  · exact isSuffixMark_eq_false_of_isAlphanum halphanum
  · exact isSuffixMark_eq_false_of_isSeparator hseparator

theorem isBlank_eq_false_of_mem_base (spelling : Spelling) {c : Char} (h : c ∈ spelling.base) :
    Text.isBlank c = false := by
  rcases spelling.isAlphanum_or_isSeparator_of_mem_base h with halphanum | hseparator
  · exact Text.isBlank_eq_false_of_isAlphanum halphanum
  · exact isBlank_eq_false_of_isSeparator hseparator

end Spelling

/-! ### Reading -/

variable {s front suffix language : List Char} {region : Option (List Char)} {locale : Locale}

theorem isLanguage_and_isRegion_of_ofCodes? (h : ofCodes? language region = some locale) :
    isLanguage language = true ∧ ∀ code ∈ region, isRegion code = true := by
  rw [ofCodes?] at h
  split at h
  next hlanguage =>
    split at h
    next => exact ⟨hlanguage, by simp⟩
    next code =>
      split at h
      next hregion => exact ⟨hlanguage, by simpa using hregion⟩
      next => cases h
  next => cases h

theorem Spelling.ofCodes?_eq (spelling : Spelling) :
    ofCodes? spelling.language spelling.code? = some spelling.locale := by
  rcases spelling with ⟨language, region, suffix, hlanguage, hregion, hsuffix⟩
  rw [ofCodes?, dif_pos hlanguage]
  cases region with
  | none => rfl
  | some part =>
    dsimp only [code?, Option.map_some]
    rw [dif_pos (hregion part rfl).2]
    rfl

/-- The locale of a text without a suffix. -/
def ofBase? (front : List Char) : Option Locale :=
  match front.dropWhile fun c => !isSeparator c with
  | [] => ofCodes? (front.takeWhile fun c => !isSeparator c) none
  | _ :: region => ofCodes? (front.takeWhile fun c => !isSeparator c) (some region)

theorem ofChars?_eq_ofBase? (s : List Char) :
    ofChars? s = ofBase? ((Text.trim s).takeWhile fun c => !isSuffixMark c) :=
  rfl

theorem Spelling.ofBase?_base (spelling : Spelling) : ofBase? spelling.base = some spelling.locale := by
  obtain ⟨htake, hdrop⟩ := Text.takeWhile_eq_and_dropWhile_eq_iff.mpr
    ⟨rfl, spelling.not_isSeparator_language, spelling.isSeparator_head_regionPart⟩
  rw [← spelling.ofCodes?_eq, ofBase?, base, hdrop, htake, regionPart, code?]
  cases spelling.region <;> rfl

theorem Spelling.ofChars?_of_trim (spelling : Spelling) (h : Text.trim s = spelling.text) :
    ofChars? s = some spelling.locale := by
  have hsuffix : ∀ c ∈ spelling.suffix.head?, (!isSuffixMark c) = false := fun c hc => by
    rw [spelling.isSuffixMark_suffix c hc, Bool.not_true]
  have htake := (Text.takeWhile_eq_and_dropWhile_eq_iff.mpr
    ⟨rfl, spelling.not_isSuffixMark_base, hsuffix⟩).1
  rw [ofChars?_eq_ofBase?, h, text, htake, spelling.ofBase?_base]

theorem exists_spelling_of_ofBase? (h : ofBase? front = some locale)
    (hsuffix : ∀ c ∈ suffix.head?, isSuffixMark c = true) :
    ∃ spelling : Spelling, spelling.text = front ++ suffix ∧ spelling.locale = locale := by
  have hsplit := List.takeWhile_append_dropWhile (p := fun c => !isSeparator c) (l := front)
  have hhead := List.head?_dropWhile_not (fun c => !isSeparator c) front
  rw [ofBase?] at h
  cases hdrop : front.dropWhile (fun c => !isSeparator c) with
  | nil =>
    rw [hdrop] at h hsplit
    obtain ⟨hlanguage, -⟩ := isLanguage_and_isRegion_of_ofCodes? h
    let spelling : Spelling := ⟨_, none, suffix, hlanguage, by simp, hsuffix⟩
    refine ⟨spelling, ?_, Option.some.inj (spelling.ofCodes?_eq.symm.trans h)⟩
    rw [Spelling.text, Spelling.base, Spelling.regionPart, hsplit]
  | cons separator code =>
    rw [hdrop] at h hsplit hhead
    obtain ⟨hlanguage, hregion⟩ := isLanguage_and_isRegion_of_ofCodes? h
    have hseparator : isSeparator separator = true := by simpa using hhead
    let spelling : Spelling := ⟨_, some (separator, code), suffix, hlanguage,
      fun _ hpart => Option.some.inj hpart ▸ ⟨hseparator, hregion code rfl⟩, hsuffix⟩
    refine ⟨spelling, ?_, Option.some.inj (spelling.ofCodes?_eq.symm.trans h)⟩
    rw [Spelling.text, Spelling.base, Spelling.regionPart, hsplit]

theorem ofChars?_eq_some_iff :
    ofChars? s = some locale
      ↔ ∃ spelling : Spelling, Text.StripsTo Text.isBlank s spelling.text ∧ spelling.locale = locale := by
  constructor
  · intro h
    rw [ofChars?_eq_ofBase?] at h
    obtain ⟨hsplit, -, hmark⟩ := (Text.takeWhile_eq_and_dropWhile_eq_iff (s := Text.trim s)
      (p := fun c => !isSuffixMark c)).mp ⟨rfl, rfl⟩
    obtain ⟨spelling, htext, hlocale⟩ := exists_spelling_of_ofBase? h fun c hc => by
      simpa using hmark c hc
    exact ⟨spelling, Text.stripsTo_isBlank_iff.mpr (hsplit.trans htext.symm), hlocale⟩
  · rintro ⟨spelling, hstrips, rfl⟩
    exact spelling.ofChars?_of_trim (Text.stripsTo_isBlank_iff.mp hstrips)

theorem parse_eq_ok_iff {text : String} : parse text = .ok locale ↔ ofChars? text.toList = some locale := by
  rw [parse]
  cases ofChars? text.toList <;> simp

theorem parse_eq_error_iff {text : String} {invalid : Invalid} :
    parse text = .error invalid ↔ invalid = ⟨text⟩ ∧ ofChars? text.toList = none := by
  rw [parse]
  cases ofChars? text.toList <;> simp [eq_comm]

theorem parse_of_spells {spelling : Spelling} {text : String} (h : spelling.Spells text) :
    parse text = .ok spelling.locale :=
  parse_eq_ok_iff.mpr (ofChars?_eq_some_iff.mpr ⟨spelling, h, rfl⟩)

/-- **Reading accepts the spellings of locales and nothing else.** A text with a spelling of a locale
between blanks is read as this locale, and every other text is refused as it stands. Spellings that agree
up to letter case are read alike, whatever their separators and their suffixes. -/
theorem parse_eq_ok_iff_spells_and_eq_error_iff_and_congr (text : String) :
    (∀ locale, parse text = .ok locale
        ↔ ∃ spelling : Spelling, spelling.Spells text ∧ spelling.locale = locale)
      ∧ (∀ invalid, parse text = .error invalid
        ↔ invalid = ⟨text⟩ ∧ ∀ spelling : Spelling, ¬ spelling.Spells text)
      ∧ ∀ (other : String) (first second : Spelling), first.Spells text → second.Spells other →
        first.AgreesUpToCase second → parse text = parse other := by
  refine ⟨?_, ?_, ?_⟩
  · intro locale
    rw [parse_eq_ok_iff, ofChars?_eq_some_iff]
    rfl
  · intro invalid
    rw [parse_eq_error_iff, Option.eq_none_iff_forall_not_mem]
    simp only [Option.mem_def, ofChars?_eq_some_iff]
    constructor
    · rintro ⟨hinvalid, hnone⟩
      exact ⟨hinvalid, fun spelling hspells => hnone spelling.locale ⟨spelling, hspells, rfl⟩⟩
    · rintro ⟨hinvalid, hnone⟩
      exact ⟨hinvalid, fun _ ⟨spelling, hspells, _⟩ => hnone spelling hspells⟩
  · intro other first second hfirst hsecond hagrees
    rw [parse_of_spells hfirst, parse_of_spells hsecond, hagrees.locale_eq]

/-- Austrian German as a terminal might name it. -/
def Spelling.austrianTerminal : Spelling where
  language := "DE".toList
  region := some ('-', "at".toList)
  suffix := ".UTF-8".toList
  isLanguage_language := by decide
  isRegion_region := by rintro _ ⟨⟩; decide
  isSuffixMark_suffix := by rintro _ ⟨⟩; decide

/-- Latin American Spanish by its three letters and three digits, in a variant. -/
def Spelling.latinAmerican : Spelling where
  language := "Spa".toList
  region := some ('_', "419".toList)
  suffix := "@modern.x".toList
  isLanguage_language := by decide
  isRegion_region := by rintro _ ⟨⟩; decide
  isSuffixMark_suffix := by rintro _ ⟨⟩; decide

/-- Austrian German by its tag. -/
def Spelling.austrianTag : Spelling where
  language := "de".toList
  region := some ('_', "AT".toList)
  suffix := []
  isLanguage_language := by decide
  isRegion_region := by rintro _ ⟨⟩; decide
  isSuffixMark_suffix := isSuffixMark_head?_nil

theorem parse_austrianTerminal :
    Spelling.austrianTerminal.Spells "\u00a0DE-at.UTF-8 \n" ∧ Spelling.austrianTag.Spells "de_AT"
      ∧ Spelling.austrianTerminal.AgreesUpToCase Spelling.austrianTag
      ∧ parse "\u00a0DE-at.UTF-8 \n" = parse "de_AT"
      ∧ parse "\u00a0DE-at.UTF-8 \n" = .ok Spelling.austrianTag.locale
      ∧ parse "\tSpa_419@modern.x" = .ok Spelling.latinAmerican.locale
      ∧ parse "de_AT_x" = .error ⟨"de_AT_x"⟩ := by
  have hterminal : Spelling.austrianTerminal.Spells "\u00a0DE-at.UTF-8 \n" := by decide
  have htag : Spelling.austrianTag.Spells "de_AT" := by decide
  have hvariant : Spelling.latinAmerican.Spells "\tSpa_419@modern.x" := by decide
  have hagrees : Spelling.austrianTerminal.AgreesUpToCase Spelling.austrianTag := ⟨by decide, by decide⟩
  obtain ⟨hok, -, hcongr⟩ :=
    parse_eq_ok_iff_spells_and_eq_error_iff_and_congr "\u00a0DE-at.UTF-8 \n"
  exact ⟨hterminal, htag, hagrees, hcongr _ _ _ hterminal htag hagrees,
    (hok _).mpr ⟨_, hterminal, hagrees.locale_eq⟩,
    ((parse_eq_ok_iff_spells_and_eq_error_iff_and_congr _).1 _).mpr ⟨_, hvariant, rfl⟩, by decide⟩

end CiFront.Locale
