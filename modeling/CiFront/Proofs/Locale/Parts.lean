import CiFront.Proofs.Locale.Spelling
import CiFront.Proofs.Text.Trim
/-!
# Locales made of a language and a region

The two parts are put together with a separator and read as one text. A plain language, without separators
and suffix marks, is followed by the region that is given, and by none if none is given. A suffix mark in
the language hides the region behind it, and a separator in front of any mark brings in a region of the
language's own.
-/

namespace CiFront.Locale

variable {s front code : List Char} {language : String} {region : Option String} {locale : Locale}

/-! ### The region of a text without a suffix -/

theorem region_of_ofCodes? {letters : List Char} {codes : Option (List Char)}
    (h : ofCodes? letters codes = some locale) :
    locale.region = (codes.map Text.upper).map String.ofList := by
  rw [ofCodes?] at h
  split at h
  next =>
    split at h
    next =>
      cases h
      rfl
    next code =>
      split at h
      next =>
        cases h
        rfl
      next => cases h
  next => cases h

theorem any_isSeparator_eq (s : List Char) :
    s.any isSeparator = !(s.dropWhile fun c => !isSeparator c).isEmpty := by
  induction s with
  | nil => rfl
  | cons c s ih =>
    rw [List.any_cons, List.dropWhile_cons, ih]
    cases isSeparator c <;> rfl

theorem isSome_region_of_ofBase? (h : ofBase? front = some locale) :
    locale.region.isSome = front.any isSeparator := by
  rw [any_isSeparator_eq]
  rw [ofBase?] at h
  split at h
  next hdrop =>
    rw [region_of_ofCodes? h, hdrop]
    rfl
  next hdrop =>
    rw [region_of_ofCodes? h, hdrop]
    rfl

/-- A region is no text with a separator in it, so only one separator is read. -/
theorem not_isSeparator_of_ofBase? (h : ofBase? (front ++ '_' :: code) = some locale) :
    ∀ c ∈ front, (!isSeparator c) = true := by
  cases hdrop : front.dropWhile fun c => !isSeparator c with
  | nil => exact List.dropWhile_eq_nil_iff.mp hdrop
  | cons separator more =>
    have hwhole : (front ++ '_' :: code).dropWhile (fun c => !isSeparator c)
        = separator :: (more ++ '_' :: code) := by
      rw [List.dropWhile_append, hdrop]
      rfl
    rw [ofBase?, hwhole] at h
    have hregion := (isLanguage_and_isRegion_of_ofCodes? h).2 _ rfl
    have hunderscore : '_'.isAlphanum = true :=
      isAlphanum_of_isRegion hregion (List.mem_append_right more List.mem_cons_self)
    exact absurd hunderscore (by decide)

theorem region_of_ofBase? (h : ofBase? (front ++ '_' :: code) = some locale) :
    locale.region = some (String.ofList (Text.upper code)) := by
  have hfront := not_isSeparator_of_ofBase? h
  have hdrop : (front ++ '_' :: code).dropWhile (fun c => !isSeparator c) = '_' :: code := by
    rw [List.dropWhile_append_of_pos hfront]
    rfl
  rw [ofBase?, hdrop] at h
  exact region_of_ofCodes? h

/-! ### Suffix marks -/

/-- What a text holds in front of the first mark of a suffix. -/
def beforeMark (s : List Char) : List Char :=
  s.takeWhile fun c => !isSuffixMark c

/-- Whether a text holds the mark of a suffix. -/
def hasMark (s : List Char) : Bool :=
  s.any isSuffixMark

/-- Whether a text names a region: it has a separator in front of any mark. -/
def namesRegion (s : List Char) : Bool :=
  (beforeMark s).any isSeparator

theorem isBlank_eq_false_of_isSuffixMark {c : Char} (h : isSuffixMark c = true) :
    Text.isBlank c = false := by
  rcases isSuffixMark_iff.mp h with rfl | rfl <;> rfl

theorem isSuffixMark_eq_false_of_isBlank (c : Char) (h : Text.isBlank c = true) :
    isSuffixMark c = false :=
  Bool.eq_false_iff.mpr fun hmark =>
    Bool.eq_false_iff.mp (isBlank_eq_false_of_isSuffixMark hmark) h

theorem isSeparator_eq_false_of_isBlank (c : Char) (h : Text.isBlank c = true) :
    isSeparator c = false :=
  Bool.eq_false_iff.mpr fun hseparator =>
    Bool.eq_false_iff.mp (isBlank_eq_false_of_isSeparator hseparator) h

theorem hasMark_trimStart (s : List Char) : hasMark (Text.trimStart s) = hasMark s :=
  Text.any_trimStart isSuffixMark_eq_false_of_isBlank s

theorem hasMark_trim (s : List Char) : hasMark (Text.trim s) = hasMark s :=
  Text.any_trim isSuffixMark_eq_false_of_isBlank s

theorem not_isSuffixMark_of_hasMark (h : hasMark s = false) : ∀ c ∈ s, (!isSuffixMark c) = true := by
  rw [hasMark, List.any_eq_false] at h
  intro c hc
  rw [Bool.not_eq_true', ← Bool.not_eq_true]
  exact h c hc

theorem hasMark_beforeMark (s : List Char) : hasMark (beforeMark s) = false := by
  rw [hasMark, List.any_eq_false]
  intro c hc
  simpa using List.mem_takeWhile_imp hc

theorem exists_eq_beforeMark_append (h : hasMark s = true) :
    ∃ mark back, s = beforeMark s ++ mark :: back ∧ isSuffixMark mark = true := by
  obtain ⟨hsplit, -, hmark⟩ := (Text.takeWhile_eq_and_dropWhile_eq_iff (s := s)
    (p := fun c => !isSuffixMark c)).mp ⟨rfl, rfl⟩
  cases hdrop : s.dropWhile fun c => !isSuffixMark c with
  | nil =>
    rw [hdrop, List.append_nil] at hsplit
    rw [hsplit] at h
    exact absurd h (Bool.eq_false_iff.mp (hasMark_beforeMark s))
  | cons mark back =>
    rw [hdrop] at hsplit hmark
    exact ⟨mark, back, hsplit, by simpa using hmark mark rfl⟩

theorem beforeMark_append (h : hasMark s = false) (rest : List Char) :
    beforeMark (s ++ rest) = s ++ beforeMark rest :=
  List.takeWhile_append_of_pos (not_isSuffixMark_of_hasMark h)

theorem beforeMark_eq_self (h : hasMark s = false) : beforeMark s = s :=
  List.takeWhile_eq_self_iff.mpr (not_isSuffixMark_of_hasMark h)

theorem beforeMark_cons_of_mark {mark : Char} (h : isSuffixMark mark = true) (rest : List Char) :
    beforeMark (mark :: rest) = [] := by
  rw [beforeMark, List.takeWhile_cons, h]
  rfl

theorem beforeMark_cons {c : Char} (h : isSuffixMark c = false) (rest : List Char) :
    beforeMark (c :: rest) = c :: beforeMark rest := by
  rw [beforeMark, List.takeWhile_cons, h]
  rfl

theorem beforeMark_append_of_hasMark (h : hasMark s = true) (rest : List Char) :
    beforeMark (s ++ rest) = beforeMark s := by
  obtain ⟨mark, back, hs, hmark⟩ := exists_eq_beforeMark_append h
  calc beforeMark (s ++ rest)
      = beforeMark (beforeMark s ++ mark :: (back ++ rest)) := by
        rw [← List.cons_append, ← List.append_assoc, ← hs]
    _ = beforeMark s := by
        rw [beforeMark_append (hasMark_beforeMark s), beforeMark_cons_of_mark hmark, List.append_nil]

theorem beforeMark_trim_append (h : hasMark s = true) (rest : List Char) :
    beforeMark (Text.trim (s ++ rest)) = Text.trimStart (beforeMark s) := by
  obtain ⟨mark, back, hs, hmark⟩ := exists_eq_beforeMark_append h
  have hplain : hasMark (Text.trimStart (beforeMark s)) = false := by
    rw [hasMark_trimStart, hasMark_beforeMark]
  calc beforeMark (Text.trim (s ++ rest))
      = beforeMark (Text.trim (beforeMark s ++ mark :: (back ++ rest))) := by
        rw [← List.cons_append, ← List.append_assoc, ← hs]
    _ = Text.trimStart (beforeMark s) ++ beforeMark (mark :: Text.trimEnd (back ++ rest)) := by
        rw [Text.trim_append_cons_of_not_blank (isBlank_eq_false_of_isSuffixMark hmark),
          beforeMark_append hplain]
    _ = Text.trimStart (beforeMark s) := by
        rw [beforeMark_cons_of_mark hmark, List.append_nil]

/-- Nothing behind a suffix mark is looked at. -/
theorem ofChars?_append_of_hasMark (h : hasMark s = true) (rest : List Char) :
    ofChars? (s ++ rest) = ofChars? s := by
  have hfront := beforeMark_trim_append h rest
  have hself := beforeMark_trim_append h []
  rw [List.append_nil] at hself
  rw [ofChars?_eq_ofBase?, ofChars?_eq_ofBase?]
  exact congrArg ofBase? (hfront.trans hself.symm)

theorem any_isSeparator_beforeMark_trim (s : List Char) :
    (beforeMark (Text.trim s)).any isSeparator = namesRegion s := by
  rw [namesRegion]
  cases hmark : hasMark s with
  | true =>
    have hfront := beforeMark_trim_append hmark []
    rw [List.append_nil] at hfront
    rw [hfront, Text.any_trimStart isSeparator_eq_false_of_isBlank]
  | false =>
    have htrim : hasMark (Text.trim s) = false := by rw [hasMark_trim, hmark]
    rw [beforeMark_eq_self htrim, beforeMark_eq_self hmark,
      Text.any_trim isSeparator_eq_false_of_isBlank]

theorem isSome_region_of_ofChars? (h : ofChars? s = some locale) :
    locale.region.isSome = namesRegion s := by
  rw [ofChars?_eq_ofBase?] at h
  rw [isSome_region_of_ofBase? h]
  exact any_isSeparator_beforeMark_trim s

theorem namesRegion_append (s given : List Char) :
    namesRegion (s ++ '_' :: given) = (namesRegion s || !hasMark s) := by
  cases hmark : hasMark s with
  | true =>
    rw [namesRegion, beforeMark_append_of_hasMark hmark, Bool.not_true, Bool.or_false, namesRegion]
  | false =>
    rw [namesRegion, beforeMark_append hmark, beforeMark_cons rfl, List.any_append, List.any_cons,
      Bool.not_false, Bool.or_true]
    exact Bool.or_true _

theorem namesRegion_eq_false_of_forall (h : ∀ c ∈ s, isSeparator c = false ∧ isSuffixMark c = false) :
    namesRegion s = false ∧ hasMark s = false := by
  have hmark : hasMark s = false :=
    List.any_eq_false.mpr fun c hc => Bool.eq_false_iff.mp (h c hc).2
  refine ⟨?_, hmark⟩
  rw [namesRegion, beforeMark_eq_self hmark, List.any_eq_false]
  exact fun c hc => Bool.eq_false_iff.mp (h c hc).1

/-! ### The two parts -/

/-- The text that a language and a region are read as. -/
def joined (language : String) (region : Option String) : List Char :=
  language.toList ++ match region with
    | some given => '_' :: given.toList
    | none => []

theorem ofParts_eq_ok_iff :
    ofParts language region = .ok locale ↔ ofChars? (joined language region) = some locale := by
  cases region with
  | none => rw [ofParts, joined, parse_eq_ok_iff, List.append_nil]
  | some given =>
    rw [ofParts, joined, parse_eq_ok_iff, String.toList_append, String.toList_append, List.append_assoc]
    rfl

theorem namesRegion_joined (language : String) (region : Option String) :
    namesRegion (joined language region)
      = (namesRegion language.toList || (region.isSome && !hasMark language.toList)) := by
  cases region with
  | none => rw [joined, List.append_nil, Option.isSome_none, Bool.false_and, Bool.or_false]
  | some given => rw [joined, namesRegion_append, Option.isSome_some, Bool.true_and]

theorem ofChars?_joined_of_hasMark (h : hasMark language.toList = true) (region : Option String) :
    ofChars? (joined language region) = ofChars? language.toList := by
  exact ofChars?_append_of_hasMark h _

theorem region_of_ofChars?_joined {given : String} (hmark : hasMark language.toList = false)
    (h : ofChars? (joined language (some given)) = some locale) :
    locale.region = some (String.ofList (Text.upper (beforeMark (Text.trimEnd given.toList)))) := by
  rw [joined, ofChars?_eq_ofBase?, Text.trim_append_cons_of_not_blank (by decide)] at h
  have hplain : hasMark (Text.trimStart language.toList) = false := by rw [hasMark_trimStart, hmark]
  have hfront : (Text.trimStart language.toList ++ '_' :: Text.trimEnd given.toList).takeWhile
        (fun c => !isSuffixMark c)
      = Text.trimStart language.toList ++ '_' :: beforeMark (Text.trimEnd given.toList) := by
    change beforeMark _ = _
    rw [beforeMark_append hplain, beforeMark_cons rfl]
  rw [hfront] at h
  exact region_of_ofBase? h

/-- **A region is kept behind a plain language.** What a language and a region are read as has a region if
and only if one is given, provided that the language holds no separator and no suffix mark. In general the
language may name a region too, and a suffix mark in it hides the one that is given, whichever this is; in
front of no such mark the region is the given one, up to letter case and its own suffix. -/
theorem isSome_region_iff_of_ofParts (h : ofParts language region = .ok locale) :
    ((∀ c ∈ language.toList, isSeparator c = false ∧ isSuffixMark c = false) →
        (locale.region.isSome = true ↔ region.isSome = true))
      ∧ (locale.region.isSome = true
        ↔ namesRegion language.toList = true ∨ region.isSome = true ∧ hasMark language.toList = false)
      ∧ (hasMark language.toList = true → ∀ other, ofParts language other = .ok locale)
      ∧ (hasMark language.toList = false → ∀ given ∈ region,
        locale.region = some (String.ofList (Text.upper (beforeMark (Text.trimEnd given.toList))))) := by
  rw [ofParts_eq_ok_iff] at h
  have hregion := isSome_region_of_ofChars? h
  rw [namesRegion_joined] at hregion
  refine ⟨?_, ?_, ?_, ?_⟩
  · intro hplain
    obtain ⟨hnames, hmark⟩ := namesRegion_eq_false_of_forall hplain
    rw [hregion, hnames, hmark, Bool.not_false, Bool.and_true, Bool.false_or]
  · rw [hregion, Bool.or_eq_true, Bool.and_eq_true, Bool.not_eq_true']
  · intro hmark other
    rw [ofParts_eq_ok_iff, ofChars?_joined_of_hasMark hmark other, ← h,
      ofChars?_joined_of_hasMark hmark region]
  · rintro hmark given hgiven
    rw [Option.mem_def] at hgiven
    rw [hgiven] at h
    exact region_of_ofChars?_joined hmark h

/-- A region is kept behind blanks and a language, lost behind a mark, and named by the language alone. -/
theorem ofParts_englishMark_and_austrian :
    (ofParts " de" (some "at.UTF-8 ") = .ok Spelling.austrianTag.locale
        ∧ (Spelling.austrianTag.locale.region.isSome = true ↔ (some "at.UTF-8 ").isSome = true)
        ∧ Spelling.austrianTag.locale.region = some "AT")
      ∧ (ofParts "en@x" (some "GB") = .ok root ∧ ∀ other, ofParts "en@x" other = .ok root)
      ∧ ofParts "de-at" none = .ok Spelling.austrianTag.locale
      ∧ (Spelling.austrianTag.locale.region.isSome = true
        ↔ namesRegion "de-at".toList = true ∨ (none : Option String).isSome = true
          ∧ hasMark "de-at".toList = false) := by
  have hkept : ofParts " de" (some "at.UTF-8 ") = .ok Spelling.austrianTag.locale := by decide
  have hlost : ofParts "en@x" (some "GB") = .ok root := by decide
  have hown : ofParts "de-at" none = .ok Spelling.austrianTag.locale := by decide
  obtain ⟨hplain, -, -, hgiven⟩ := isSome_region_iff_of_ofParts hkept
  exact ⟨⟨hkept, hplain (List.all_iff_forall_prop.mp (by decide)), hgiven (by decide) "at.UTF-8 " rfl⟩,
    ⟨hlost, (isSome_region_iff_of_ofParts hlost).2.2.1 (by decide)⟩,
    hown, (isSome_region_iff_of_ofParts hown).2.1⟩

end CiFront.Locale
