import CiFront.Proofs.Locale.Spelling
import CiFront.Proofs.Text.Trim
/-!
# Tags spell locales, in their order

A tag is a spelling of its locale, so a locale is read back from its tag. Every letter of a language comes
behind the separator of a tag. Where a language ends inside another one its tag therefore comes first, with
or without a region, and the tags stand in the order of the locales.
-/

namespace CiFront

namespace Text

variable {xs ys front back : List Char}

/-- The order of two texts is the one of their first parts, and of the rest if these are equal, provided
that neither rest starts with a character that could stand in the other's first part. -/
theorem append_lt_append_iff (hfront : ∀ c ∈ front.head?, ∀ y ∈ ys, c < y)
    (hback : ∀ c ∈ back.head?, ∀ x ∈ xs, c < x) :
    xs ++ front < ys ++ back ↔ xs < ys ∨ xs = ys ∧ front < back := by
  induction xs generalizing ys with
  | nil =>
    cases ys with
    | nil => simp
    | cons y ys =>
      -- Only the left first part is used up: what follows it, if anything does, is less than `y`.
      have hlt : front < y :: ys ++ back := by
        cases front with
        | nil => exact List.nil_lt_cons y (ys ++ back)
        | cons c front => exact List.cons_lt_cons_iff.mpr (.inl (hfront c rfl y List.mem_cons_self))
      exact iff_of_true hlt (.inl (List.nil_lt_cons y ys))
  | cons x xs ih =>
    cases ys with
    | nil =>
      have hnot : ¬ x :: xs ++ front < back := by
        cases back with
        | nil => exact List.not_lt_nil _
        | cons c back =>
          have hlt := hback c rfl x List.mem_cons_self
          rw [List.cons_append, List.cons_lt_cons_iff]
          rintro (hgt | ⟨heq, -⟩)
          · exact lt_asymm hlt hgt
          · exact hlt.ne' heq
      refine iff_of_false hnot ?_
      rintro (hlt | ⟨hnil, -⟩)
      · exact List.not_lt_nil _ hlt
      · cases hnil
    | cons y ys =>
      have hrest := @ih ys (fun c hc z hz => hfront c hc z (List.mem_cons_of_mem y hz))
        fun c hc z hz => hback c hc z (List.mem_cons_of_mem x hz)
      rw [List.cons_append, List.cons_append, List.cons_lt_cons_iff, List.cons_lt_cons_iff, hrest,
        List.cons.injEq]
      tauto

end Text

namespace IsLanguageCode

variable {code : List Char}

theorem isLower (h : IsLanguageCode code) {c : Char} (hc : c ∈ code) : c.isLower = true :=
  List.all_eq_true.mp h.2 c hc

theorem isLanguage (h : IsLanguageCode code) : Locale.isLanguage code = true := by
  rw [Locale.isLanguage_iff]
  refine ⟨Locale.two_le_and_le_three_iff.mp h.1, fun c hc => ?_⟩
  rw [← Text.isAlpha_iff, Text.isAlpha_eq, h.isLower hc, Bool.or_true]

theorem lower_eq (h : IsLanguageCode code) : Text.lower code = code :=
  Text.lower_eq_self fun _ hc => Bool.eq_false_iff.mpr (Char.not_isUpper_of_isLower (h.isLower hc))

theorem separator_lt (h : IsLanguageCode code) {c : Char} (hc : c ∈ code) : '_' < c := by
  have hlower := h.isLower hc
  rw [Text.isLower_eq, Bool.and_eq_true, decide_eq_true_eq, UInt32.le_iff_toNat_le] at hlower
  rw [Char.lt_def, UInt32.lt_iff_toNat_lt]
  exact lt_of_lt_of_le (by decide) hlower.1

end IsLanguageCode

namespace IsRegionCode

variable {code : List Char}

theorem isUpper_or_isDigit (h : IsRegionCode code) {c : Char} (hc : c ∈ code) :
    c.isUpper = true ∨ c.isDigit = true := by
  rw [← Bool.or_eq_true]
  exact List.all_eq_true.mp h.2 c hc

theorem isRegion (h : IsRegionCode code) : Locale.isRegion code = true := by
  rw [Locale.isRegion_iff]
  refine ⟨Locale.two_le_and_le_three_iff.mp h.1, fun c hc => ?_⟩
  rw [← Text.isAlphanum_iff, Char.isAlphanum, Text.isAlpha_eq, Bool.or_eq_true, Bool.or_eq_true]
  exact (h.isUpper_or_isDigit hc).imp_left .inl

theorem upper_eq (h : IsRegionCode code) : Text.upper code = code := by
  refine Text.upper_eq_self fun c hc => ?_
  rcases h.isUpper_or_isDigit hc with hupper | hdigit
  · exact Bool.eq_false_iff.mpr (Char.not_isLower_of_isUpper hupper)
  · exact Text.isLower_eq_false_of_isDigit hdigit

end IsRegionCode

namespace Locale

/-! ### Tags as spellings -/

/-- The tag of a locale as a spelling. -/
def tagSpelling (locale : Locale) : Spelling where
  language := locale.language.toList
  region := locale.region.map fun code => ('_', code.toList)
  suffix := []
  isLanguage_language := locale.language_isCode.isLanguage
  isRegion_region := by
    intro part hpart
    obtain ⟨code, hcode, rfl⟩ := Option.map_eq_some_iff.mp hpart
    exact ⟨rfl, (locale.region_isCode code hcode).isRegion⟩
  isSuffixMark_suffix := isSuffixMark_head?_nil

theorem base_tagSpelling (locale : Locale) : locale.tagSpelling.base = locale.tag.toList := by
  rw [toList_tag]
  rcases locale with ⟨language, _ | code, hlanguage, hregion⟩ <;> rfl

theorem locale_tagSpelling (locale : Locale) : locale.tagSpelling.locale = locale := by
  rcases locale with ⟨language, region, hlanguage, hregion⟩
  simp only [Spelling.locale, Spelling.code?, tagSpelling, Locale.mk.injEq, hlanguage.lower_eq,
    String.ofList_toList, true_and]
  cases region with
  | none => rfl
  | some code => simp [(hregion code rfl).upper_eq]

theorem spells_tagSpelling (locale : Locale) : locale.tagSpelling.Spells locale.tag := by
  rw [Spelling.Spells, Text.stripsTo_isBlank_iff, Spelling.text, base_tagSpelling, tagSpelling,
    List.append_nil]
  refine Text.trim_eq_self_of_forall fun c hc => ?_
  rw [← base_tagSpelling] at hc
  exact locale.tagSpelling.isBlank_eq_false_of_mem_base hc

theorem parse_tag (locale : Locale) : parse locale.tag = .ok locale := by
  rw [parse_of_spells locale.spells_tagSpelling, locale_tagSpelling]

theorem ofJson?_toJson (locale : Locale) : ofJson? locale.toJson = some locale := by
  change (parse locale.tag).toOption = some locale
  rw [parse_tag]
  rfl

theorem head?_candidates (locale : Locale) : locale.candidates.head? = some locale.tag := by
  rw [candidates, chain]
  cases locale.region <;> rfl

/-! ### The order of tags -/

theorem separator_lt_of_mem_head?_regionMark (a b : Locale) :
    ∀ c ∈ a.regionMark.head?, ∀ d ∈ b.language.toList, c < d := by
  intro c hc d hd
  rw [regionMark] at hc
  cases hregion : a.region with
  | none => rw [hregion] at hc; cases hc
  | some code =>
    rw [hregion] at hc
    cases hc
    exact b.language_isCode.separator_lt hd

theorem regionMark_lt_iff (a b : Locale) :
    a.regionMark < b.regionMark ↔ regionBefore a.region b.region = true := by
  rw [regionMark, regionMark]
  cases a.region with
  | none =>
    cases b.region with
    | none => simp [regionBefore]
    | some code => simp [regionBefore]
  | some code =>
    cases b.region with
    | none => simp [regionBefore]
    | some other =>
      rw [regionBefore, decide_eq_true_eq, String.lt_iff_toList_lt, List.cons_lt_cons_iff]
      simp

theorem before_iff_tag_lt (a b : Locale) : a.before b = true ↔ a.tag < b.tag := by
  have hfront := separator_lt_of_mem_head?_regionMark a b
  have hback := separator_lt_of_mem_head?_regionMark b a
  rw [String.lt_iff_toList_lt, toList_tag, toList_tag, Text.append_lt_append_iff hfront hback,
    ← String.lt_iff_toList_lt, regionMark_lt_iff, String.toList_inj, before, Bool.or_eq_true,
    Bool.and_eq_true, decide_eq_true_eq, beq_iff_eq]

theorem map_tag_mergeSort (locales : List Locale) :
    (locales.mergeSort fun a b => !b.before a).map tag
      = (locales.map tag).mergeSort fun s t => decide (s ≤ t) := by
  refine List.map_mergeSort fun a _ b _ => ?_
  rw [Bool.eq_iff_iff, Bool.not_eq_true', Bool.eq_false_iff, decide_eq_true_eq, ne_eq, before_iff_tag_lt,
    not_lt]

/-- **A tag stands for its locale.** A locale is read back from its tag and from its JSON string, its tag is
the first one that its messages are looked up under, and locales stand in the order of their tags: they
are equal if their tags are, and sorting them sorts the tags. -/
theorem parse_tag_and_before_iff_and_map_tag_mergeSort (a b : Locale) (locales : List Locale) :
    parse a.tag = .ok a ∧ ofJson? a.toJson = some a ∧ a.candidates.head? = some a.tag
      ∧ (a.before b = true ↔ a.tag < b.tag) ∧ (a.tag = b.tag ↔ a = b)
      ∧ (locales.mergeSort fun x y => !y.before x).map tag
        = (locales.map tag).mergeSort fun s t => decide (s ≤ t) :=
  ⟨a.parse_tag, a.ofJson?_toJson, a.head?_candidates, before_iff_tag_lt a b,
    ⟨fun h => tag_injective h, fun h => congrArg tag h⟩, map_tag_mergeSort locales⟩

end Locale

end CiFront
