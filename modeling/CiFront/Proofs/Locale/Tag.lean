import CiFront.Locale
import Mathlib.Data.String.Basic
/-!
# Tags name locales

The letters of a language are no separators, so a tag falls apart into the language and the region in
one way only. A locale has no other locale's tag, and none has the empty one.
-/

namespace CiFront

theorem IsLanguageCode.not_isSeparator {code : List Char} (h : IsLanguageCode code) {c : Char}
    (hc : c ∈ code) : Locale.isSeparator c = false := by
  have hlower : c.isLower = true := List.all_eq_true.mp h.2 c hc
  rw [← Bool.not_eq_true, Locale.isSeparator_iff]
  rintro (rfl | rfl) <;> exact absurd hlower (by decide)

namespace Locale

/-- What a tag holds behind the language. -/
def regionMark (locale : Locale) : List Char :=
  match locale.region with
  | some code => '_' :: code.toList
  | none => []

theorem toList_tag (locale : Locale) :
    locale.tag.toList = locale.language.toList ++ locale.regionMark := by
  rw [tag, regionMark]
  cases locale.region <;> simp

theorem takeWhile_tag (locale : Locale) :
    locale.tag.toList.takeWhile (fun c => !isSeparator c) = locale.language.toList := by
  have hlanguage : ∀ c ∈ locale.language.toList, (!isSeparator c) = true := fun c hc => by
    rw [locale.language_isCode.not_isSeparator hc, Bool.not_false]
  rw [toList_tag, List.takeWhile_append_of_pos hlanguage]
  have hmark : locale.regionMark.takeWhile (fun c => !isSeparator c) = [] := by
    rw [regionMark]
    cases locale.region <;> rfl
  rw [hmark, List.append_nil]

theorem dropWhile_tag (locale : Locale) :
    locale.tag.toList.dropWhile (fun c => !isSeparator c) = locale.regionMark := by
  have hsplit := List.takeWhile_append_dropWhile (p := fun c => !isSeparator c)
    (l := locale.tag.toList)
  rw [takeWhile_tag, toList_tag] at hsplit
  rw [toList_tag]
  exact List.append_cancel_left hsplit

theorem regionMark_injective {first second : Locale} (h : first.regionMark = second.regionMark) :
    first.region = second.region := by
  rw [regionMark, regionMark] at h
  cases hfirst : first.region <;> cases hsecond : second.region <;>
    simp only [hfirst, hsecond, reduceCtorEq, List.cons.injEq, true_and] at h
  · rfl
  · rw [String.toList_injective h]

/-- A tag names one locale. -/
theorem tag_injective {first second : Locale} (h : first.tag = second.tag) : first = second := by
  have hlanguage : first.language = second.language :=
    String.toList_injective (by rw [← takeWhile_tag, ← takeWhile_tag, h])
  have hregion : first.region = second.region :=
    regionMark_injective (by rw [← dropWhile_tag, ← dropWhile_tag, h])
  cases first
  cases second
  simp only [Locale.mk.injEq]
  exact ⟨hlanguage, hregion⟩

theorem tag_ne_empty (locale : Locale) : locale.tag ≠ "" := by
  intro hempty
  have hlength := locale.language_isCode.1.1
  have hnil : locale.language.toList ++ locale.regionMark = [] := by
    rw [← toList_tag, hempty]
    rfl
  rw [List.append_eq_nil_iff.mp hnil |>.1] at hlength
  cases hlength

end Locale

end CiFront
