import CiFront.Proofs.Properties.Spelling
/-!
# Escaped code units

A run of escapes is read as the text whose code units they spell. If they are the units of no text, there
is a first half that stands alone, and the fault names the digits of that half: it is an unpaired
surrogate if it is a high half, and a bad escape if it is a low one.
-/

namespace CiFront.Properties

open Text.Utf16

/-- What is wrong with escapes of code units that are those of no text. -/
inductive Breaks (us : List Nat) (escapes : List (List Char)) : Fault → Prop
  | unpaired {before high after digits} (hunits : us = encode before ++ high :: after)
      (hhigh : isHigh high = true) (hnext : ∀ next ∈ after.head?, isLow next = false)
      (hdigits : escapes[(encode before).length]? = some ('\\' :: 'u' :: digits)) :
      Breaks us escapes (.unpairedSurrogate digits)
  | lone {before low after digits} (hunits : us = encode before ++ low :: after)
      (hlow : isLow low = true)
      (hdigits : escapes[(encode before).length]? = some ('\\' :: 'u' :: digits)) :
      Breaks us escapes (.badUnicodeEscape digits)

/-- Whether a raw text is unescaped when a line is read: it is the raw key, or it is the raw value and
the key can be read. -/
def LogicalLine.Unescapes (line : LogicalLine) (raw : List Char) : Prop :=
  raw = (split line.text).1 ∨
    raw = (split line.text).2 ∧ ∃ c key, unescape (split line.text).1 = .ok (c :: key)

variable {us : List Nat} {escapes : List (List Char)}

/-! ### Whole characters -/

theorem exists_append_of_forall₂ {front back : List Nat}
    (h : List.Forall₂ Escapes (front ++ back) escapes) :
    ∃ first second, escapes = first ++ second ∧ List.Forall₂ Escapes front first
      ∧ List.Forall₂ Escapes back second := by
  refine ⟨escapes.take front.length, escapes.drop front.length, ?_, ?_, ?_⟩
  · rw [List.take_append_drop]
  · have hfront := List.forall₂_take front.length h
    rwa [List.take_left] at hfront
  · have hback := List.forall₂_drop front.length h
    rwa [List.drop_left] at hback

theorem getElem?_of_forall₂ {front : List Nat} {first : List (List Char)}
    (h : List.Forall₂ Escapes front first) (escape : List Char) (more : List (List Char)) :
    (first ++ escape :: more)[front.length]? = some escape := by
  rw [h.length_eq, List.getElem?_append_right (Nat.le_refl _), Nat.sub_self, List.getElem?_cons_zero]

theorem unescape_encode {text : List Char} (h : List.Forall₂ Escapes (encode text) escapes)
    (rest : List Char) :
    unescape (escapes.flatten ++ rest) = (unescape rest).map (text ++ ·) := by
  induction text generalizing escapes with
  | nil =>
    cases h
    rw [List.flatten_nil, List.nil_append]
    cases unescape rest <;> rfl
  | cons c text ih =>
    obtain ⟨first, second, rfl, hfirst, hsecond⟩ := exists_append_of_forall₂ h
    rw [List.flatten_append, List.append_assoc, unescape_units hfirst, ih hsecond]
    cases unescape rest <;> rfl

/-! ### Halves that stand alone -/

theorem unescape_of_unpaired {high : Nat} {after : List Nat} {digits : List Char}
    (hfirst : Escapes high ('\\' :: 'u' :: digits)) (hhigh : isHigh high = true)
    (hnext : ∀ next ∈ after.head?, isLow next = false) (h : List.Forall₂ Escapes after escapes) :
    unescape ('\\' :: 'u' :: digits ++ escapes.flatten) = .error (.unpairedSurrogate digits) := by
  obtain ⟨a, b, c, d, hdigits⟩ := hfirst.exists_eq
  obtain rfl : digits = [a, b, c, d] := by simpa using hdigits
  cases h with
  | nil =>
    change unescape ['\\', 'u', a, b, c, d] = _
    rw [unescape, unit?_eq hfirst]
    simp only [hhigh, if_true]
  | @cons next second after escapes hsecond h =>
    obtain ⟨e, f, g, i, rfl⟩ := hsecond.exists_eq
    have hlow : isLow next = false := hnext next rfl
    change unescape ('\\' :: 'u' :: a :: b :: c :: d :: '\\' :: 'u' :: e :: f :: g :: i
      :: escapes.flatten) = _
    rw [unescape, unit?_eq hfirst]
    simp only [hhigh, if_true, unit?_eq hsecond, Option.filter_some, hlow, Bool.false_eq_true, if_false]

theorem unescape_of_lone {low : Nat} {digits : List Char}
    (hfirst : Escapes low ('\\' :: 'u' :: digits)) (hlow : isLow low = true) (rest : List Char) :
    unescape ('\\' :: 'u' :: digits ++ rest) = .error (.badUnicodeEscape digits) := by
  obtain ⟨a, b, c, d, hdigits⟩ := hfirst.exists_eq
  obtain rfl : digits = [a, b, c, d] := by simpa using hdigits
  have hrange := hlow
  simp only [isLow, Bool.and_eq_true, decide_eq_true_eq] at hrange
  have hhigh : isHigh low = false := by
    rw [isHigh, Bool.and_eq_false_iff, decide_eq_false_iff_not, decide_eq_false_iff_not]
    omega
  have hnone : char? low = none := by
    rw [char?, if_neg]
    rw [Nat.isValidChar]
    omega
  change unescape ('\\' :: 'u' :: a :: b :: c :: d :: rest) = _
  rw [unescape, unit?_eq hfirst]
  simp only [hhigh, Bool.false_eq_true, if_false, hnone]

theorem unescape_of_breaks {fault : Fault} (hbreaks : Breaks us escapes fault)
    (h : List.Forall₂ Escapes us escapes) : unescape escapes.flatten = .error fault := by
  have hsplit {before : List Char} {half : Nat} {after : List Nat} {digits : List Char}
      (hunits : us = encode before ++ half :: after)
      (hdigits : escapes[(encode before).length]? = some ('\\' :: 'u' :: digits)) :
      ∃ second, Escapes half ('\\' :: 'u' :: digits) ∧ List.Forall₂ Escapes after second
        ∧ unescape escapes.flatten
          = (unescape ('\\' :: 'u' :: digits ++ second.flatten)).map (before ++ ·) := by
    rw [hunits] at h
    obtain ⟨first, rest, rfl, hfirst, hrest⟩ := exists_append_of_forall₂ h
    cases hrest with
    | cons hhalf hsecond =>
      rw [getElem?_of_forall₂ hfirst] at hdigits
      obtain rfl := Option.some.inj hdigits
      refine ⟨_, hhalf, hsecond, ?_⟩
      rw [List.flatten_append, unescape_encode hfirst, List.flatten_cons]
  cases hbreaks with
  | unpaired hunits hhigh hnext hdigits =>
    obtain ⟨second, hhalf, hsecond, heq⟩ := hsplit hunits hdigits
    rw [heq, unescape_of_unpaired hhalf hhigh hnext hsecond]
    rfl
  | lone hunits hlow hdigits =>
    obtain ⟨second, hhalf, hsecond, heq⟩ := hsplit hunits hdigits
    rw [heq, unescape_of_lone hhalf hlow]
    rfl

/-! ### Any code units -/

theorem exists_encode_eq_or_breaks (h : List.Forall₂ Escapes us escapes) :
    (∃ text, encode text = us) ∨ ∃ fault, Breaks us escapes fault := by
  have hus : ∀ unit ∈ us, unit < 0x10000 := by
    induction h with
    | nil => exact fun _ hunit => nomatch hunit
    | cons hfirst _ ih => exact List.forall_mem_cons.mpr ⟨hfirst.lt, ih⟩
  obtain ⟨text, rest, rfl, halone⟩ := isTextUpToHalf us hus
  cases rest with
  | nil => exact .inl ⟨text, (List.append_nil _).symm⟩
  | cons half after =>
    right
    obtain ⟨first, second, rfl, hfirst, hsecond⟩ := exists_append_of_forall₂ h
    obtain _ | ⟨hhalf, _⟩ := hsecond
    obtain ⟨a, b, c, d, rfl⟩ := hhalf.exists_eq
    have hdigits := getElem?_of_forall₂ hfirst ['\\', 'u', a, b, c, d]
    rcases halone half after rfl with ⟨hhigh, hnext⟩ | hlow
    · exact ⟨_, .unpaired rfl hhigh hnext (hdigits _)⟩
    · exact ⟨_, .lone rfl hlow (hdigits _)⟩

theorem unescape_eq_ok_iff_encode_eq (h : List.Forall₂ Escapes us escapes) (text : List Char) :
    unescape escapes.flatten = .ok text ↔ encode text = us := by
  have hread {other : List Char} (hother : encode other = us) :
      unescape escapes.flatten = .ok other := by
    have heq := unescape_encode (hother ▸ h) []
    rw [List.append_nil] at heq
    rw [heq]
    simp [unescape, Except.map]
  constructor
  · intro hok
    rcases exists_encode_eq_or_breaks h with ⟨other, hother⟩ | ⟨fault, hbreaks⟩
    · rw [hread hother] at hok
      rw [← Except.ok.inj hok, hother]
    · rw [unescape_of_breaks hbreaks h] at hok
      cases hok
  · exact hread

theorem unescape_eq_error_iff_breaks (h : List.Forall₂ Escapes us escapes) (fault : Fault) :
    unescape escapes.flatten = .error fault ↔ Breaks us escapes fault := by
  constructor
  · intro herror
    rcases exists_encode_eq_or_breaks h with ⟨text, htext⟩ | ⟨other, hbreaks⟩
    · rw [(unescape_eq_ok_iff_encode_eq h text).mpr htext] at herror
      cases herror
    · rw [unescape_of_breaks hbreaks h] at herror
      rwa [← Except.error.inj herror]
  · exact fun hbreaks => unescape_of_breaks hbreaks h

/-- A fault in what a line unescapes is reported under the number of the line. -/
theorem LogicalLine.entry_of_unescapes {line : LogicalLine} {raw : List Char} {fault : Fault}
    (hline : line.Unescapes raw) (hfault : unescape raw = .error fault) :
    line.entry = .error ⟨line.number, fault⟩ := by
  rw [LogicalLine.entry]
  dsimp only
  rcases hline with rfl | ⟨rfl, c, key, hkey⟩
  · rw [hfault]
  · rw [hkey]
    dsimp only
    rw [hfault]

/-- **Escaped code units are read as UTF-16.** Escapes of code units are read exactly if the units are
those of a text, as this text. If they are not, the first half that stands alone is the fault, and a line
that unescapes them fails under its number. -/
theorem unescape_eq_ok_iff_encode_eq_and_eq_error_iff_breaks (h : List.Forall₂ Escapes us escapes) :
    (∀ text, unescape escapes.flatten = .ok text ↔ encode text = us)
      ∧ (∀ fault, unescape escapes.flatten = .error fault ↔ Breaks us escapes fault)
      ∧ ∀ (line : LogicalLine) fault, line.Unescapes escapes.flatten → Breaks us escapes fault →
        line.entry = .error ⟨line.number, fault⟩ := by
  refine ⟨unescape_eq_ok_iff_encode_eq h, unescape_eq_error_iff_breaks h, ?_⟩
  intro line fault hline hbreaks
  exact LogicalLine.entry_of_unescapes hline (unescape_of_breaks hbreaks h)

/-- Escapes of a pair and, behind it, of a high half that stands alone. -/
def pairAndHalf : List (List Char) :=
  ["\\uD83D".toList, "\\uDe00".toList, "\\uD83d".toList, "\\u0062".toList]

theorem unescape_pairAndHalf :
    List.Forall₂ Escapes [0xD83D, 0xDE00, 0xD83D, 0x62] pairAndHalf
      ∧ unescape pairAndHalf.flatten = .error (.unpairedSurrogate "D83d".toList)
      ∧ LogicalLine.entry ⟨7, "k=".toList ++ pairAndHalf.flatten⟩
        = .error ⟨7, .unpairedSurrogate "D83d".toList⟩ := by
  have hescapes : List.Forall₂ Escapes [0xD83D, 0xDE00, 0xD83D, 0x62] pairAndHalf :=
    .cons (.mk (by decide) (by decide) (by decide) (by decide))
      (.cons (.mk (by decide) (by decide) (by decide) (by decide))
        (.cons (.mk (by decide) (by decide) (by decide) (by decide))
          (.cons (.mk (by decide) (by decide) (by decide) (by decide)) .nil)))
  obtain ⟨_, herror, hentry⟩ := unescape_eq_ok_iff_encode_eq_and_eq_error_iff_breaks hescapes
  have hunits : [0xD83D, 0xDE00, 0xD83D, 0x62] = encode ['😀'] ++ 0xD83D :: [0x62] := by decide
  have hbreaks : Breaks [0xD83D, 0xDE00, 0xD83D, 0x62] pairAndHalf
      (.unpairedSurrogate "D83d".toList) :=
    .unpaired hunits (by decide) (by decide) (by decide)
  refine ⟨hescapes, (herror _).mpr hbreaks, hentry _ _ (.inr ⟨by decide, 'k', [], ?_⟩) hbreaks⟩
  decide

end CiFront.Properties
