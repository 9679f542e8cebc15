import CiFront.Text.Blank
import Mathlib.Data.List.DropRight
/-!
# Stripping and cutting a text

A text is stripped of a class of characters by taking them away at both its ends, and it is cut in front of
the first character that fails a test. Either way the parts are told by what they hold and by the
characters at their ends, and a text has one way to be taken apart so.
-/

namespace CiFront.Text

variable {p : Char → Bool} {s front back core : List Char}

/-! ### Cutting -/

/-- Where a text is cut in front of the first character that fails a test. -/
theorem takeWhile_eq_and_dropWhile_eq_iff :
    s.takeWhile p = front ∧ s.dropWhile p = back
      ↔ s = front ++ back ∧ (∀ c ∈ front, p c = true) ∧ ∀ c ∈ back.head?, p c = false := by
  constructor
  · rintro ⟨rfl, rfl⟩
    refine ⟨List.takeWhile_append_dropWhile.symm, fun c hc => List.mem_takeWhile_imp hc, ?_⟩
    intro c hc
    have hnot := List.head?_dropWhile_not p s
    rw [Option.mem_def] at hc
    rw [hc] at hnot
    exact hnot
  · rintro ⟨rfl, hfront, hback⟩
    rw [List.takeWhile_append_of_pos hfront, List.dropWhile_append_of_pos hfront]
    cases back with
    | nil => exact ⟨List.append_nil front, rfl⟩
    | cons c back =>
      have hc : ¬ p c = true := Bool.eq_false_iff.mp (hback c rfl)
      rw [List.takeWhile_cons_of_neg hc, List.dropWhile_cons_of_neg hc]
      exact ⟨List.append_nil front, rfl⟩

/-! ### Stripping -/

/-- What is left of a text without the characters of a class at both its ends. -/
structure StripsTo (p : Char → Bool) (s core : List Char) : Prop where
  around : ∃ before after, s = before ++ core ++ after ∧ (∀ c ∈ before, p c = true) ∧ ∀ c ∈ after, p c = true
  head : ∀ c ∈ core.head?, p c = false
  last : ∀ c ∈ core.getLast?, p c = false

theorem rdropWhile_eq_self (h : ∀ c ∈ core.getLast?, p c = false) : core.rdropWhile p = core := by
  rw [List.rdropWhile_eq_self_iff]
  intro hne
  rw [h (core.getLast hne) (List.getLast?_eq_some_getLast hne)]
  exact Bool.false_ne_true

theorem rdropWhile_append_of_pos {after : List Char} (h : ∀ c ∈ after, p c = true) :
    (core ++ after).rdropWhile p = core.rdropWhile p := by
  rw [List.rdropWhile, List.reverse_append, List.dropWhile_append_of_pos, List.rdropWhile]
  exact fun c hc => h c (List.mem_reverse.mp hc)

theorem StripsTo.rdropWhile_dropWhile (h : StripsTo p s core) : (s.dropWhile p).rdropWhile p = core := by
  obtain ⟨before, after, rfl, hbefore, hafter⟩ := h.around
  rw [List.append_assoc, List.dropWhile_append_of_pos hbefore]
  cases hcore : core with
  | nil =>
    rw [List.nil_append, ← List.append_nil after, List.dropWhile_append_of_pos hafter]
    rfl
  | cons c rest =>
    have hc : ¬ p c = true := Bool.eq_false_iff.mp (h.head c (by rw [hcore]; rfl))
    rw [List.cons_append, List.dropWhile_cons_of_neg hc, ← List.cons_append, ← hcore,
      rdropWhile_append_of_pos hafter, rdropWhile_eq_self h.last]

theorem stripsTo_rdropWhile_dropWhile (p : Char → Bool) (s : List Char) :
    StripsTo p s ((s.dropWhile p).rdropWhile p) where
  around := by
    refine ⟨s.takeWhile p, (s.dropWhile p).rtakeWhile p, ?_, fun c hc => List.mem_takeWhile_imp hc,
      fun c hc => List.mem_rtakeWhile_imp hc⟩
    rw [List.append_assoc, List.rdropWhile_append_rtakeWhile, List.takeWhile_append_dropWhile]
  head := by
    intro c hc
    obtain ⟨rest, hrest⟩ := List.head?_eq_some_iff.mp hc
    obtain ⟨more, hmore⟩ := List.rdropWhile_prefix p (s.dropWhile p)
    rw [hrest, List.cons_append] at hmore
    have hnot := List.head?_dropWhile_not p s
    rw [← hmore] at hnot
    exact hnot
  last := by
    intro c hc
    obtain ⟨hne, rfl⟩ := List.mem_getLast?_eq_getLast hc
    exact Bool.eq_false_iff.mpr (List.rdropWhile_last_not p _ hne)

theorem stripsTo_iff : StripsTo p s core ↔ (s.dropWhile p).rdropWhile p = core := by
  constructor
  · exact StripsTo.rdropWhile_dropWhile
  · rintro rfl
    exact stripsTo_rdropWhile_dropWhile p s

/-- What is left where the last character to keep is known. -/
theorem stripsTo_append_cons {c : Char} {after : List Char} (hc : p c = false)
    (hafter : ∀ d ∈ after, p d = true) : StripsTo p (front ++ c :: after) (front.dropWhile p ++ [c]) where
  around := by
    refine ⟨front.takeWhile p, after, ?_, fun d hd => List.mem_takeWhile_imp hd, hafter⟩
    rw [← List.append_assoc, List.takeWhile_append_dropWhile, List.append_assoc, List.singleton_append]
  head := by
    intro d hd
    rw [Option.mem_def, List.head?_append, Option.or_eq_some_iff] at hd
    obtain hfront | ⟨-, hlast⟩ := hd
    · exact (takeWhile_eq_and_dropWhile_eq_iff.mp ⟨rfl, rfl⟩).2.2 d hfront
    · rw [← Option.some.inj hlast]
      exact hc
  last := by
    intro d hd
    rw [List.getLast?_concat] at hd
    rw [← Option.some.inj hd]
    exact hc

instance (p : Char → Bool) (s core : List Char) : Decidable (StripsTo p s core) :=
  decidable_of_iff _ stripsTo_iff.symm

theorem stripsTo_isBlank_iff : StripsTo isBlank s core ↔ trim s = core :=
  stripsTo_iff

end CiFront.Text
