import CiFront.Text.Blank
import Mathlib.Data.List.DropRight
/-!
# What trimming leaves alone

A trimmed text neither starts nor ends with a blank, so trimming it again changes nothing. A text
without any blank is trimmed as it stands.
-/

namespace CiFront.Text

theorem trimEnd_trimEnd (s : List Char) : trimEnd (trimEnd s) = trimEnd s :=
  List.rdropWhile_idempotent isBlank s

theorem trimStart_cons_of_not_blank {c : Char} (h : isBlank c = false) (s : List Char) :
    trimStart (c :: s) = c :: s := by
  rw [trimStart_cons, h, if_neg Bool.false_ne_true]

theorem not_blank_of_trimStart_eq_cons {s : List Char} {c : Char} {rest : List Char}
    (h : trimStart s = c :: rest) : isBlank c = false := by
  have hhead := List.head?_dropWhile_not isBlank s
  rw [show s.dropWhile isBlank = c :: rest from h] at hhead
  exact hhead

theorem trimStart_append_of_blanks {blanks : List Char} (h : ∀ c ∈ blanks, isBlank c = true)
    (s : List Char) : trimStart (blanks ++ s) = trimStart s :=
  List.dropWhile_append_of_pos h

theorem trimStart_eq_nil_of_blanks {blanks : List Char} (h : ∀ c ∈ blanks, isBlank c = true) :
    trimStart blanks = [] := by
  have hall := trimStart_append_of_blanks h []
  rwa [List.append_nil] at hall

theorem trimStart_eq_self {s : List Char} (h : ∀ c ∈ s.head?, isBlank c = false) :
    trimStart s = s := by
  cases s with
  | nil => rfl
  | cons c s => exact trimStart_cons_of_not_blank (h c rfl) s

theorem trimStart_append_of_ne_nil {front : List Char} (h : trimStart front ≠ []) (back : List Char) :
    trimStart (front ++ back) = trimStart front ++ back := by
  rw [trimStart] at h
  rw [trimStart, List.dropWhile_append, List.isEmpty_eq_false_iff.mpr h, if_neg Bool.false_ne_true]
  rfl

/-- Trimming the end takes nothing from the front of a text, up to a character to keep. -/
theorem trimEnd_append_cons_of_not_blank {c : Char} (h : isBlank c = false) (front back : List Char) :
    trimEnd (front ++ c :: back) = front ++ c :: trimEnd back := by
  induction back using List.reverseRecOn with
  | nil =>
    rw [trimEnd_append_singleton, h]
    rfl
  | append_singleton back d ih =>
    rw [← List.cons_append, ← List.append_assoc, trimEnd_append_singleton, trimEnd_append_singleton]
    split
    · exact ih
    · rw [List.append_assoc, List.cons_append]

theorem trimEnd_cons_of_not_blank {c : Char} (h : isBlank c = false) (s : List Char) :
    trimEnd (c :: s) = c :: trimEnd s :=
  trimEnd_append_cons_of_not_blank h [] s

theorem trimStart_append_cons_of_not_blank {c : Char} (h : isBlank c = false) (front back : List Char) :
    trimStart (front ++ c :: back) = trimStart front ++ c :: back := by
  induction front with
  | nil => exact trimStart_cons_of_not_blank h back
  | cons d front ih =>
    rw [List.cons_append, trimStart_cons, trimStart_cons]
    split
    · exact ih
    · rfl

/-- Around a character to keep, each end is trimmed by itself. -/
theorem trim_append_cons_of_not_blank {c : Char} (h : isBlank c = false) (front back : List Char) :
    trim (front ++ c :: back) = trimStart front ++ c :: trimEnd back := by
  rw [trim, trimStart_append_cons_of_not_blank h, trimEnd_append_cons_of_not_blank h]

/-! ### Tests that blanks fail -/

section

variable {p : Char → Bool}

theorem any_trimStart (h : ∀ c, isBlank c = true → p c = false) (s : List Char) :
    (trimStart s).any p = s.any p := by
  induction s with
  | nil => rfl
  | cons c s ih =>
    rw [trimStart_cons]
    split
    · rename_i hblank
      rw [ih, List.any_cons, h c hblank, Bool.false_or]
    · rfl

theorem any_trimEnd (h : ∀ c, isBlank c = true → p c = false) (s : List Char) :
    (trimEnd s).any p = s.any p := by
  change (trimStart s.reverse).reverse.any p = s.any p
  rw [List.any_reverse, any_trimStart h, List.any_reverse]

theorem any_trim (h : ∀ c, isBlank c = true → p c = false) (s : List Char) :
    (trim s).any p = s.any p := by
  rw [trim, any_trimEnd h, any_trimStart h]

end

/-- Trimming takes away blanks only. -/
theorem mem_trim_iff {c : Char} {s : List Char} (hc : isBlank c = false) : c ∈ trim s ↔ c ∈ s := by
  have hblank (d : Char) (hd : isBlank d = true) : (d == c) = false := by
    rw [beq_eq_false_iff_ne]
    rintro rfl
    exact absurd hd (Bool.eq_false_iff.mp hc)
  have hany := any_trim hblank s
  rwa [List.any_beq', List.any_beq', ← Bool.coe_iff_coe, List.contains_iff_mem, List.contains_iff_mem] at hany

theorem trimStart_eq_self_of_forall {s : List Char} (h : ∀ c ∈ s, isBlank c = false) :
    trimStart s = s :=
  trimStart_eq_self fun c hc => h c (List.mem_of_mem_head? hc)

theorem trimEnd_eq_self_of_forall {s : List Char} (h : ∀ c ∈ s, isBlank c = false) :
    trimEnd s = s := by
  have hreverse : trimStart s.reverse = s.reverse :=
    trimStart_eq_self_of_forall fun c hc => h c (List.mem_reverse.mp hc)
  change (trimStart s.reverse).reverse = s
  rw [hreverse, List.reverse_reverse]

theorem trim_eq_self_of_forall {s : List Char} (h : ∀ c ∈ s, isBlank c = false) : trim s = s := by
  rw [trim, trimStart_eq_self_of_forall h, trimEnd_eq_self_of_forall h]

theorem trim_trim (s : List Char) : trim (trim s) = trim s := by
  have hstart : trimStart (trimEnd (trimStart s)) = trimEnd (trimStart s) := by
    cases htrimmed : trimStart s with
    | nil => rfl
    | cons c rest =>
      have hkept := not_blank_of_trimStart_eq_cons htrimmed
      rw [trimEnd_cons_of_not_blank hkept, trimStart_cons_of_not_blank hkept]
  rw [trim, trim, hstart, trimEnd_trimEnd]

end CiFront.Text
