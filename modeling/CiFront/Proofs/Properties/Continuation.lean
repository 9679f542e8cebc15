import CiFront.Properties
import Mathlib.Data.List.Induction
import Mathlib.Data.List.TakeWhile
/-!
# Which lines go on

Whether a text ends in an odd number of backslashes is told from its last character and from the
text before it. So a line that is whole stands as a logical line of its own, and whether a logical line
goes on is told from the physical line that was joined to it last.
-/

namespace CiFront.Properties

theorem trailingBackslashes_append_singleton (s : List Char) (c : Char) :
    trailingBackslashes (s ++ [c]) = if c = '\\' then trailingBackslashes s + 1 else 0 := by
  rw [trailingBackslashes, List.reverse_append, List.reverse_singleton, List.singleton_append,
    List.takeWhile_cons]
  by_cases hc : c = '\\'
  · simp [hc, trailingBackslashes]
  · simp [hc]

theorem isContinued_append_singleton (s : List Char) (c : Char) :
    isContinued (s ++ [c]) = (c == '\\' && !isContinued s) := by
  rw [isContinued, isContinued, trailingBackslashes_append_singleton]
  by_cases hc : c = '\\'
  · rw [if_pos hc, Bool.eq_iff_iff]
    simp [hc]
    omega
  · simp [hc]

theorem isContinued_append_of_ne {c : Char} (h : c ≠ '\\') (s : List Char) :
    isContinued (s ++ [c]) = false := by
  rw [isContinued_append_singleton, beq_false_of_ne h, Bool.false_and]

/-- What stands in front of a text does not matter, unless it waits for a character itself. -/
theorem isContinued_append {front : List Char} (h : isContinued front = false) (back : List Char) :
    isContinued (front ++ back) = isContinued back := by
  induction back using List.reverseRecOn with
  | nil => rwa [List.append_nil]
  | append_singleton back c ih =>
    rw [← List.append_assoc, isContinued_append_singleton, isContinued_append_singleton, ih]

theorem isContinued_cons_of_ne {c : Char} (h : c ≠ '\\') (s : List Char) :
    isContinued (c :: s) = isContinued s :=
  isContinued_append (isContinued_append_of_ne h []) s

/-- A backslash and the character behind it are a pair. -/
theorem isContinued_pair (c : Char) (s : List Char) :
    isContinued ('\\' :: c :: s) = isContinued s := by
  have hpair : isContinued (['\\'] ++ [c]) = false := by
    rw [isContinued_append_singleton]
    exact Bool.and_false _
  exact isContinued_append hpair s

theorem isContinued_of_forall_ne {s : List Char} (h : ∀ c ∈ s, c ≠ '\\') : isContinued s = false := by
  cases s using List.reverseRecOn with
  | nil => rfl
  | append_singleton s c => exact isContinued_append_of_ne (h c (by simp)) s

theorem isContinued_trimStart (line : List Char) :
    isContinued (Text.trimStart line) = isContinued line := by
  have hblanks : isContinued (line.takeWhile Text.isBlank) = false := by
    apply isContinued_of_forall_ne
    rintro c hc rfl
    exact absurd (List.mem_takeWhile_imp hc) (by decide)
  rw [Text.trimStart, ← isContinued_append hblanks, List.takeWhile_append_dropWhile]

theorem ne_nil_of_isContinued {s : List Char} (h : isContinued s = true) : s ≠ [] := by
  rintro rfl
  cases h

theorem isContinued_dropLast {s : List Char} (h : isContinued s = true) :
    isContinued s.dropLast = false := by
  cases s using List.reverseRecOn with
  | nil => cases h
  | append_singleton s c =>
    rw [isContinued_append_singleton, Bool.and_eq_true, Bool.not_eq_true'] at h
    rw [List.dropLast_concat]
    exact h.2

theorem dropLast_append_of_isContinued {s : List Char} (h : isContinued s = true) :
    s.dropLast ++ ['\\'] = s := by
  cases s using List.reverseRecOn with
  | nil => cases h
  | append_singleton s c =>
    rw [isContinued_append_singleton, Bool.and_eq_true, beq_iff_eq] at h
    rw [List.dropLast_concat, h.1]

/-! ### Lines by themselves -/

variable {line : List Char}

theorem gather_of_isPassedOver (h : isPassedOver (Text.trimStart line) = true) (number : Nat)
    (rest : List (List Char)) :
    gather number none (line :: rest) = gather (number + 1) none rest := by
  simp only [gather, h, if_true]

theorem gather_of_isContinued (hkept : isPassedOver (Text.trimStart line) = false)
    (hopen : isContinued line = true) (number : Nat) (rest : List (List Char)) :
    gather number none (line :: rest)
      = gather (number + 1) (some ⟨number, (Text.trimStart line).dropLast⟩) rest := by
  simp only [gather, hkept, isContinued_trimStart, hopen, Bool.false_eq_true, if_false, if_true]

theorem gather_of_whole (hkept : isPassedOver (Text.trimStart line) = false)
    (hwhole : isContinued (Text.trimStart line) = false) (number : Nat) (rest : List (List Char)) :
    gather number none (line :: rest)
      = ⟨number, Text.trimStart line⟩ :: gather (number + 1) none rest := by
  simp only [gather, hkept, hwhole, Bool.false_eq_true, if_false]

/-! ### Lines that continue others -/

section

variable {waiting : LogicalLine}

theorem gather_waiting_of_isContinued (hwaiting : isContinued waiting.text = false)
    (hopen : isContinued line = true) (number : Nat) (rest : List (List Char)) :
    gather number (some waiting) (line :: rest)
      = gather (number + 1)
        (some ⟨waiting.number, waiting.text ++ (Text.trimStart line).dropLast⟩) rest := by
  have hline : isContinued (Text.trimStart line) = true := by rwa [isContinued_trimStart]
  simp only [gather, isContinued_append hwaiting, hline, if_true]
  rw [List.dropLast_append_of_ne_nil (ne_nil_of_isContinued hline)]

theorem gather_waiting_of_whole (hwaiting : isContinued waiting.text = false)
    (hwhole : isContinued line = false) (number : Nat) (rest : List (List Char)) :
    gather number (some waiting) (line :: rest)
      = ⟨waiting.number, waiting.text ++ Text.trimStart line⟩ :: gather (number + 1) none rest := by
  simp only [gather, isContinued_append hwaiting, isContinued_trimStart, hwhole, Bool.false_eq_true,
    if_false]

/-- What waits goes on with the next line without its blanks, but for the backslash at its end. -/
theorem isContinued_append_dropLast (hwaiting : isContinued waiting.text = false)
    (hopen : isContinued line = true) :
    isContinued (waiting.text ++ (Text.trimStart line).dropLast) = false := by
  rw [isContinued_append hwaiting]
  exact isContinued_dropLast (by rwa [isContinued_trimStart])

end

end CiFront.Properties
