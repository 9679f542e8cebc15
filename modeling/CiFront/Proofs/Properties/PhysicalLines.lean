import CiFront.Proofs.Properties.Blocks
import CiFront.Proofs.Properties.Writing
import Mathlib.Algebra.Ring.Parity
/-!
# The physical lines that a logical line takes

A logical line starts on a physical line that continues none and is neither blank nor a comment. It takes
the next one exactly if the line that it took last ends in an odd number of backslashes, whatever the text
joined so far ends in and whatever the next line looks like. So the logical lines are told from the physical
ones alone.
-/

namespace CiFront.Properties

/-! ### Taking lines -/

/-- Whether a logical line takes some lines, the first of which it has come to, and leaves those behind
them. -/
inductive Takes : (taken left : List (List Char)) → Prop
  | last {line left} (h : Even (trailingBackslashes line) ∨ left = []) : Takes [line] left
  | next {line taken left} (h : Odd (trailingBackslashes line)) (hrest : Takes taken left) :
      Takes (line :: taken) left

/-- What a line adds to the logical line that takes it. -/
def share (line : List Char) : List Char :=
  if Odd (trailingBackslashes line) then (Text.trimStart line).dropLast else Text.trimStart line

/-- The logical lines of physical lines, the first of which has the given number. -/
inductive Forms : (number : Nat) → (lines : List (List Char)) → (formed : List LogicalLine) → Prop
  | nil {number} : Forms number [] []
  | filler {number line lines formed} (hline : IsFiller line)
      (hrest : Forms (number + 1) lines formed) : Forms number (line :: lines) formed
  | entry {number line taken left formed} (hline : ¬ IsFiller line) (htaken : Takes (line :: taken) left)
      (hrest : Forms (number + (taken.length + 1)) left formed) :
      Forms number (line :: (taken ++ left)) (⟨number, (line :: taken).flatMap share⟩ :: formed)

variable {line : List Char} {taken left : List (List Char)}

theorem isContinued_iff_odd : isContinued line = true ↔ Odd (trailingBackslashes line) := by
  rw [isContinued, beq_iff_eq, Nat.odd_iff]

theorem isContinued_eq_false_iff_even :
    isContinued line = false ↔ Even (trailingBackslashes line) := by
  rw [← Bool.not_eq_true, isContinued_iff_odd, Nat.not_odd_iff_even]

theorem share_of_isContinued (h : isContinued line = true) :
    share line = (Text.trimStart line).dropLast :=
  if_pos (isContinued_iff_odd.mp h)

theorem share_of_whole (h : isContinued line = false) : share line = Text.trimStart line :=
  if_neg (Nat.not_odd_iff_even.mpr (isContinued_eq_false_iff_even.mp h))

theorem isFiller_iff : IsFiller line ↔ isPassedOver (Text.trimStart line) = true := by
  constructor
  · intro h
    cases h with
    | blank hblank =>
      rw [Text.trimStart_eq_nil_of_blanks hblank]
      rfl
    | comment hblanks hsign =>
      rw [Text.trimStart_append_of_blanks hblanks]
      rcases hsign with rfl | rfl <;> rfl
  · intro h
    have hcut : line.takeWhile Text.isBlank ++ Text.trimStart line = line :=
      List.takeWhile_append_dropWhile
    have hblanks : ∀ c ∈ line.takeWhile Text.isBlank, Text.isBlank c = true :=
      fun c hc => List.mem_takeWhile_imp hc
    rw [← hcut]
    cases htrimmed : Text.trimStart line with
    | nil =>
      rw [List.append_nil]
      exact .blank hblanks
    | cons sign rest =>
      rw [htrimmed] at h
      exact .comment hblanks (by simpa [isPassedOver] using h)

instance : DecidablePred IsFiller :=
  fun _ => decidable_of_iff _ isFiller_iff.symm

theorem isPassedOver_eq_false_iff :
    isPassedOver (Text.trimStart line) = false ↔ ¬ IsFiller line := by
  rw [isFiller_iff, Bool.not_eq_true]

/-! ### What is joined -/

/-- A line that waits has an even number of backslashes at its end, so that of the line that it takes
next decides alone. -/
theorem gather_waiting_of_takes (h : Takes taken left) {start : LogicalLine}
    (hstart : isContinued start.text = false) (number : Nat) :
    gather number (some start) (taken ++ left)
      = ⟨start.number, start.text ++ taken.flatMap share⟩ :: gather (number + taken.length) none left := by
  induction h generalizing start number with
  | @last line left hlast =>
    rw [List.singleton_append, List.flatMap_singleton, List.length_singleton]
    cases hopen : isContinued line with
    | true =>
      obtain rfl : left = [] :=
        hlast.resolve_left (Nat.not_even_iff_odd.mpr (isContinued_iff_odd.mp hopen))
      rw [gather_waiting_of_isContinued hstart hopen, share_of_isContinued hopen]
      rfl
    | false => rw [gather_waiting_of_whole hstart hopen, share_of_whole hopen]
  | @next line taken left hodd _ ih =>
    have hopen := isContinued_iff_odd.mpr hodd
    rw [List.cons_append, gather_waiting_of_isContinued hstart hopen,
      ih (isContinued_append_dropLast hstart hopen), List.flatMap_cons, share_of_isContinued hopen,
      List.append_assoc, List.length_cons, Nat.add_assoc, Nat.add_comm 1]

/-- The first line of an entry is joined to nothing. -/
theorem gather_of_not_isFiller (hline : ¬ IsFiller line) (number : Nat) (lines : List (List Char)) :
    gather number none (line :: lines) = gather number (some ⟨number, []⟩) (line :: lines) := by
  simp only [gather, isPassedOver_eq_false_iff.mpr hline, Bool.false_eq_true, if_false,
    List.nil_append]

theorem gather_of_takes (hline : ¬ IsFiller line) (h : Takes (line :: taken) left) (number : Nat) :
    gather number none (line :: (taken ++ left))
      = ⟨number, (line :: taken).flatMap share⟩ :: gather (number + (taken.length + 1)) none left := by
  rw [gather_of_not_isFiller hline]
  exact gather_waiting_of_takes h rfl number

/-! ### Whole texts -/

theorem exists_takes (line : List Char) (lines : List (List Char)) :
    ∃ taken left, lines = taken ++ left ∧ Takes (line :: taken) left := by
  induction lines generalizing line with
  | nil => exact ⟨[], [], rfl, .last (.inr rfl)⟩
  | cons next lines ih =>
    rcases Nat.even_or_odd (trailingBackslashes line) with heven | hodd
    · exact ⟨[], next :: lines, rfl, .last (.inl heven)⟩
    · obtain ⟨taken, left, rfl, htaken⟩ := ih next
      exact ⟨next :: taken, left, rfl, .next hodd htaken⟩

theorem forms_gather (number : Nat) (lines : List (List Char)) :
    Forms number lines (gather number none lines) := by
  induction hlength : lines.length using Nat.strongRecOn generalizing number lines with
  | _ n ih =>
    cases lines with
    | nil => exact .nil
    | cons line lines =>
      by_cases hline : IsFiller line
      · rw [gather_of_isPassedOver (isFiller_iff.mp hline)]
        exact .filler hline (ih lines.length (by simp [← hlength]) _ _ rfl)
      · obtain ⟨taken, left, rfl, htaken⟩ := exists_takes line lines
        rw [gather_of_takes hline htaken]
        refine .entry hline htaken (ih left.length ?_ _ _ rfl)
        simp only [← hlength, List.length_cons, List.length_append]
        omega

theorem Forms.gather_eq {number : Nat} {lines : List (List Char)} {formed : List LogicalLine}
    (h : Forms number lines formed) : gather number none lines = formed := by
  induction h with
  | nil => rfl
  | filler hline _ ih => rw [gather_of_isPassedOver (isFiller_iff.mp hline), ih]
  | entry hline htaken _ ih => rw [gather_of_takes hline htaken, ih]

/-- **Logical lines follow physical lines.** The logical lines of a text are those that its physical lines
form, and they are what its entries are read from. -/
theorem logicalLines_eq_iff_forms_and_parse_eq (text : List Char) (formed : List LogicalLine) :
    (logicalLines text = formed ↔ Forms 1 (Text.lines text) formed)
      ∧ (Forms 1 (Text.lines text) formed → parse text = entriesOf formed) := by
  have hgather : Forms 1 (Text.lines text) formed → logicalLines text = formed := Forms.gather_eq
  refine ⟨⟨?_, hgather⟩, ?_⟩
  · rintro rfl
    exact forms_gather 1 (Text.lines text)
  · intro h
    rw [parse, hgather h]

/-- A line behind which three backslashes and one are joined, a continuation that looks like a comment, a
comment that ends in a backslash, and a line that goes on where the text ends. -/
def seams : List (List Char) :=
  ["  k=\\\\\\".toList, "\\".toList, " # no comment".toList, "! comment\\".toList, [], " b\\".toList]

theorem logicalLines_seams :
    Forms 1 seams [⟨1, "k=\\\\# no comment".toList⟩, ⟨6, ['b']⟩]
      ∧ logicalLines (['\n'].intercalate seams) = [⟨1, "k=\\\\# no comment".toList⟩, ⟨6, ['b']⟩]
      ∧ parse (['\n'].intercalate seams) = .ok [⟨['k'], "\\# no comment".toList⟩, ⟨['b'], []⟩] := by
  have hlines : Text.lines (['\n'].intercalate seams) = seams := by decide
  have hfirst : "k=\\\\# no comment".toList
      = ["  k=\\\\\\".toList, "\\".toList, " # no comment".toList].flatMap share := by decide
  have hlast : ['b'] = [" b\\".toList].flatMap share := by decide
  have hforms : Forms 1 seams [⟨1, "k=\\\\# no comment".toList⟩, ⟨6, ['b']⟩] := by
    rw [hfirst, hlast]
    refine .entry (by decide) (.next (by decide) (.next (by decide) (.last (.inl (by decide))))) ?_
    refine .filler (by decide) (.filler (by decide) ?_)
    exact .entry (by decide) (.last (.inr rfl)) .nil
  obtain ⟨hlogical, hparse⟩ := logicalLines_eq_iff_forms_and_parse_eq (['\n'].intercalate seams)
    [⟨1, "k=\\\\# no comment".toList⟩, ⟨6, ['b']⟩]
  rw [hlines] at hlogical hparse
  exact ⟨hforms, hlogical.mpr hforms, (hparse hforms).trans (by decide)⟩

end CiFront.Properties
