import CiFront.Proofs.Properties.Blocks
import CiFront.Proofs.Properties.Writing
import Mathlib.Data.Bool.AllAny
/-!
# Broken lines

A line of an entry may be broken anywhere by a backslash and a line feed, and the second half may be
indented: in the key, at the separator, in the value or within an escape. The same entries are read, and
the same fault under a number that counts one more physical line if it is behind this one.
-/

namespace CiFront.Properties

/-- A line of an entry in two halves, and the indentation of the second when they stand on two lines. -/
structure BrokenLine where
  first : List Char
  second : List Char
  indentation : List Char
  first_kept : isPassedOver (Text.trimStart first) = false
  first_whole : isContinued first = false
  second_head : ∀ c ∈ second.head?, Text.isBlank c = false
  noLineEnds : ∀ c ∈ first ++ second, c ≠ '\n' ∧ c ≠ '\r'
  isGap_indentation : IsGap indentation

/-- The line as one. -/
def BrokenLine.unbroken (line : BrokenLine) : List Char :=
  line.first ++ line.second

/-- The line as two. -/
def BrokenLine.broken (line : BrokenLine) : List Char :=
  line.first ++ '\\' :: '\n' :: (line.indentation ++ line.second)

/-- The number of a physical line once the one of the number `broken` has become two. -/
def numberPast (broken number : Nat) : Nat :=
  if number ≤ broken then number else number + 1

theorem numberPast_of_le {broken number : Nat} (h : number ≤ broken) :
    numberPast broken number = number :=
  if_pos h

theorem numberPast_of_lt {broken number : Nat} (h : broken < number) :
    numberPast broken number = number + 1 :=
  if_neg (Nat.not_le.mpr h)

/-! ### The lines -/

namespace BrokenLine

variable (line : BrokenLine)

theorem first_ne_nil : Text.trimStart line.first ≠ [] := by
  intro hempty
  have hkept := line.first_kept
  rw [hempty] at hkept
  cases hkept

theorem trimStart_first_append (s : List Char) :
    Text.trimStart (line.first ++ s) = Text.trimStart line.first ++ s :=
  Text.trimStart_append_of_ne_nil line.first_ne_nil s

theorem isPassedOver_first_append (s : List Char) :
    isPassedOver (Text.trimStart (line.first ++ s)) = false := by
  have hkept := line.first_kept
  rw [trimStart_first_append]
  cases htrimmed : Text.trimStart line.first with
  | nil => exact absurd htrimmed line.first_ne_nil
  | cons c rest =>
    rw [htrimmed] at hkept
    exact hkept

theorem isContinued_first_backslash : isContinued (line.first ++ ['\\']) = true := by
  rw [isContinued_append_singleton, line.first_whole]
  rfl

theorem isPassedOver_unbroken : isPassedOver (Text.trimStart line.unbroken) = false :=
  line.isPassedOver_first_append line.second

theorem trimStart_unbroken :
    Text.trimStart line.unbroken = Text.trimStart line.first ++ line.second :=
  line.trimStart_first_append line.second

theorem isContinued_unbroken : isContinued line.unbroken = isContinued line.second :=
  isContinued_append line.first_whole line.second

theorem trimStart_indented :
    Text.trimStart (line.indentation ++ line.second) = line.second := by
  rw [Text.trimStart_append_of_blanks fun c hc => (line.isGap_indentation c hc).1,
    Text.trimStart_eq_self line.second_head]

theorem isContinued_indented :
    isContinued (line.indentation ++ line.second) = isContinued line.second := by
  rw [← isContinued_trimStart, trimStart_indented]

theorem lines_unbroken_append {after : List Char} (hafter : after = [] ∨ after.head? = some '\n') :
    Text.lines (line.unbroken ++ after) = line.unbroken :: Text.lines after.tail := by
  apply Text.lines_append_of_head line.noLineEnds hafter
  intro hempty
  apply line.first_ne_nil
  rw [List.append_assoc] at hempty
  rw [(List.append_eq_nil_iff.mp hempty).1]
  rfl

theorem lines_broken_append (after : List Char) :
    Text.lines (line.broken ++ after)
      = (line.first ++ ['\\']) :: Text.lines (line.indentation ++ line.second ++ after) := by
  have hfirst : ∀ c ∈ line.first, c ≠ '\n' ∧ c ≠ '\r' := fun c hc =>
    line.noLineEnds c (List.mem_append_left _ hc)
  have hlineFeed : '\n' ∉ line.first ++ ['\\'] := by
    simpa using fun hmem => (hfirst _ hmem).1 rfl
  have hreturn : '\r' ∉ line.first ++ ['\\'] := by
    simpa using fun hmem => (hfirst _ hmem).2 rfl
  have hcut : line.broken ++ after
      = line.first ++ ['\\'] ++ '\n' :: (line.indentation ++ line.second ++ after) := by
    simp [broken]
  rw [hcut, Text.lines_append_lineFeed hlineFeed, Text.dropReturn_eq_self hreturn]

/-! ### The logical lines -/

theorem gather_broken (number : Nat) (rest : List (List Char)) :
    gather number none ((line.first ++ ['\\']) :: (line.indentation ++ line.second) :: rest)
      = (gather number none (line.unbroken :: rest)).map (LogicalLine.renumber (numberPast number)) := by
  have hbackslash : (Text.trimStart line.first ++ ['\\']).dropLast = Text.trimStart line.first :=
    List.dropLast_concat
  have hwhole : isContinued (Text.trimStart line.first) = false :=
    (isContinued_trimStart line.first).trans line.first_whole
  have hself : numberPast number number = number := numberPast_of_le (Nat.le_refl number)
  have hnext : numberPast number (number + 1) = number + 2 :=
    numberPast_of_lt (Nat.lt_succ_self number)
  have hrest (waiting : Option LogicalLine) :
      gather (number + 2) (waiting.map (LogicalLine.renumber (numberPast number))) rest
        = (gather (number + 1) waiting rest).map (LogicalLine.renumber (numberPast number)) := by
    rw [← hnext]
    apply gather_renumber
    intro n hn
    rw [numberPast_of_lt hn, numberPast_of_lt (Nat.lt_succ_of_lt hn)]
  rw [gather_of_isContinued (line.isPassedOver_first_append _) line.isContinued_first_backslash,
    line.trimStart_first_append, hbackslash]
  cases hopen : isContinued line.second with
  | true =>
    have hsecond : line.second ≠ [] := ne_nil_of_isContinued hopen
    rw [gather_waiting_of_isContinued hwhole (line.isContinued_indented.trans hopen),
      gather_of_isContinued line.isPassedOver_unbroken (line.isContinued_unbroken.trans hopen),
      line.trimStart_indented, trimStart_unbroken, List.dropLast_append_of_ne_nil hsecond, ← hrest]
    simp only [Option.map_some, LogicalLine.renumber, hself]
  | false =>
    have hunbroken : isContinued (Text.trimStart line.unbroken) = false := by
      rw [isContinued_trimStart, isContinued_unbroken, hopen]
    rw [gather_waiting_of_whole hwhole (line.isContinued_indented.trans hopen),
      gather_of_whole line.isPassedOver_unbroken hunbroken,
      line.trimStart_indented, trimStart_unbroken, List.map_cons, ← hrest]
    simp only [Option.map_none, LogicalLine.renumber, hself]

/-- Where the text ends behind the break, the second line may as well be there and be empty. -/
theorem gather_broken_of_end (number : Nat) :
    gather number none [line.first ++ ['\\']] = gather number none [line.first ++ ['\\'], []] := by
  have hbackslash : (Text.trimStart line.first ++ ['\\']).dropLast = Text.trimStart line.first :=
    List.dropLast_concat
  have hwhole : isContinued (Text.trimStart line.first) = false :=
    (isContinued_trimStart line.first).trans line.first_whole
  rw [gather_of_isContinued (line.isPassedOver_first_append _) line.isContinued_first_backslash,
    gather_of_isContinued (line.isPassedOver_first_append _) line.isContinued_first_backslash,
    line.trimStart_first_append, hbackslash, gather_waiting_of_whole hwhole rfl, Text.trimStart_nil,
    List.append_nil]
  rfl

theorem gather_lines_broken {after : List Char} (hafter : after = [] ∨ after.head? = some '\n')
    (number : Nat) :
    gather number none (Text.lines (line.broken ++ after))
      = (gather number none (Text.lines (line.unbroken ++ after))).map
        (LogicalLine.renumber (numberPast number)) := by
  have hsecond : ∀ c ∈ line.indentation ++ line.second, c ≠ '\n' ∧ c ≠ '\r' := by
    intro c hc
    rcases List.mem_append.mp hc with hgap | hline
    · exact (line.isGap_indentation c hgap).2
    · exact line.noLineEnds c (List.mem_append_right _ hline)
  rw [line.lines_broken_append, line.lines_unbroken_append hafter, ← gather_broken]
  by_cases hempty : line.indentation ++ line.second ++ after = []
  · obtain ⟨hnothing, rfl⟩ := List.append_eq_nil_iff.mp hempty
    rw [hempty, hnothing]
    exact line.gather_broken_of_end number
  · rw [Text.lines_append_of_head hsecond hafter hempty]

variable {front after : List Char}

theorem logicalLines_broken (hends : Text.EndsLine front)
    (hclosed : leavesOpen (Text.lines front) = false)
    (hafter : after = [] ∨ after.head? = some '\n') :
    logicalLines (front ++ line.broken ++ after)
      = (logicalLines (front ++ line.unbroken ++ after)).map
        (LogicalLine.renumber (numberPast (front.count '\n' + 1))) := by
  have hfront : (gather 1 none (Text.lines front)).map
      (LogicalLine.renumber (numberPast (front.count '\n' + 1))) = gather 1 none (Text.lines front) := by
    refine (List.map_congr_left fun whole hwhole => ?_).trans (List.map_id _)
    have hnumber := number_lt_of_mem_gather (mayWait_none 1) hwhole
    rw [Text.length_lines hends] at hnumber
    rw [LogicalLine.renumber, numberPast_of_le (by omega), id]
  rw [logicalLines, logicalLines, List.append_assoc, List.append_assoc, Text.lines_append hends,
    Text.lines_append hends, gather_append (mayWait_none 1) hclosed,
    gather_append (mayWait_none 1) hclosed, Text.length_lines hends, Nat.add_comm 1,
    line.gather_lines_broken hafter, List.map_append, hfront]

theorem parse_broken (hends : Text.EndsLine front) (hclosed : leavesOpen (Text.lines front) = false)
    (hafter : after = [] ∨ after.head? = some '\n') :
    parse (front ++ line.broken ++ after)
      = (parse (front ++ line.unbroken ++ after)).mapError
        (Malformed.renumber (numberPast (front.count '\n' + 1))) := by
  rw [parse, line.logicalLines_broken hends hclosed hafter, entriesOf_map_renumber]
  rfl

/-- **Breaks within a line are not seen.** Behind whole lines that leave none open, a line that is broken
in two is read as if it were one. The entries are the same. A fault is the same too, and its number is
larger by one exactly if the logical line that fails starts behind the broken one. -/
theorem parse_broken_eq_ok_iff_and_eq_error (hends : Text.EndsLine front)
    (hclosed : leavesOpen (Text.lines front) = false)
    (hafter : after = [] ∨ after.head? = some '\n') :
    (∀ entries, parse (front ++ line.broken ++ after) = .ok entries
        ↔ parse (front ++ line.unbroken ++ after) = .ok entries)
      ∧ ∀ malformed, parse (front ++ line.unbroken ++ after) = .error malformed →
        FailsFirstOn (front ++ line.unbroken ++ after) malformed
          ∧ parse (front ++ line.broken ++ after) = .error ⟨if malformed.line ≤ front.count '\n' + 1
              then malformed.line else malformed.line + 1, malformed.fault⟩ := by
  rw [line.parse_broken hends hclosed hafter]
  constructor
  · intro entries
    cases parse (front ++ line.unbroken ++ after) with
    | error malformed => exact ⟨nofun, nofun⟩
    | ok other => exact Iff.rfl
  · intro malformed h
    refine ⟨parse_eq_error_iff.mp h, ?_⟩
    rw [h]
    rfl

/-- A line that is broken within an escape, behind two backslashes that are one, and that goes on. -/
def escape : BrokenLine where
  first := "k\\\\=\\u00".toList
  second := "e9 \\".toList
  indentation := [' ', '\t']
  first_kept := by decide
  first_whole := by decide
  second_head := by
    rintro _ ⟨⟩
    decide
  noLineEnds := List.all_iff_forall_prop.mp (by decide)
  isGap_indentation := by decide

theorem parse_escape_broken :
    Text.EndsLine "a=1\n".toList ∧ leavesOpen (Text.lines "a=1\n".toList) = false
      ∧ parse ("a=1\n".toList ++ escape.unbroken ++ "\n x".toList)
        = .ok [⟨['a'], ['1']⟩, ⟨['k', '\\'], "é x".toList⟩]
      ∧ parse ("a=1\n".toList ++ escape.broken ++ "\n x".toList)
        = .ok [⟨['a'], ['1']⟩, ⟨['k', '\\'], "é x".toList⟩]
      ∧ parse ("a=1\n".toList ++ escape.broken ++ "\n x\nb=\\u\n".toList)
        = .error ⟨5, .badUnicodeEscape []⟩ := by
  have hends : Text.EndsLine "a=1\n".toList := by decide
  have hclosed : leavesOpen (Text.lines "a=1\n".toList) = false := by decide
  have hread : parse ("a=1\n".toList ++ escape.unbroken ++ "\n x".toList)
      = .ok [⟨['a'], ['1']⟩, ⟨['k', '\\'], "é x".toList⟩] := by decide +kernel
  have hfails : parse ("a=1\n".toList ++ escape.unbroken ++ "\n x\nb=\\u\n".toList)
      = .error ⟨4, .badUnicodeEscape []⟩ := by decide +kernel
  refine ⟨hends, hclosed, hread, ?_, ?_⟩
  · exact ((parse_broken_eq_ok_iff_and_eq_error escape hends hclosed (.inr rfl)).1 _).mpr hread
  · exact ((parse_broken_eq_ok_iff_and_eq_error escape hends hclosed (.inr rfl)).2 _ hfails).2

end BrokenLine

end CiFront.Properties
