import CiFront.Proofs.Properties.Continuation
import CiFront.Proofs.Properties.Entries
import CiFront.Proofs.Text.Lines
/-!
# Texts put together from blocks of lines

A text of whole lines that leaves no line open is read by itself: what follows it neither changes its
entries nor is changed by it, but for the numbers of its lines. So the number of a fault is that of the
physical line on which the first logical line that cannot be read starts.
-/

namespace CiFront.Properties

/-! ### Which lines are left open -/

/-- Whether a line goes on on the next one, where `isOpen` tells whether it continues a line itself. A
comment does not go on, unless it is none because it continues a line. -/
def goesOn (isOpen : Bool) (line : List Char) : Bool :=
  isContinued line && (isOpen || !isPassedOver (Text.trimStart line))

/-- Whether the last of some lines goes on. -/
def leavesOpen (lines : List (List Char)) : Bool :=
  lines.foldl goesOn false

/-- No line is left open if the last one ends in an even number of backslashes, or is passed over and
continues no line. -/
theorem leavesOpen_eq_false_iff (front : List (List Char)) (line : List Char) :
    leavesOpen (front ++ [line]) = false ↔ isContinued line = false
      ∨ isPassedOver (Text.trimStart line) = true ∧ leavesOpen front = false := by
  have hlast : leavesOpen (front ++ [line]) = goesOn (leavesOpen front) line := by
    rw [leavesOpen, List.foldl_append]
    rfl
  rw [hlast, goesOn, Bool.and_eq_false_iff, Bool.or_eq_false_iff, Bool.not_eq_false', and_comm]

theorem goesOn_of_isPassedOver {line : List Char}
    (h : isPassedOver (Text.trimStart line) = true) : goesOn false line = false := by
  rw [goesOn, h]
  exact Bool.and_false _

theorem goesOn_of_kept {line : List Char} (h : isPassedOver (Text.trimStart line) = false) :
    goesOn false line = isContinued line := by
  rw [goesOn, h]
  exact Bool.and_true _

theorem goesOn_true (line : List Char) : goesOn true line = isContinued line :=
  Bool.and_true _

/-! ### What one line does -/

/-- Whether a logical line may wait for the line of the given number: it has started before that line,
and has already lost the backslash that continues it. -/
def MayWait (number : Nat) (waiting : Option LogicalLine) : Prop :=
  ∀ line ∈ waiting, isContinued line.text = false ∧ line.number < number

theorem mayWait_none (number : Nat) : MayWait number none :=
  fun _ hline => nomatch hline

theorem mayWait_some {number : Nat} {line : LogicalLine} (htext : isContinued line.text = false)
    (hnumber : line.number < number) : MayWait number (some line) := by
  rintro _ ⟨⟩
  exact ⟨htext, hnumber⟩

/-- A line completes at most one logical line, behind which none waits. One waits behind the line exactly
if the line goes on. -/
theorem exists_gather_cons {number : Nat} {waiting : Option LogicalLine}
    (hwaiting : MayWait number waiting) (line : List Char) :
    ∃ done next, (∀ rest, gather number waiting (line :: rest) = done ++ gather (number + 1) next rest)
      ∧ next.isSome = goesOn waiting.isSome line ∧ MayWait (number + 1) next
      ∧ (done = [] ∨ ∃ whole, done = [whole] ∧ whole.number ≤ number ∧ next = none) := by
  cases waiting with
  | none =>
    cases hpassed : isPassedOver (Text.trimStart line) with
    | true =>
      refine ⟨[], none, gather_of_isPassedOver hpassed number, ?_, mayWait_none _, .inl rfl⟩
      exact (goesOn_of_isPassedOver hpassed).symm
    | false =>
      cases hopen : isContinued line with
      | true =>
        refine ⟨[], _, gather_of_isContinued hpassed hopen number, ?_, ?_, .inl rfl⟩
        · exact ((goesOn_of_kept hpassed).trans hopen).symm
        · apply mayWait_some _ (Nat.lt_succ_self number)
          exact isContinued_dropLast ((isContinued_trimStart line).trans hopen)
      | false =>
        have hwhole : isContinued (Text.trimStart line) = false :=
          (isContinued_trimStart line).trans hopen
        refine ⟨[_], none, gather_of_whole hpassed hwhole number, ?_, mayWait_none _, .inr ?_⟩
        · exact ((goesOn_of_kept hpassed).trans hopen).symm
        · exact ⟨_, rfl, Nat.le_refl number, rfl⟩
  | some start =>
    obtain ⟨htext, hnumber⟩ := hwaiting start rfl
    cases hopen : isContinued line with
    | true =>
      refine ⟨[], _, gather_waiting_of_isContinued htext hopen number, ?_, ?_, .inl rfl⟩
      · exact ((goesOn_true line).trans hopen).symm
      · exact mayWait_some (isContinued_append_dropLast htext hopen) (Nat.lt_succ_of_lt hnumber)
    | false =>
      refine ⟨[_], none, gather_waiting_of_whole htext hopen number, ?_, mayWait_none _, .inr ?_⟩
      · exact ((goesOn_true line).trans hopen).symm
      · exact ⟨_, rfl, Nat.le_of_lt hnumber, rfl⟩

/-! ### What a block of lines does -/

variable {number : Nat} {waiting : Option LogicalLine}

theorem gather_append (hwaiting : MayWait number waiting) {front : List (List Char)}
    (hclosed : front.foldl goesOn waiting.isSome = false) (back : List (List Char)) :
    gather number waiting (front ++ back)
      = gather number waiting front ++ gather (number + front.length) none back := by
  induction front generalizing number waiting with
  | nil =>
    obtain rfl : waiting = none := Option.isSome_eq_false_iff.mp hclosed |> Option.isNone_iff_eq_none.mp
    rfl
  | cons line front ih =>
    obtain ⟨done, next, hstep, hopen, hnext, _⟩ := exists_gather_cons hwaiting line
    rw [List.foldl_cons, ← hopen] at hclosed
    rw [List.cons_append, hstep, hstep, ih hnext hclosed, List.append_assoc, List.length_cons,
      Nat.add_right_comm, Nat.add_assoc]

theorem number_lt_of_mem_gather (hwaiting : MayWait number waiting) {lines : List (List Char)}
    {line : LogicalLine} (h : line ∈ gather number waiting lines) :
    line.number < number + lines.length := by
  induction lines generalizing number waiting with
  | nil =>
    cases waiting with
    | none => cases h
    | some start =>
      obtain rfl := List.mem_singleton.mp h
      exact (hwaiting _ rfl).2
  | cons first lines ih =>
    obtain ⟨done, next, hstep, _, hnext, hdone⟩ := exists_gather_cons hwaiting first
    rw [hstep, List.mem_append] at h
    rw [List.length_cons]
    rcases h with hline | hline
    · rcases hdone with rfl | ⟨whole, rfl, hle, _⟩
      · cases hline
      · obtain rfl := List.mem_singleton.mp hline
        omega
    · have hlt := ih hnext hline
      omega

/-- The numbers of the lines are told from that of the first, however they are counted. -/
theorem gather_renumber {f : Nat → Nat} (hf : ∀ n, number ≤ n → f (n + 1) = f n + 1)
    (lines : List (List Char)) :
    gather (f number) (waiting.map (LogicalLine.renumber f)) lines
      = (gather number waiting lines).map (LogicalLine.renumber f) := by
  induction lines generalizing number waiting with
  | nil => cases waiting <;> rfl
  | cons line lines ih =>
    have hstep : f (number + 1) = f number + 1 := hf number (Nat.le_refl number)
    have hrest (next : Option LogicalLine) :
        gather (f number + 1) (next.map (LogicalLine.renumber f)) lines
          = (gather (number + 1) next lines).map (LogicalLine.renumber f) := by
      rw [← hstep]
      exact ih fun n hn => hf n (Nat.le_of_succ_le hn)
    cases waiting with
    | none =>
      simp only [gather, Option.map_none]
      split
      · exact hrest none
      · split
        · exact hrest (some ⟨number, (Text.trimStart line).dropLast⟩)
        · exact congrArg (LogicalLine.mk (f number) _ :: ·) (hrest none)
    | some start =>
      simp only [gather, Option.map_some, LogicalLine.renumber]
      split
      · exact hrest (some ⟨start.number, (start.text ++ Text.trimStart line).dropLast⟩)
      · exact congrArg (LogicalLine.mk (f start.number) _ :: ·) (hrest none)

/-! ### Where logical lines start -/

/-- The logical line that starts on the first of some lines: this line and those that continue it,
without the blanks in front of each and the backslashes between them. -/
def joined : List (List Char) → List Char
  | [] => []
  | line :: rest =>
    if isContinued line then (Text.trimStart line).dropLast ++ joined rest else Text.trimStart line

theorem joined_of_isContinued {line : List Char} (h : isContinued line = true)
    (rest : List (List Char)) :
    joined (line :: rest) = (Text.trimStart line).dropLast ++ joined rest := by
  rw [joined, if_pos h]

theorem joined_of_whole {line : List Char} (h : isContinued line = false) (rest : List (List Char)) :
    joined (line :: rest) = Text.trimStart line := by
  rw [joined, h, if_neg Bool.false_ne_true]

theorem exists_gather_waiting {start : LogicalLine} (htext : isContinued start.text = false)
    (number : Nat) (lines : List (List Char)) :
    ∃ more, gather number (some start) lines
      = ⟨start.number, start.text ++ joined lines⟩ :: more := by
  induction lines generalizing number start with
  | nil =>
    rw [joined, List.append_nil]
    exact ⟨[], rfl⟩
  | cons line lines ih =>
    cases hopen : isContinued line with
    | true =>
      obtain ⟨more, hmore⟩ := @ih ⟨start.number, start.text ++ (Text.trimStart line).dropLast⟩
        (isContinued_append_dropLast htext hopen) (number + 1)
      rw [gather_waiting_of_isContinued htext hopen, joined_of_isContinued hopen, hmore,
        List.append_assoc]
      exact ⟨more, rfl⟩
    | false =>
      rw [gather_waiting_of_whole htext hopen, joined_of_whole hopen]
      exact ⟨_, rfl⟩

theorem exists_gather_of_kept {line : List Char}
    (hkept : isPassedOver (Text.trimStart line) = false) (number : Nat) (rest : List (List Char)) :
    ∃ more, gather number none (line :: rest) = ⟨number, joined (line :: rest)⟩ :: more := by
  cases hopen : isContinued line with
  | true =>
    obtain ⟨more, hmore⟩ := @exists_gather_waiting ⟨number, (Text.trimStart line).dropLast⟩
      (isContinued_dropLast ((isContinued_trimStart line).trans hopen)) (number + 1) rest
    rw [gather_of_isContinued hkept hopen, joined_of_isContinued hopen, hmore]
    exact ⟨more, rfl⟩
  | false =>
    rw [gather_of_whole hkept ((isContinued_trimStart line).trans hopen), joined_of_whole hopen]
    exact ⟨_, rfl⟩

/-- Whether a logical line starts on one of some lines, with the given logical lines in front of it. -/
def StartsBehind (before : List LogicalLine) (whole : LogicalLine) (number : Nat)
    (waiting : Option LogicalLine) (lines : List (List Char)) : Prop :=
  ∃ front line rest, lines = front ++ line :: rest ∧ front.foldl goesOn waiting.isSome = false
    ∧ isPassedOver (Text.trimStart line) = false ∧ gather number waiting front = before
    ∧ whole = ⟨number + front.length, joined (line :: rest)⟩

theorem StartsBehind.cons {before done : List LogicalLine} {whole : LogicalLine}
    {next : Option LogicalLine} {line : List Char} {lines : List (List Char)}
    (h : StartsBehind before whole (number + 1) next lines)
    (hopen : next.isSome = goesOn waiting.isSome line)
    (hstep : ∀ rest, gather number waiting (line :: rest) = done ++ gather (number + 1) next rest) :
    StartsBehind (done ++ before) whole number waiting (line :: lines) := by
  obtain ⟨front, first, rest, rfl, hclosed, hkept, rfl, rfl⟩ := h
  refine ⟨line :: front, first, rest, rfl, ?_, hkept, hstep front, ?_⟩
  · rwa [List.foldl_cons, ← hopen]
  · rw [List.length_cons, Nat.add_right_comm, Nat.add_assoc]

theorem StartsBehind.of_kept {line : List Char} (hkept : isPassedOver (Text.trimStart line) = false)
    (number : Nat) (rest : List (List Char)) :
    StartsBehind [] ⟨number, joined (line :: rest)⟩ number none (line :: rest) :=
  ⟨[], line, rest, rfl, rfl, hkept, rfl, rfl⟩

/-- A logical line starts on one of the lines, unless it is the first and one waits. -/
theorem startsBehind_of_gather (hwaiting : MayWait number waiting) {lines : List (List Char)}
    {before after : List LogicalLine} {whole : LogicalLine}
    (h : gather number waiting lines = before ++ whole :: after) (hfirst : waiting = none ∨ before ≠ []) :
    StartsBehind before whole number waiting lines := by
  induction lines generalizing number waiting before with
  | nil =>
    rcases hfirst with rfl | hbefore
    · exact absurd h (by simp [gather])
    · cases waiting with
      | none => exact absurd h (by simp [gather])
      | some start => exact absurd h (by cases before <;> simp_all [gather])
  | cons line lines ih =>
    cases before with
    | nil =>
      obtain rfl := hfirst.resolve_right (· rfl)
      cases hkept : isPassedOver (Text.trimStart line) with
      | true =>
        have hstep : ∀ rest, gather number none (line :: rest) = [] ++ gather (number + 1) none rest :=
          gather_of_isPassedOver hkept number
        rw [hstep] at h
        refine (ih (mayWait_none _) h (.inl rfl)).cons ?_ hstep
        exact (goesOn_of_isPassedOver hkept).symm
      | false =>
        obtain ⟨more, hmore⟩ := exists_gather_of_kept hkept number lines
        rw [hmore] at h
        obtain rfl := (List.cons.inj h).1
        exact .of_kept hkept number lines
    | cons first before =>
      obtain ⟨done, next, hstep, hopen, hnext, hdone⟩ := exists_gather_cons hwaiting line
      rw [hstep] at h
      rcases hdone with rfl | ⟨other, rfl, _, rfl⟩
      · exact (ih hnext h (.inr (List.cons_ne_nil first before))).cons hopen hstep
      · obtain ⟨rfl, hrest⟩ := List.cons.inj h
        exact (ih hnext hrest (.inl rfl)).cons hopen hstep

/-! ### Texts -/

section

variable {front : List Char}

theorem logicalLines_append (hends : Text.EndsLine front)
    (hclosed : leavesOpen (Text.lines front) = false) (back : List Char) :
    logicalLines (front ++ back) = logicalLines front
      ++ (logicalLines back).map (LogicalLine.renumber (· + front.count '\n')) := by
  have hnumbers : gather (1 + front.count '\n') none (Text.lines back)
      = (logicalLines back).map (LogicalLine.renumber (· + front.count '\n')) :=
    @gather_renumber 1 none (· + front.count '\n') (fun n _ => Nat.add_right_comm n 1 _)
      (Text.lines back)
  rw [logicalLines, Text.lines_append hends, gather_append (mayWait_none 1) hclosed,
    Text.length_lines hends, hnumbers]
  rfl

theorem parse_append (hends : Text.EndsLine front)
    (hclosed : leavesOpen (Text.lines front) = false) (back : List Char) :
    parse (front ++ back) = match parse front with
      | .error malformed => .error malformed
      | .ok entries => ((parse back).mapError (Malformed.renumber (· + front.count '\n'))).map
          (entries ++ ·) := by
  rw [parse, logicalLines_append hends hclosed, entriesOf_append, entriesOf_map_renumber]
  rfl

/-- Whether the first logical line that cannot be read starts on the physical line of the number of a
fault, and fails with this fault. -/
def FailsFirstOn (text : List Char) (malformed : Malformed) : Prop :=
  ∃ before after line rest, text = before ++ after ∧ Text.EndsLine before
    ∧ leavesOpen (Text.lines before) = false ∧ (∃ entries, parse before = .ok entries)
    ∧ malformed.line = before.count '\n' + 1 ∧ Text.lines after = line :: rest
    ∧ isPassedOver (Text.trimStart line) = false
    ∧ LogicalLine.entry ⟨malformed.line, joined (line :: rest)⟩ = .error malformed

theorem parse_eq_error_iff {text : List Char} {malformed : Malformed} :
    parse text = .error malformed ↔ FailsFirstOn text malformed := by
  constructor
  · intro h
    obtain ⟨before, whole, after, hlines, hbefore, hwhole⟩ := entriesOf_eq_error_iff.mp h
    obtain ⟨front, line, rest, hcut, hclosed, hkept, rfl, rfl⟩ :=
      startsBehind_of_gather (mayWait_none 1) hlines (.inl rfl)
    obtain ⟨start, more, rfl, hends, rfl, hmore⟩ := Text.exists_append_of_lines_eq hcut
    have hnumber : malformed.line = start.count '\n' + 1 := by
      rw [LogicalLine.line_eq_of_entry hwhole, Text.length_lines hends, Nat.add_comm]
    refine ⟨start, more, line, rest, rfl, hends, hclosed, hbefore, hnumber, hmore, hkept, ?_⟩
    rwa [LogicalLine.line_eq_of_entry hwhole]
  · rintro ⟨before, after, line, rest, rfl, hends, hclosed, ⟨entries, hbefore⟩, hnumber, hafter, hkept,
      hentry⟩
    have hread : entriesOf (gather 1 none (Text.lines before)) = .ok entries := hbefore
    have hstart : 1 + before.count '\n' = malformed.line := by
      rw [hnumber, Nat.add_comm]
    obtain ⟨more, hmore⟩ := exists_gather_of_kept hkept malformed.line rest
    rw [parse, logicalLines, Text.lines_append hends, gather_append (mayWait_none 1) hclosed, hafter,
      Text.length_lines hends, hstart, hmore, entriesOf_append, hread, entriesOf, hentry]
    rfl

/-- **A text is read block by block.** A block of whole lines that leaves none open fails by itself, and
so fails any text that starts with it. Otherwise its entries come first, and a fault of what follows it
counts its lines in. The number of a fault is always that of the physical line on which the first
logical line that cannot be read starts. -/
theorem parse_append_and_eq_error_iff_failsFirstOn (hends : Text.EndsLine front)
    (hclosed : leavesOpen (Text.lines front) = false) (back : List Char) :
    (∀ malformed, parse front = .error malformed → parse (front ++ back) = .error malformed)
      ∧ (∀ entries more, parse front = .ok entries → parse back = .ok more →
        parse (front ++ back) = .ok (entries ++ more))
      ∧ (∀ entries malformed, parse front = .ok entries → parse back = .error malformed →
        parse (front ++ back) = .error ⟨malformed.line + front.count '\n', malformed.fault⟩)
      ∧ ∀ text malformed, parse text = .error malformed ↔ FailsFirstOn text malformed := by
  rw [parse_append hends hclosed]
  refine ⟨?_, ?_, ?_, fun text malformed => parse_eq_error_iff⟩
  · intro malformed hfront
    rw [hfront]
  · intro entries more hfront hback
    rw [hfront, hback]
    rfl
  · intro entries malformed hfront hback
    rw [hfront, hback]
    rfl

/-- Lines of which a comment and a continuation end in backslashes. -/
def commented : List Char :=
  "a=1\n# c\\\nb=x\\\n # y\\\\\n".toList

theorem parse_commented_append :
    Text.EndsLine commented ∧ leavesOpen (Text.lines commented) = false
      ∧ parse commented = .ok [⟨['a'], ['1']⟩, ⟨['b'], "x# y\\".toList⟩]
      ∧ parse "\n!\nc=\\u00\\\n g0\n".toList = .error ⟨3, .badUnicodeEscape "00g0".toList⟩
      ∧ parse (commented ++ "\n!\nc=\\u00\\\n g0\n".toList)
        = .error ⟨7, .badUnicodeEscape "00g0".toList⟩ := by
  have hends : Text.EndsLine commented := by decide
  have hlines : Text.lines commented
      = ["a=1".toList, "# c\\".toList, "b=x\\".toList] ++ [" # y\\\\".toList] := by decide
  have hclosed : leavesOpen (Text.lines commented) = false := by
    rw [hlines, leavesOpen_eq_false_iff]
    exact .inl (by decide)
  have hfront : parse commented = .ok [⟨['a'], ['1']⟩, ⟨['b'], "x# y\\".toList⟩] := by decide
  have hback : parse "\n!\nc=\\u00\\\n g0\n".toList
      = .error ⟨3, .badUnicodeEscape "00g0".toList⟩ := by decide
  exact ⟨hends, hclosed, hfront, hback,
    (parse_append_and_eq_error_iff_failsFirstOn hends hclosed _).2.2.1 _ _ hfront hback⟩

end

end CiFront.Properties
