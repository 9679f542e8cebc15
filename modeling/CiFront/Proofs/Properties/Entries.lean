import CiFront.Properties
/-!
# A properties text is read as a whole

The lines of a text are read in order up to the first bad one. One bad line, wherever it stands,
refuses the text with all its other lines. The numbers of the lines make no difference but to the number
of the fault.
-/

namespace CiFront.Properties

variable {line : LogicalLine} {malformed : Malformed}

theorem entriesOf_eq_error_of_mem {lines : List LogicalLine} (hline : line ∈ lines)
    (hentry : line.entry = .error malformed) : ∃ refused, entriesOf lines = .error refused := by
  induction lines with
  | nil => cases hline
  | cons first rest ih =>
    rw [entriesOf]
    cases hfirst : first.entry with
    | error refused => exact ⟨refused, rfl⟩
    | ok entry =>
      rcases List.mem_cons.mp hline with rfl | hrest
      · rw [hentry] at hfirst
        cases hfirst
      · obtain ⟨refused, hrefused⟩ := ih hrest
        exact ⟨refused, by rw [hrefused]; rfl⟩

theorem parse_eq_error_of_mem {text : List Char} (hline : line ∈ logicalLines text)
    (hentry : line.entry = .error malformed) : ∃ refused, parse text = .error refused :=
  entriesOf_eq_error_of_mem hline hentry

theorem entriesOf_append (front back : List LogicalLine) :
    entriesOf (front ++ back) = match entriesOf front with
      | .error malformed => .error malformed
      | .ok entries => (entriesOf back).map (entries ++ ·) := by
  induction front with
  | nil =>
    rw [List.nil_append, entriesOf]
    cases entriesOf back <;> rfl
  | cons first front ih =>
    rw [List.cons_append, entriesOf, entriesOf, ih]
    cases first.entry with
    | error refused => rfl
    | ok entry =>
      cases entriesOf front with
      | error refused => rfl
      | ok entries => cases entriesOf back <;> rfl

/-- The first line that cannot be read makes the fault. -/
theorem entriesOf_eq_error_iff {lines : List LogicalLine} :
    entriesOf lines = .error malformed ↔
      ∃ before line after, lines = before ++ line :: after
        ∧ (∃ entries, entriesOf before = .ok entries) ∧ line.entry = .error malformed := by
  constructor
  · intro h
    induction lines with
    | nil => cases h
    | cons first rest ih =>
      rw [entriesOf] at h
      cases hfirst : first.entry with
      | error refused =>
        rw [hfirst] at h
        cases h
        exact ⟨[], first, rest, rfl, ⟨[], rfl⟩, hfirst⟩
      | ok entry =>
        rw [hfirst] at h
        cases hrest : entriesOf rest with
        | ok entries =>
          rw [hrest] at h
          cases h
        | error refused =>
          rw [hrest] at h
          cases h
          obtain ⟨before, line, after, rfl, ⟨entries, hbefore⟩, hline⟩ := ih hrest
          refine ⟨first :: before, line, after, rfl, ⟨entry :: entries, ?_⟩, hline⟩
          rw [entriesOf, hfirst, hbefore]
          rfl
  · rintro ⟨before, line, after, rfl, ⟨entries, hbefore⟩, hline⟩
    rw [entriesOf_append, hbefore, entriesOf, hline]
    rfl

/-! ### Numbers -/

/-- A logical line under another number. -/
def LogicalLine.renumber (f : Nat → Nat) (line : LogicalLine) : LogicalLine :=
  ⟨f line.number, line.text⟩

/-- A fault under another number. -/
def Malformed.renumber (f : Nat → Nat) (malformed : Malformed) : Malformed :=
  ⟨f malformed.line, malformed.fault⟩

theorem LogicalLine.entry_renumber (f : Nat → Nat) (line : LogicalLine) :
    (line.renumber f).entry = line.entry.mapError (Malformed.renumber f) := by
  rw [entry, entry, renumber]
  dsimp only
  cases unescape (split line.text).1 with
  | error fault => rfl
  | ok key =>
    cases key with
    | nil => rfl
    | cons c key => cases unescape (split line.text).2 <;> rfl

theorem entriesOf_map_renumber (f : Nat → Nat) (lines : List LogicalLine) :
    entriesOf (lines.map (LogicalLine.renumber f))
      = (entriesOf lines).mapError (Malformed.renumber f) := by
  induction lines with
  | nil => rfl
  | cons line rest ih =>
    rw [List.map_cons, entriesOf, entriesOf, LogicalLine.entry_renumber, ih]
    cases line.entry with
    | error malformed => rfl
    | ok entry => cases entriesOf rest <;> rfl

/-- A line is refused under its own number. -/
theorem LogicalLine.line_eq_of_entry (h : line.entry = .error malformed) :
    malformed.line = line.number := by
  have hsame := line.entry_renumber fun _ => line.number
  rw [renumber, h] at hsame
  exact congrArg Malformed.line (Except.error.inj hsame)

end CiFront.Properties
