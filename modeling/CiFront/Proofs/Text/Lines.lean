import CiFront.Text.Lines
/-!
# Lines that a text is put together from

A line followed by a line feed is read as this line, whatever comes after it, but for one carriage
return at its end. So a text of whole lines can be put in front of any other, and it has as many lines
as it has line feeds.
-/

namespace CiFront.Text

/-- A line without one carriage return at its end. -/
def dropReturn : List Char → List Char
  | [] => []
  | ['\r'] => []
  | c :: rest => c :: dropReturn rest

theorem dropReturn_cons {c : Char} {rest : List Char} (h : c = '\r' → rest ≠ []) :
    dropReturn (c :: rest) = c :: dropReturn rest := by
  rw [dropReturn]
  exact h

theorem dropReturn_eq_self {line : List Char} (h : '\r' ∉ line) : dropReturn line = line := by
  induction line with
  | nil => rfl
  | cons c line ih =>
    rw [List.mem_cons, not_or] at h
    rw [dropReturn_cons, ih h.2]
    exact fun hc => absurd hc.symm h.1

theorem mem_of_mem_dropReturn {line : List Char} {c : Char} (h : c ∈ dropReturn line) : c ∈ line := by
  fun_induction dropReturn line with
  | case1 => exact h
  | case2 => cases h
  | case3 d rest _ ih =>
    rcases List.mem_cons.mp h with rfl | hrest
    · exact List.mem_cons_self
    · exact List.mem_cons_of_mem _ (ih hrest)

theorem dropReturn_append {rest : List Char} (h : rest ≠ []) (front : List Char) :
    dropReturn (front ++ rest) = front ++ dropReturn rest := by
  induction front with
  | nil => rfl
  | cons c front ih =>
    rw [List.cons_append, List.cons_append, dropReturn_cons, ih]
    intro _ hempty
    exact h (List.append_eq_nil_iff.mp hempty).2

theorem dropReturn_append_return (line : List Char) : dropReturn (line ++ ['\r']) = line := by
  rw [dropReturn_append (List.cons_ne_nil _ _)]
  exact List.append_nil line

theorem lines_append_lineFeed {line : List Char} (h : '\n' ∉ line) (rest : List Char) :
    lines (line ++ '\n' :: rest) = dropReturn line :: lines rest := by
  induction line with
  | nil => rfl
  | cons c line ih =>
    rw [List.mem_cons, not_or] at h
    obtain ⟨hc, hline⟩ := h
    by_cases hreturn : c = '\r' ∧ line = []
    · obtain ⟨rfl, rfl⟩ := hreturn
      rfl
    · rw [List.cons_append, lines, ih hline, dropReturn_cons fun hc hempty => hreturn ⟨hc, hempty⟩]
      · exact fun h => hc h.symm
      · intro more hc hmore
        cases line with
        | nil => exact hreturn ⟨hc, rfl⟩
        | cons d line =>
          rw [List.cons_append, List.cons.injEq] at hmore
          exact hline (hmore.1 ▸ List.mem_cons_self)

theorem lines_of_not_mem {line : List Char} (h : '\n' ∉ line) (hne : line ≠ []) :
    lines line = [line] := by
  induction line with
  | nil => exact absurd rfl hne
  | cons c line ih =>
    rw [List.mem_cons, not_or] at h
    obtain ⟨hc, hline⟩ := h
    rw [lines]
    · cases line with
      | nil => rfl
      | cons d line => rw [ih hline (List.cons_ne_nil d line)]
    · exact fun h => hc h.symm
    · rintro more _ rfl
      exact hline List.mem_cons_self

/-- A line without line ends stands by itself in front of the end of the text or of a line feed. -/
theorem lines_append_of_head {line rest : List Char} (h : ∀ c ∈ line, c ≠ '\n' ∧ c ≠ '\r')
    (hrest : rest = [] ∨ rest.head? = some '\n') (hne : line ++ rest ≠ []) :
    lines (line ++ rest) = line :: lines rest.tail := by
  have hlineFeed : '\n' ∉ line := fun hmem => (h _ hmem).1 rfl
  have hreturn : '\r' ∉ line := fun hmem => (h _ hmem).2 rfl
  rcases hrest with rfl | hhead
  · rw [List.append_nil] at hne ⊢
    exact lines_of_not_mem hlineFeed hne
  · obtain ⟨more, rfl⟩ := List.head?_eq_some_iff.mp hhead
    rw [lines_append_lineFeed hlineFeed, dropReturn_eq_self hreturn, List.tail_cons]

/-! ### Whole lines -/

/-- Whether a text is one of whole lines: it is empty or ends in a line feed. -/
def EndsLine (text : List Char) : Prop :=
  text = [] ∨ text.getLast? = some '\n'

instance (text : List Char) : Decidable (EndsLine text) :=
  inferInstanceAs (Decidable (text = [] ∨ text.getLast? = some '\n'))

theorem EndsLine.append_lineFeed {rest : List Char} (h : EndsLine rest) (line : List Char) :
    EndsLine (line ++ '\n' :: rest) := by
  right
  rcases h with rfl | hlast
  · simp
  · simp [List.getLast?_cons, hlast]

/-- A text of whole lines is a line with its line feed in front of such a text, unless it is empty. -/
theorem EndsLine.exists_line {text : List Char} (h : EndsLine text) (hne : text ≠ []) :
    ∃ line rest, text = line ++ '\n' :: rest ∧ '\n' ∉ line ∧ EndsLine rest := by
  have hlast : text.getLast? = some '\n' := h.resolve_left hne
  obtain ⟨line, rest, rfl, hline⟩ := List.eq_append_cons_of_mem (List.mem_of_getLast? hlast)
  refine ⟨line, rest, rfl, hline, ?_⟩
  cases rest with
  | nil => exact .inl rfl
  | cons c rest =>
    right
    simpa [List.getLast?_append, List.getLast?_cons_cons] using hlast

theorem EndsLine.induction {motive : ∀ text, EndsLine text → Prop} (nil : motive [] (.inl rfl))
    (line : ∀ line rest (_ : '\n' ∉ line) (hrest : EndsLine rest), motive rest hrest →
      motive (line ++ '\n' :: rest) (hrest.append_lineFeed line))
    {text : List Char} (h : EndsLine text) : motive text h := by
  induction hlength : text.length using Nat.strongRecOn generalizing text with
  | _ n ih =>
    by_cases hne : text = []
    · subst hne
      exact nil
    · obtain ⟨first, rest, rfl, hfirst, hrest⟩ := h.exists_line hne
      have hshort : rest.length < n := by
        rw [← hlength, List.length_append, List.length_cons]
        omega
      exact line first rest hfirst hrest (ih rest.length hshort hrest rfl)

theorem lines_append {front : List Char} (h : EndsLine front) (back : List Char) :
    lines (front ++ back) = lines front ++ lines back := by
  induction h using EndsLine.induction with
  | nil => rfl
  | line line rest hline _ ih =>
    rw [List.append_assoc, List.cons_append, lines_append_lineFeed hline,
      lines_append_lineFeed hline, ih, List.cons_append]

theorem length_lines {text : List Char} (h : EndsLine text) :
    (lines text).length = text.count '\n' := by
  induction h using EndsLine.induction with
  | nil => rfl
  | line line rest hline _ ih =>
    rw [lines_append_lineFeed hline, List.length_cons, ih, List.count_append,
      List.count_eq_zero_of_not_mem hline, List.count_cons_self, Nat.zero_add]

/-- A text can be cut in front of any of its lines. -/
theorem exists_append_of_lines_eq {text line : List Char} {front rest : List (List Char)}
    (h : lines text = front ++ line :: rest) :
    ∃ before after, text = before ++ after ∧ EndsLine before ∧ lines before = front
      ∧ lines after = line :: rest := by
  induction front generalizing text with
  | nil => exact ⟨[], text, rfl, .inl rfl, rfl, h⟩
  | cons first front ih =>
    by_cases hbreak : '\n' ∈ text
    · obtain ⟨start, more, rfl, hstart⟩ := List.eq_append_cons_of_mem hbreak
      rw [lines_append_lineFeed hstart, List.cons_append, List.cons.injEq] at h
      obtain ⟨rfl, hmore⟩ := h
      obtain ⟨before, after, rfl, hends, rfl, hafter⟩ := ih hmore
      refine ⟨start ++ '\n' :: before, after, ?_, hends.append_lineFeed start, ?_, hafter⟩
      · rw [List.append_assoc, List.cons_append]
      · rw [lines_append_lineFeed hstart]
    · have hne : text ≠ [] := by
        rintro rfl
        exact absurd h.symm (by simp)
      rw [lines_of_not_mem hbreak hne] at h
      exact absurd h (by simp)

end CiFront.Text
