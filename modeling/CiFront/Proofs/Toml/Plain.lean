import CiFront.Toml.Plain
import Mathlib.Data.List.Forall2
/-!
# What a reading into plain values keeps

Reading the entries of a table keeps its keys and its texts. A table that opens with the reserved key is
no table any more once it is read: nothing but a moment comes of it. This is all that is known of a
reading, and the one that is run is an instance.
-/

namespace CiFront.Toml

open Text

/-- The first key of a table is the reserved one. -/
def OpensReserved (table : Table) : Prop :=
  (table.map Prod.fst).head? = some "$__toml_private_datetime"

instance (table : Table) : Decidable (OpensReserved table) :=
  inferInstanceAs (Decidable (_ = _))

/-- What a reading makes of each kind of value. -/
structure IsReading (plain? : Value → Option Value) : Prop where
  /-- What is neither a list nor a table is plain already. -/
  scalar {value : Value} : (∀ items, value ≠ .list items) → (∀ entries, value ≠ .table entries) →
    plain? value = some value
  /-- A list is read item by item. -/
  list (items : List Value) : plain? (.list items) = (items.mapM plain?).map .list
  /-- A table is read entry by entry, unless it opens with the reserved key. -/
  table {entries : Table} : ¬ OpensReserved entries →
    plain? (.table entries) = (readEntries? plain? entries).map .table
  /-- A table that opens with the reserved key is an error, or a moment. -/
  reserved {entries : Table} {value : Value} : OpensReserved entries →
    plain? (.table entries) = some value → ∃ written, value = .moment written

/-! ### Entries -/

section

variable {plain? : Value → Option Value} {entries plain : Table}

theorem readEntries?_cons (entry : String × Value) :
    readEntries? plain? (entry :: entries) = (do
      pure ((entry.1, ← plain? entry.2) :: (← readEntries? plain? entries))) := by
  rw [readEntries?, List.mapM_cons]
  cases hvalue : plain? entry.2 <;> simp [hvalue, readEntries?]

theorem readEntries?_cons_eq_some_iff {entry : String × Value} :
    readEntries? plain? (entry :: entries) = some plain
      ↔ ∃ value, plain? entry.2 = some value
        ∧ ∃ rest, readEntries? plain? entries = some rest ∧ (entry.1, value) :: rest = plain := by
  simp [readEntries?_cons, Option.bind_eq_some_iff]

theorem map_fst_readEntries? (h : readEntries? plain? entries = some plain) :
    plain.map Prod.fst = entries.map Prod.fst := by
  induction entries generalizing plain with
  | nil =>
    obtain rfl : [] = plain := by simpa [readEntries?] using h
    rfl
  | cons entry rest ih =>
    obtain ⟨value, -, plainRest, hrest, rfl⟩ := readEntries?_cons_eq_some_iff.mp h
    simp [ih hrest]

/-- A look-up in what is read finds what is read from the value that a look-up in the table finds. -/
theorem map_some_lookup_readEntries? (h : readEntries? plain? entries = some plain) (key : String) :
    (plain.lookup key).map some = (entries.lookup key).map plain? := by
  induction entries generalizing plain with
  | nil =>
    obtain rfl : [] = plain := by simpa [readEntries?] using h
    rfl
  | cons entry rest ih =>
    obtain ⟨value, hvalue, plainRest, hrest, rfl⟩ := readEntries?_cons_eq_some_iff.mp h
    rw [List.lookup_cons, List.lookup_cons]
    cases key == entry.1 with
    | true => simp [hvalue]
    | false => exact ih hrest

end

/-! ### Values -/

namespace IsReading

variable {plain? : Value → Option Value} {item plain : Value}

theorem list_eq_some_iff (hreading : IsReading plain?) {items : List Value} :
    plain? (.list items) = some plain
      ↔ ∃ plainItems, items.mapM plain? = some plainItems ∧ .list plainItems = plain := by
  rw [hreading.list, Option.map_eq_some_iff]

theorem eq_some_table_iff (hreading : IsReading plain?) {entries : Table} :
    plain? item = some (.table entries)
      ↔ ∃ table, item = .table table ∧ ¬ OpensReserved table
        ∧ readEntries? plain? table = some entries := by
  cases item with
  | table table =>
    by_cases hopens : OpensReserved table
    · have hnone : plain? (.table table) ≠ some (.table entries) := by
        intro h
        obtain ⟨written, hwritten⟩ := hreading.reserved hopens h
        cases hwritten
      simp [hopens, hnone]
    · simp [hopens, hreading.table hopens]
  | list items => simp [hreading.list]
  | text | int | float | flag | moment => simp [hreading.scalar]

theorem text?_eq (hreading : IsReading plain?) (h : plain? item = some plain) :
    plain.text? = item.text? := by
  cases item with
  | table table =>
    by_cases hopens : OpensReserved table
    · obtain ⟨written, rfl⟩ := hreading.reserved hopens h
      rfl
    · rw [hreading.table hopens] at h
      obtain ⟨entries, -, rfl⟩ := Option.map_eq_some_iff.mp h
      rfl
  | list items =>
    obtain ⟨plainItems, -, rfl⟩ := hreading.list_eq_some_iff.mp h
    rfl
  | text | int | float | flag | moment =>
    obtain rfl : _ = plain := by simpa [hreading.scalar] using h
    rfl

end IsReading

/-! ### The reading that is run -/

theorem exists_eq_moment_of_whole?_moment {s : List Char} {value : Value}
    (h : Scan.whole? moment s = some value) : ∃ written, value = .moment written := by
  rw [Scan.whole?] at h
  split at h
  · rename_i found hscan
    obtain rfl : found = value := by simpa using h
    rw [moment] at hscan
    change Option.bind _ _ = _ at hscan
    obtain ⟨⟨⟨⟨⟩, written⟩, rest⟩, -, hmoment⟩ := Option.bind_eq_some_iff.mp hscan
    cases hmoment
    exact ⟨written, rfl⟩
  · cases h

theorem Value.exists_eq_moment_of_namedMoment? {value named : Value}
    (h : value.namedMoment? = some named) : ∃ written, named = .moment written := by
  cases value <;> simp only [namedMoment?, reduceCtorEq] at h
  exact exists_eq_moment_of_whole?_moment h

theorem reserved?_eq_none_iff {table : Table} : reserved? table = none ↔ ¬ OpensReserved table := by
  cases table with
  | nil => simp [reserved?, OpensReserved]
  | cons entry rest =>
    by_cases hkey : entry.1 = momentKey <;> simp_all [reserved?, OpensReserved, momentKey]

theorem plainItems?_eq_mapM (items : List Value) : plainItems? items = items.mapM Value.plain? := by
  induction items with
  | nil => rfl
  | cons item rest ih => rw [plainItems?, List.mapM_cons, ih]

theorem plainEntries?_eq_readEntries? (entries : Table) :
    plainEntries? entries = readEntries? Value.plain? entries := by
  induction entries with
  | nil => rfl
  | cons entry rest ih =>
    rw [plainEntries?, ih, readEntries?_cons]

/-- **The reading that is run is a reading.** -/
theorem isReading_plain? : IsReading Value.plain? where
  scalar {value} hlist htable := by
    cases value with
    | list items => exact absurd rfl (hlist items)
    | table entries => exact absurd rfl (htable entries)
    | text | int | float | flag | moment => rw [Value.plain?] <;> simp
  list items := by rw [Value.plain?, plainItems?_eq_mapM]
  table {entries} hopens := by
    rw [Value.plain?, reserved?_eq_none_iff.mpr hopens, ← plainEntries?_eq_readEntries?]
  reserved {entries value} hopens h := by
    cases hreserved : reserved? entries with
    | none => exact absurd hopens (reserved?_eq_none_iff.mp hreserved)
    | some named =>
      rw [Value.plain?, hreserved] at h
      exact Value.exists_eq_moment_of_namedMoment? h

end CiFront.Toml
