import CiFront.Job.File
import Mathlib.Data.List.Forall2
/-!
# Definitions and the tables that hold them

A table holds a definition if it states the kind and the name, and every other field stands at its key or
has its default where the key is absent. What is read from a table is the definition that it holds.
-/

namespace CiFront

/-! ### Lists and look-ups -/

theorem mapM_eq_some_iff {α β : Type} {f : α → Option β} {list : List α} {values : List β} :
    list.mapM f = some values ↔ List.Forall₂ (fun a b => f a = some b) list values := by
  induction list generalizing values with
  | nil => simp [eq_comm]
  | cons a rest ih =>
    cases values with
    | nil => simp [Option.bind_eq_some_iff]
    | cons b values => simp [Option.bind_eq_some_iff, ih]

theorem lookup_map_snd {α β : Type} (f : α → β) (key : String) (list : List (String × α)) :
    (list.map fun (key, a) => (key, f a)).lookup key = (list.lookup key).map f := by
  induction list with
  | nil => rfl
  | cons entry rest ih =>
    rw [List.map_cons, List.lookup_cons, List.lookup_cons]
    cases key == entry.1 with
    | true => rfl
    | false => exact ih

theorem Toml.Value.text?_eq_some_iff {item : Toml.Value} {s : String} :
    item.text? = some s ↔ item = .text s := by
  cases item <;> simp [Toml.Value.text?]

theorem Toml.mapM_text?_eq_some_iff {items : List Toml.Value} {list : List String} :
    items.mapM Toml.Value.text? = some list ↔ items = list.map .text := by
  simp only [mapM_eq_some_iff, Value.text?_eq_some_iff]
  rw [← List.forall₂_eq_eq_eq, List.forall₂_map_right_iff]

namespace Parameter

/-! ### Cells -/

namespace Cells

variable {cells : Cells} {key : String}

theorem text?_eq_some_iff {s : String} :
    cells.text? key = some s ↔ cells.lookup key = some (.text s) := by
  unfold text?
  rcases cells.lookup key with - | (_ | _ | _ | _ | _ | _) <;> simp

theorem texts?_eq_some_iff {list : List String} :
    cells.texts? key = some list ↔ cells.lookup key = some (.texts list) := by
  unfold texts?
  rcases cells.lookup key with - | (_ | _ | _ | _ | _ | _) <;> simp

theorem flagOrFalse?_eq_some_iff {flag : Bool} :
    cells.flagOrFalse? key = some flag
      ↔ cells.lookup key = some (.flag flag) ∨ cells.lookup key = none ∧ flag = false := by
  unfold flagOrFalse?
  rcases cells.lookup key with - | (_ | _ | _ | _ | _ | _) <;> simp [eq_comm]

theorem optionalText?_eq_some_iff {s : Option String} :
    cells.optionalText? key = some s
      ↔ cells.lookup key = s.map .text ∨ cells.lookup key = some .null ∧ s = none := by
  unfold optionalText?
  rcases cells.lookup key with - | (_ | _ | _ | _ | _ | _) <;> cases s <;> simp

theorem ofInt_eq_iff {m : Int} {n : Int64} (hlow : Int64.minValue.toInt ≤ m)
    (hhigh : m ≤ Int64.maxValue.toInt) : Int64.ofInt m = n ↔ m = n.toInt := by
  constructor
  · rintro rfl
    rw [Int64.toInt_minValue] at hlow
    rw [Int64.toInt_maxValue] at hhigh
    exact (Int64.toInt_ofInt_of_le hlow (by omega)).symm
  · rintro rfl
    exact Int64.ofInt_toInt n

/-- A number that is read is one of 64 bits, and is the number that was written. -/
theorem optionalInt64?_eq_some_iff {n : Option Int64} :
    cells.optionalInt64? key = some n
      ↔ cells.lookup key = n.map (fun n => .int n.toInt)
        ∨ cells.lookup key = some .null ∧ n = none := by
  unfold optionalInt64?
  rcases cells.lookup key with - | (_ | _ | m | _ | _ | _)
  case some.int =>
    cases n with
    | none => simp
    | some n =>
      dsimp only
      split
      · rename_i hrange
        simp [ofInt_eq_iff hrange.1 hrange.2]
      · rename_i hrange
        have hne : m ≠ n.toInt := by
          rintro rfl
          exact hrange ⟨n.minValue_le_toInt, n.toInt_le⟩
        simp [hne]
  all_goals cases n <;> simp

end Cells

/-- The fields of a kind, read one by one. -/
def Kind.ReadFrom (cells : Cells) : Kind → Prop
  | .string default trimmed =>
    cells.optionalText? "default" = some default ∧ cells.flagOrFalse? "trim" = some trimmed
  | .text default => cells.optionalText? "default" = some default
  | .boolean default => cells.flagOrFalse? "default" = some default
  | .integer default min max =>
    cells.optionalInt64? "default" = some default ∧ cells.optionalInt64? "min" = some min
      ∧ cells.optionalInt64? "max" = some max
  | .choice choices => cells.texts? "choices" = some choices
  | .password default => cells.optionalText? "default" = some (default.map Secret.reveal)

section

variable {cells : Cells}

theorem Kind.ofCells?_eq_some_iff {name : String} {kind : Kind} :
    Kind.ofCells? cells name = some kind ↔ name = kind.name ∧ kind.ReadFrom cells := by
  constructor
  · intro h
    unfold Kind.ofCells? at h
    split at h
    case h_7 => cases h
    all_goals
      simp only [bind, pure, Option.bind_eq_some_iff, Option.some.injEq] at h
    case h_1 =>
      obtain ⟨default, hdefault, trimmed, htrimmed, rfl⟩ := h
      exact ⟨rfl, hdefault, htrimmed⟩
    case h_2 | h_3 | h_5 =>
      obtain ⟨field, hfield, rfl⟩ := h
      exact ⟨rfl, hfield⟩
    case h_4 =>
      obtain ⟨default, hdefault, min, hmin, max, hmax, rfl⟩ := h
      exact ⟨rfl, hdefault, hmin, hmax⟩
    case h_6 =>
      obtain ⟨default, hdefault, rfl⟩ := h
      refine ⟨rfl, ?_⟩
      rw [ReadFrom, hdefault]
      cases default <;> rfl
  · rintro ⟨rfl, hfields⟩
    cases kind with
    | string => simp [Kind.ofCells?, Kind.name, hfields.1, hfields.2]
    | text default | boolean default | choice choices =>
      rw [ReadFrom] at hfields
      simp [Kind.ofCells?, Kind.name, hfields]
    | integer => simp [Kind.ofCells?, Kind.name, hfields.1, hfields.2.1, hfields.2.2]
    | password default =>
      rw [ReadFrom] at hfields
      cases default <;> simp [Kind.ofCells?, Kind.name, hfields]

theorem ofCells?_eq_some_iff {parameter : Parameter} :
    ofCells? cells = some parameter
      ↔ cells.text? "type" = some parameter.kind.name ∧ cells.text? "name" = some parameter.name
        ∧ cells.optionalText? "description" = some parameter.description
        ∧ parameter.kind.ReadFrom cells := by
  simp only [ofCells?, bind, pure, Option.bind_eq_some_iff, Option.some.injEq,
    Kind.ofCells?_eq_some_iff]
  constructor
  · rintro ⟨_, htype, _, ⟨rfl, hfields⟩, _, hname, _, hdescription, rfl⟩
    exact ⟨htype, hname, hdescription, hfields⟩
  · rintro ⟨htype, hname, hdescription, hfields⟩
    exact ⟨_, htype, _, ⟨rfl, hfields⟩, _, hname, _, hdescription, rfl⟩

end

/-! ### Tables -/

/-- A flag stands at a key, or is false and the key is absent. -/
def HoldsFlag (table : Toml.Table) (key : String) (flag : Bool) : Prop :=
  table.lookup key = some (.flag flag) ∨ table.lookup key = none ∧ flag = false

/-- The fields of a kind stand in a table. -/
def Kind.HeldBy (table : Toml.Table) : Kind → Prop
  | .string default trimmed =>
    table.lookup "default" = default.map .text ∧ HoldsFlag table "trim" trimmed
  | .text default => table.lookup "default" = default.map .text
  | .boolean default => HoldsFlag table "default" default
  | .integer default min max =>
    table.lookup "default" = default.map (fun n => .int n.toInt)
      ∧ table.lookup "min" = min.map (fun n => .int n.toInt)
      ∧ table.lookup "max" = max.map fun n => .int n.toInt
  | .choice choices => table.lookup "choices" = some (.list (choices.map .text))
  | .password default => table.lookup "default" = default.map fun secret => .text secret.reveal

/-- A definition stands in a table. -/
structure HeldBy (table : Toml.Table) (parameter : Parameter) : Prop where
  kind : table.lookup "type" = some (.text parameter.kind.name)
  name : table.lookup "name" = some (.text parameter.name)
  description : table.lookup "description" = parameter.description.map .text
  fields : parameter.kind.HeldBy table

namespace Cell

/-- The value that a cell was read from, if that can be told. -/
def toml? : Cell → Option Toml.Value
  | .flag b => some (.flag b)
  | .int n => some (.int n)
  | .text s => some (.text s)
  | .texts list => some (.list (list.map .text))
  | .null => none
  | .other => none

theorem ofToml_eq_iff {value : Toml.Value} {cell : Cell} (h : cell ≠ .other) :
    ofToml value = cell ↔ cell.toml? = some value := by
  cases value with
  | list items =>
    rw [ofToml]
    split
    · rename_i list hlist
      rw [Toml.mapM_text?_eq_some_iff] at hlist
      subst hlist
      have hinj (other : List String) :
          other.map Toml.Value.text = list.map .text ↔ list = other := by
        rw [List.map_inj_right fun s t h => by simpa using h, eq_comm]
      cases cell <;> simp [toml?, hinj]
    · rename_i hnone
      have hne (list : List String) : list.map Toml.Value.text ≠ items := by
        intro heq
        rw [Toml.mapM_text?_eq_some_iff.mpr heq.symm] at hnone
        cases hnone
      cases cell <;> simp_all [toml?]
  | _ => cases cell <;> simp_all [ofToml, toml?, eq_comm]

end Cell

section

variable {table : Toml.Table} {key : String}

theorem lookup_cellsOfToml (table : Toml.Table) (key : String) :
    (cellsOfToml table).lookup key = (table.lookup key).map Cell.ofToml :=
  lookup_map_snd Cell.ofToml key table

theorem lookup_cellsOfToml_eq_none_iff :
    (cellsOfToml table).lookup key = none ↔ table.lookup key = none := by
  rw [lookup_cellsOfToml, Option.map_eq_none_iff]

theorem lookup_cellsOfToml_ne_null : (cellsOfToml table).lookup key ≠ some .null := by
  simp [lookup_cellsOfToml, Cell.ofToml_eq_iff, Cell.toml?]

theorem lookup_cellsOfToml_eq_some_iff {cell : Cell} {value : Toml.Value}
    (h : cell.toml? = some value) :
    (cellsOfToml table).lookup key = some cell ↔ table.lookup key = some value := by
  have hne : cell ≠ .other := by
    rintro rfl
    cases h
  simp [lookup_cellsOfToml, Cell.ofToml_eq_iff hne, h]

theorem text?_cellsOfToml_eq_some_iff {s : String} :
    (cellsOfToml table).text? key = some s ↔ table.lookup key = some (.text s) := by
  rw [Cells.text?_eq_some_iff, lookup_cellsOfToml_eq_some_iff rfl]

theorem texts?_cellsOfToml_eq_some_iff {list : List String} :
    (cellsOfToml table).texts? key = some list
      ↔ table.lookup key = some (.list (list.map .text)) := by
  rw [Cells.texts?_eq_some_iff, lookup_cellsOfToml_eq_some_iff rfl]

theorem flagOrFalse?_cellsOfToml_eq_some_iff {flag : Bool} :
    (cellsOfToml table).flagOrFalse? key = some flag ↔ HoldsFlag table key flag := by
  rw [Cells.flagOrFalse?_eq_some_iff, lookup_cellsOfToml_eq_some_iff rfl,
    lookup_cellsOfToml_eq_none_iff, HoldsFlag]

theorem optionalText?_cellsOfToml_eq_some_iff {s : Option String} :
    (cellsOfToml table).optionalText? key = some s ↔ table.lookup key = s.map .text := by
  rw [Cells.optionalText?_eq_some_iff]
  cases s with
  | none =>
    rw [Option.map_none, Option.map_none, lookup_cellsOfToml_eq_none_iff]
    simp only [lookup_cellsOfToml_ne_null, false_and, or_false]
  | some s =>
    rw [Option.map_some, Option.map_some, lookup_cellsOfToml_eq_some_iff rfl]
    simp

theorem optionalInt64?_cellsOfToml_eq_some_iff {n : Option Int64} :
    (cellsOfToml table).optionalInt64? key = some n
      ↔ table.lookup key = n.map fun n => .int n.toInt := by
  rw [Cells.optionalInt64?_eq_some_iff]
  cases n with
  | none =>
    rw [Option.map_none, Option.map_none, lookup_cellsOfToml_eq_none_iff]
    simp only [lookup_cellsOfToml_ne_null, false_and, or_false]
  | some n =>
    rw [Option.map_some, Option.map_some, lookup_cellsOfToml_eq_some_iff rfl]
    simp

theorem Kind.readFrom_cellsOfToml_iff {kind : Kind} :
    kind.ReadFrom (cellsOfToml table) ↔ kind.HeldBy table := by
  cases kind with
  | password default =>
    rw [ReadFrom, HeldBy, optionalText?_cellsOfToml_eq_some_iff, Option.map_map]
    rfl
  | _ =>
    simp only [ReadFrom, HeldBy, optionalText?_cellsOfToml_eq_some_iff,
      flagOrFalse?_cellsOfToml_eq_some_iff, optionalInt64?_cellsOfToml_eq_some_iff,
      texts?_cellsOfToml_eq_some_iff]

/-- What is read from a table is the definition that stands in it. -/
theorem ofCells?_cellsOfToml_eq_some_iff {parameter : Parameter} :
    ofCells? (cellsOfToml table) = some parameter ↔ parameter.HeldBy table := by
  rw [ofCells?_eq_some_iff, text?_cellsOfToml_eq_some_iff, text?_cellsOfToml_eq_some_iff,
    optionalText?_cellsOfToml_eq_some_iff, Kind.readFrom_cellsOfToml_iff]
  exact ⟨fun ⟨kind, name, description, fields⟩ => ⟨kind, name, description, fields⟩,
    fun ⟨kind, name, description, fields⟩ => ⟨kind, name, description, fields⟩⟩

end

end Parameter

end CiFront
