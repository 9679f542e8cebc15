import CiFront.Proofs.Parameter.Document
import CiFront.Proofs.Parameter.Secrecy
import Mathlib.Data.List.Perm.Basic
/-!
# Definitions are read back from JSON

A definition is read back from the object it is written as, but for a password's default, which is not
written. Keys that its kind does not define are not looked at, wherever they stand in the object.
-/

namespace CiFront

/-! ### Looking up members -/

section

variable {α : Type} {key : String} {value : α} {list other : List (String × α)}

theorem lookup_eq_some_iff_mem (hnodup : (list.map Prod.fst).Nodup) :
    list.lookup key = some value ↔ (key, value) ∈ list := by
  rw [List.lookup_eq_some_iff]
  constructor
  · rintro ⟨before, after, rfl, _⟩
    exact List.mem_append_right _ List.mem_cons_self
  · intro hmem
    obtain ⟨before, after, rfl⟩ := List.append_of_mem hmem
    refine ⟨before, after, rfl, fun pair hpair => bne_iff_ne.mpr fun heq => ?_⟩
    rw [List.map_append, List.map_cons, List.nodup_append] at hnodup
    exact hnodup.2.2 _ (List.mem_map_of_mem hpair) _ List.mem_cons_self heq.symm

/-- Other keys do not matter when a key is looked up, and neither does the order of the members. -/
theorem lookup_eq_of_perm_append {extra : List (String × α)} (hnodup : (list.map Prod.fst).Nodup)
    (hkey : ∀ pair ∈ extra, pair.1 ≠ key) (hperm : other.Perm (list ++ extra)) :
    other.lookup key = list.lookup key := by
  have hmem {value : α} (h : (key, value) ∈ other) : (key, value) ∈ list :=
    (List.mem_append.mp (hperm.mem_iff.mp h)).resolve_right fun hextra => hkey _ hextra rfl
  cases hother : other.lookup key with
  | none =>
    rw [List.lookup_eq_none_iff] at hother
    rw [eq_comm, List.lookup_eq_none_iff]
    exact fun pair hpair => hother pair (hperm.mem_iff.mpr (List.mem_append_left _ hpair))
  | some value =>
    obtain ⟨before, after, rfl, _⟩ := List.lookup_eq_some_iff.mp hother
    exact ((lookup_eq_some_iff_mem hnodup).mpr (hmem (by simp))).symm

end

namespace Parameter

/-! ### The members of a definition -/

/-- The keys that a definition of a kind may hold. -/
def Kind.keys (kind : Kind) : List String :=
  Job.commonFields ++ (Kind.fields? kind.name).getD []

/-- The members of a definition as an object. -/
def members (parameter : Parameter) : List (String × Json) :=
  ("type", .str parameter.kind.name) :: ("name", .str parameter.name)
    :: optionalMember "description" .str parameter.description ++ parameter.kind.members

theorem toJson_eq_obj_members (parameter : Parameter) : parameter.toJson = .obj parameter.members := rfl

section

variable {α : Type} {write : α → Json}

theorem lookup_optionalMember (key other : String) (a : Option α) :
    (optionalMember key write a).lookup other = if other = key then a.map write else none := by
  cases a with
  | none => simp [optionalMember]
  | some a =>
    rw [optionalMember, List.lookup_cons, List.lookup_nil]
    by_cases hkey : other = key
    · rw [hkey, beq_self_eq_true, if_pos rfl, Option.map_some]
    · rw [beq_false_of_ne hkey, if_neg hkey]

theorem map_fst_optionalMember (key : String) (a : Option α) :
    ((optionalMember key write a).map Prod.fst).Sublist [key] := by
  cases a with
  | none => exact List.nil_sublist _
  | some a => exact List.Sublist.refl _

end

theorem Kind.map_fst_members (kind : Kind) :
    (kind.members.map Prod.fst).Sublist ((Kind.fields? kind.name).getD []) := by
  cases kind with
  | string default trimmed =>
    rw [members, List.map_append]
    exact (map_fst_optionalMember "default" default).append (List.Sublist.refl ["trim"])
  | text default => exact map_fst_optionalMember "default" default
  | integer default min max =>
    rw [members, List.map_append, List.map_append]
    exact ((map_fst_optionalMember "default" default).append
      (map_fst_optionalMember "min" min)).append (map_fst_optionalMember "max" max)
  | password default => exact List.nil_sublist _
  | boolean | choice => exact List.Sublist.refl _

theorem Kind.nodup_keys (kind : Kind) : kind.keys.Nodup := by
  cases kind <;> simp [keys, Job.commonFields, name, Kind.fields?]

theorem nodup_members (parameter : Parameter) : (parameter.members.map Prod.fst).Nodup := by
  have hsublist : List.Sublist (parameter.members.map Prod.fst) parameter.kind.keys := by
    rw [members, List.cons_append, List.cons_append, List.map_cons, List.map_cons, List.map_append]
    exact .cons_cons _
      (.cons_cons _ ((map_fst_optionalMember _ _).append parameter.kind.map_fst_members))
  exact parameter.kind.nodup_keys.sublist hsublist

theorem lookup_members_name (parameter : Parameter) :
    parameter.members.lookup "name" = some (.str parameter.name) := by
  simp [members, List.lookup_cons]

theorem lookup_members_description (parameter : Parameter) :
    parameter.members.lookup "description" = parameter.description.map .str := by
  have hkind : parameter.kind.members.lookup "description" = none := by
    cases parameter.kind <;> simp [Kind.members, List.lookup_append, lookup_optionalMember]
  simp [members, List.lookup_cons, List.lookup_append, lookup_optionalMember, hkind]

theorem lookup_members_of_field {parameter : Parameter} {key : String}
    (h : key ∉ Job.commonFields) :
    parameter.members.lookup key = parameter.kind.members.lookup key := by
  simp only [Job.commonFields, List.mem_cons, List.not_mem_nil, or_false, not_or] at h
  simp [members, List.lookup_cons, List.lookup_append, lookup_optionalMember, beq_eq_decide, h]

/-! ### Reading them back -/

theorem mapM_str?_map_str (texts : List String) : (texts.map Json.str).mapM Json.str? = some texts := by
  rw [mapM_eq_some_iff, List.forall₂_map_left_iff, List.forall₂_same]
  exact fun _ _ => rfl

theorem Cell.ofJson_ofStrs (texts : List String) : Cell.ofJson (.ofStrs texts) = .texts texts := by
  rw [Json.ofStrs, Cell.ofJson, Json.strs?, mapM_str?_map_str]

/-- Cells that hold the members of a kind hold its fields, but for the default of a password. -/
theorem Kind.readFrom_of_lookup_eq {cells : Cells} {kind : Kind}
    (h : ∀ key ∈ (Kind.fields? kind.name).getD [],
      cells.lookup key = (kind.members.lookup key).map Cell.ofJson) :
    kind.concealed.ReadFrom cells := by
  cases kind with
  | string default trimmed =>
    have hdefault : cells.lookup "default" = default.map .text := by
      simpa [members, List.lookup_append, List.lookup_cons, lookup_optionalMember, Function.comp_def,
        Cell.ofJson] using h "default" (by simp [fields?, name])
    have htrimmed : cells.lookup "trim" = some (.flag trimmed) := by
      simpa [members, List.lookup_append, lookup_optionalMember, Cell.ofJson]
        using h "trim" (by simp [fields?, name])
    exact ⟨Cells.optionalText?_eq_some_iff.mpr (.inl hdefault),
      Cells.flagOrFalse?_eq_some_iff.mpr (.inl htrimmed)⟩
  | text default =>
    have hdefault : cells.lookup "default" = default.map .text := by
      simpa [members, lookup_optionalMember, Function.comp_def, Cell.ofJson]
        using h "default" (by simp [fields?, name])
    exact Cells.optionalText?_eq_some_iff.mpr (.inl hdefault)
  | boolean default =>
    have hdefault : cells.lookup "default" = some (.flag default) := by
      simpa [members, Cell.ofJson] using h "default" (by simp [fields?, name])
    exact Cells.flagOrFalse?_eq_some_iff.mpr (.inl hdefault)
  | integer default min max =>
    have hdefault : cells.lookup "default" = default.map fun n => .int n.toInt := by
      simpa [members, List.lookup_append, lookup_optionalMember, Function.comp_def, Cell.ofJson]
        using h "default" (by simp [fields?, name])
    have hmin : cells.lookup "min" = min.map fun n => .int n.toInt := by
      simpa [members, List.lookup_append, lookup_optionalMember, Function.comp_def, Cell.ofJson]
        using h "min" (by simp [fields?, name])
    have hmax : cells.lookup "max" = max.map fun n => .int n.toInt := by
      simpa [members, List.lookup_append, lookup_optionalMember, Function.comp_def, Cell.ofJson]
        using h "max" (by simp [fields?, name])
    exact ⟨Cells.optionalInt64?_eq_some_iff.mpr (.inl hdefault),
      Cells.optionalInt64?_eq_some_iff.mpr (.inl hmin),
      Cells.optionalInt64?_eq_some_iff.mpr (.inl hmax)⟩
  | choice choices =>
    have hchoices : cells.lookup "choices" = some (.texts choices) := by
      simpa [members, Cell.ofJson_ofStrs] using h "choices" (by simp [fields?, name])
    exact Cells.texts?_eq_some_iff.mpr hchoices
  | password default =>
    exact Cells.optionalText?_eq_some_iff.mpr (.inl (h "default" List.mem_cons_self))

/-- An object in which every key of a kind is looked up as in a written definition is read as that
definition, without the default of a password. -/
theorem ofJson?_of_lookup_eq {parameter : Parameter} {object : List (String × Json)}
    (h : ∀ key ∈ parameter.kind.keys, object.lookup key = parameter.members.lookup key) :
    ofJson? (.obj object) = some parameter.concealed := by
  have hcells (key : String) (hkey : key ∈ parameter.kind.keys) :
      (object.map fun member => (member.1, Cell.ofJson member.2)).lookup key
        = (parameter.members.lookup key).map Cell.ofJson := by
    rw [← h key hkey]
    exact lookup_map_snd Cell.ofJson key object
  have hcommon (key : String) (hkey : key ∈ Job.commonFields) : key ∈ parameter.kind.keys :=
    List.mem_append_left _ hkey
  rw [ofJson?, ofCells?_eq_some_iff]
  refine ⟨Cells.text?_eq_some_iff.mpr ?_, Cells.text?_eq_some_iff.mpr ?_,
    Cells.optionalText?_eq_some_iff.mpr (.inl ?_), Kind.readFrom_of_lookup_eq fun key hkey => ?_⟩
  · refine (hcells "type" (hcommon _ (by decide))).trans ?_
    cases hkind : parameter.kind <;> simp [members, concealed, hkind, Kind.concealed, Kind.name, Cell.ofJson]
  · refine (hcells "name" (hcommon _ (by decide))).trans ?_
    rw [lookup_members_name]
    rfl
  · refine (hcells "description" (hcommon _ (by decide))).trans ?_
    rw [lookup_members_description]
    simp [concealed, Cell.ofJson, Function.comp_def]
  · have hkeys := List.nodup_append.mp parameter.kind.nodup_keys
    refine (hcells key (List.mem_append_right _ hkey)).trans ?_
    rw [lookup_members_of_field fun hmem => hkeys.2.2 key hmem key hkey rfl]

theorem concealed_eq_self {parameter : Parameter} (h : ¬ parameter.kind.IsPassword) :
    parameter.concealed = parameter := by
  rcases parameter with ⟨name, description, kind⟩
  cases kind with
  | password default => exact absurd ⟨default, rfl⟩ h
  | _ => rfl

/-- **A definition is read back from JSON.** The object that is written is read as the definition, where
only the default of a password is missing, which nothing in the object depends on. Members under keys that
the kind does not define change nothing, in whatever order the members stand. -/
theorem ofJson?_toJson_and_of_perm_append (parameter : Parameter) :
    ofJson? parameter.toJson = some parameter.concealed
      ∧ (¬ parameter.kind.IsPassword → parameter.concealed = parameter)
      ∧ (∃ written, parameter.toJson = .obj written
        ∧ ∀ extra object : List (String × Json), (∀ member ∈ extra, member.1 ∉ parameter.kind.keys) →
          object.Perm (written ++ extra) → ofJson? (.obj object) = some parameter.concealed)
      ∧ ∀ name description (default other : Option Secret),
        ofJson? (toJson ⟨name, description, .password default⟩)
            = some ⟨name, description, .password none⟩
          ∧ toJson ⟨name, description, .password default⟩
            = toJson ⟨name, description, .password other⟩ := by
  rw [toJson_eq_obj_members]
  refine ⟨ofJson?_of_lookup_eq fun _ _ => rfl, concealed_eq_self, ⟨_, rfl, ?_⟩, ?_⟩
  · intro extra object hextra hperm
    refine ofJson?_of_lookup_eq fun key hkey => ?_
    exact lookup_eq_of_perm_append parameter.nodup_members
      (fun member hmember heq => hextra member hmember (heq ▸ hkey)) hperm
  · intro name description default other
    have hread : ofJson? (toJson ⟨name, description, .password default⟩)
        = some (concealed ⟨name, description, .password default⟩) :=
      ofJson?_of_lookup_eq fun _ _ => rfl
    exact ⟨hread, rfl⟩

/-- Keys of other kinds are unknown keys as well, and an unknown key may stand twice. -/
theorem ofJson?_offset_with_choices :
    ofJson? (.obj [("choices", .arr []), ("trim", .bool true), ("choices", .null), ("max", .int (-1)),
        ("min", .int (-9223372036854775808)), ("name", .str "OFFSET"), ("type", .str "integer")])
      = some ⟨"OFFSET", none, .integer none (some Int64.minValue) (some (-1))⟩
      ∧ ¬ (Kind.integer none (some Int64.minValue) (some (-1))).IsPassword
      ∧ concealed ⟨"OFFSET", none, .integer none (some Int64.minValue) (some (-1))⟩
        = ⟨"OFFSET", none, .integer none (some Int64.minValue) (some (-1))⟩ := by
  obtain ⟨_, hsame, ⟨written, hwritten, hextended⟩, _⟩ := ofJson?_toJson_and_of_perm_append
    ⟨"OFFSET", none, .integer none (some Int64.minValue) (some (-1))⟩
  cases hwritten
  have hkind : ¬ (Kind.integer none (some Int64.minValue) (some (-1))).IsPassword :=
    fun ⟨_, h⟩ => nomatch h
  have hperm := List.reverse_perm
    (members ⟨"OFFSET", none, .integer none (some Int64.minValue) (some (-1))⟩
      ++ [("choices", .null), ("trim", .bool true), ("choices", .arr [])])
  refine ⟨hextended _ _ ?_ hperm, hkind, hsame hkind⟩
  simp [Kind.keys, Job.commonFields, Kind.name, Kind.fields?]

end Parameter

end CiFront
