import CiFront.Proofs.Job.Construction
import CiFront.Proofs.Job.Rules
import CiFront.Proofs.Parameter.Document
import CiFront.Proofs.Text.Least
import CiFront.Proofs.Toml.Plain
/-!
# What job files hold

A job file holds its parameters in order: each item of its list is a table that holds the parameter, and
no key of a table is lost, since a key that its kind does not define is an error. It is the first such key
that is named, whatever else is wrong with the document. A table that opens with the reserved key is the
one exception: it may hold a parameter, and is not asked for its keys. All this holds however the document
is read into plain values.
-/

namespace CiFront.Job

open Toml

/-- The items that a document lists under `parameters`. One without that key lists none. -/
def Lists (document : Toml.Table) (items : List Toml.Value) : Prop :=
  document.lookup parametersKey = some (.list items)
    ∨ document.lookup parametersKey = none ∧ items = []

/-- A key of a table of a known kind that the kind does not define. -/
def IsForeign (table : Toml.Table) (key : String) : Prop :=
  key ∈ table.map Prod.fst ∧ ∃ kind fields, table.lookup "type" = some (.text kind)
    ∧ Parameter.Kind.fields? kind = some fields ∧ key ∉ ["type", "name", "description"] ++ fields

/-- An item is a table that a parameter stands in. Its keys are those of the parameter's kind, unless it
opens with the reserved key. -/
def Writes (item : Toml.Value) (parameter : Parameter) : Prop :=
  ∃ table fields, item = .table table ∧ parameter.HeldBy table
    ∧ Parameter.Kind.fields? parameter.kind.name = some fields
    ∧ (¬ OpensReserved table →
      ∀ key ∈ table.map Prod.fst, key ∈ ["type", "name", "description"] ++ fields)

/-! ### Keys of a table -/

section

variable {table : Toml.Table} {key : String}

theorem textAt?_eq_some_iff {s : String} :
    textAt? table key = some s ↔ table.lookup key = some (.text s) := by
  simp [textAt?, Option.bind_eq_some_iff, Toml.Value.text?_eq_some_iff]

theorem mem_foreignKeys_iff : key ∈ foreignKeys table ↔ IsForeign table key := by
  have hfields (fields : List String) :
      (textAt? table "type").bind Parameter.Kind.fields? = some fields
        ↔ ∃ kind, table.lookup "type" = some (.text kind)
          ∧ Parameter.Kind.fields? kind = some fields := by
    simp only [Option.bind_eq_some_iff, textAt?_eq_some_iff]
  rw [foreignKeys, IsForeign]
  split
  · rename_i fields hsome
    obtain ⟨kind, hkind, hknown⟩ := (hfields fields).mp hsome
    simp [hkind, hknown, commonFields]
  · rename_i hnone
    simp only [List.not_mem_nil, false_iff]
    rintro ⟨-, kind, fields, hkind, hknown, -⟩
    rw [(hfields fields).mpr ⟨kind, hkind, hknown⟩] at hnone
    cases hnone

theorem checkKeys_eq_ok_iff : checkKeys table = .ok () ↔ ∀ key, ¬ IsForeign table key := by
  simp only [← mem_foreignKeys_iff, ← List.eq_nil_iff_forall_not_mem, ← Text.least?_eq_none_iff]
  unfold checkKeys
  split <;> simp_all

theorem checkKeys_of_isForeign (h : IsForeign table key)
    (hleast : ∀ other, IsForeign table other → key ≤ other) :
    checkKeys table = .error (foreignKeyError table key) := by
  have hkey : Text.least? (foreignKeys table) = some key := by
    simp only [Text.least?_eq_some_iff, mem_foreignKeys_iff]
    exact ⟨h, hleast⟩
  rw [checkKeys, hkey]

end

/-- Checks the keys of an item that is a table, unless the table opens with the reserved key. -/
def checkItem (item : Toml.Value) : Except Parameter.Error Unit :=
  match item with
  | .table table => if OpensReserved table then .ok () else checkKeys table
  | _ => .ok ()

theorem checkItem_eq_ok_iff {item : Toml.Value} :
    checkItem item = .ok () ↔ ∀ table, item = .table table → ¬ OpensReserved table →
      ∀ key, ¬ IsForeign table key := by
  cases item with
  | table table =>
    by_cases hopens : OpensReserved table <;> simp [checkItem, hopens, checkKeys_eq_ok_iff]
  | _ => simp [checkItem]

theorem forM_eq_ok_iff {ε α : Type} {f : α → Except ε Unit} {list : List α} :
    list.forM f = .ok () ↔ ∀ a ∈ list, f a = .ok () := by
  induction list with
  | nil => simp [List.forM, pure, Except.pure]
  | cons a rest ih =>
    change (f a >>= fun _ => rest.forM f) = _ ↔ _
    cases hfirst : f a with
    | ok =>
      rw [List.forall_mem_cons, and_iff_right hfirst]
      exact ih
    | error e => simp [hfirst, bind, Except.bind]

/-! ### Keys of what is read -/

section

variable {plain? : Toml.Value → Option Toml.Value} (hreading : IsReading plain?)
include hreading

section

variable {table plain : Toml.Table}

theorem textAt?_readEntries? (h : readEntries? plain? table = some plain) (key : String) :
    textAt? plain key = textAt? table key := by
  have hlookup := Toml.map_some_lookup_readEntries? h key
  rw [textAt?, textAt?]
  cases hvalue : table.lookup key with
  | none =>
    rw [hvalue, Option.map_none, Option.map_eq_none_iff] at hlookup
    rw [hlookup]
  | some value =>
    rw [hvalue, Option.map_some, Option.map_eq_some_iff] at hlookup
    obtain ⟨plainValue, hplain, hform⟩ := hlookup
    rw [hplain, Option.bind_some, Option.bind_some, hreading.text?_eq hform.symm]

theorem checkKeys_readEntries? (h : readEntries? plain? table = some plain) :
    checkKeys plain = checkKeys table := by
  have hkeys : foreignKeys plain = foreignKeys table := by
    rw [foreignKeys, foreignKeys, textAt?_readEntries? hreading h, Toml.map_fst_readEntries? h]
  have herror (key : String) : foreignKeyError plain key = foreignKeyError table key := by
    rw [foreignKeyError, foreignKeyError, textAt?_readEntries? hreading h]
  simp only [checkKeys, hkeys, herror]

end

theorem checkItem_plain {item plain : Toml.Value} (h : plain? item = some plain) :
    checkItem item = (plain.table?.map checkKeys).getD (.ok ()) := by
  cases htable : plain.table? with
  | some plainTable =>
    obtain rfl : plain = .table plainTable := by
      cases plain <;> simp_all [Toml.Value.table?]
    obtain ⟨table, rfl, hopens, hentries⟩ := hreading.eq_some_table_iff.mp h
    simp [checkItem, hopens, checkKeys_readEntries? hreading hentries]
  | none =>
    refine checkItem_eq_ok_iff.mpr ?_
    rintro table rfl hopens
    rw [hreading.table hopens] at h
    obtain ⟨entries, -, rfl⟩ := Option.map_eq_some_iff.mp h
    cases htable

theorem forM_checkKeys_plainItems {items plainItems : List Toml.Value}
    (h : items.mapM plain? = some plainItems) :
    (plainItems.filterMap Toml.Value.table?).forM checkKeys = items.forM checkItem := by
  rw [mapM_eq_some_iff] at h
  induction h with
  | nil => rfl
  | @cons item plain items plainItems hplain _ ih =>
    change _ = checkItem item >>= fun _ => items.forM checkItem
    rw [checkItem_plain hreading hplain, ← ih, List.filterMap_cons]
    cases plain.table? with
    | none => rfl
    | some table => rfl

theorem forM_checkKeys_parameterTables {document plain : Toml.Table} {items : List Toml.Value}
    (hplain : readEntries? plain? document = some plain) (h : Lists document items) :
    (parameterTables plain).forM checkKeys = items.forM checkItem := by
  have hlookup := Toml.map_some_lookup_readEntries? hplain parametersKey
  rcases h with hlist | ⟨hnone, rfl⟩
  · rw [hlist, Option.map_some, Option.map_eq_some_iff] at hlookup
    obtain ⟨value, hvalue, hform⟩ := hlookup
    obtain ⟨plainItems, hitems, rfl⟩ := hreading.list_eq_some_iff.mp hform.symm
    rw [parameterTables, hvalue]
    exact forM_checkKeys_plainItems hreading hitems
  · rw [hnone, Option.map_none, Option.map_eq_none_iff] at hlookup
    rw [parameterTables, hlookup]
    rfl

end

/-! ### Reading the parameters -/

theorem parameterOfToml?_eq_some_iff {item : Toml.Value} {parameter : Parameter} :
    parameterOfToml? item = some parameter
      ↔ ∃ table, item = .table table ∧ parameter.HeldBy table := by
  simp only [parameterOfToml?, bind, Option.bind_eq_some_iff,
    Parameter.ofCells?_cellsOfToml_eq_some_iff]
  cases item <;> simp [Toml.Value.table?]

theorem parametersOfToml?_eq_some_iff {document : Toml.Table} {parameters : List Parameter} :
    parametersOfToml? document = some parameters
      ↔ (∀ key ∈ document.map Prod.fst, key = parametersKey)
        ∧ ∃ items, Lists document items ∧ List.Forall₂
          (fun item parameter => ∃ table, item = .table table ∧ parameter.HeldBy table)
          items parameters := by
  simp only [← parameterOfToml?_eq_some_iff, ← mapM_eq_some_iff]
  rw [parametersOfToml?]
  split
  · rename_i hkeys
    rw [and_iff_right (by simpa using hkeys)]
    cases hlookup : document.lookup parametersKey with
    | none => simp [Lists, hlookup, eq_comm]
    | some value => cases value <;> simp [Lists, hlookup, Toml.Value.list?]
  · rename_i hkeys
    have hkeys : ¬ ∀ key ∈ document.map Prod.fst, key = parametersKey := by simpa using hkeys
    simp only [hkeys, false_and, reduceCtorEq]

/-! ### The job of a document -/

theorem writes_iff {item : Toml.Value} {parameter : Parameter} :
    Writes item parameter
      ↔ checkItem item = .ok () ∧ ∃ table, item = .table table ∧ parameter.HeldBy table := by
  rw [checkItem_eq_ok_iff]
  constructor
  · rintro ⟨table, fields, rfl, hheld, hfields, hkeys⟩
    refine ⟨?_, table, rfl, hheld⟩
    rintro _ ⟨⟩ hopens key ⟨hmem, kind, kindFields, hkind, hknown, hforeign⟩
    rw [hheld.kind] at hkind
    cases hkind
    rw [hfields] at hknown
    cases hknown
    exact hforeign (hkeys hopens key hmem)
  · rintro ⟨hcheck, table, rfl, hheld⟩
    obtain ⟨fields, hfields⟩ :
        ∃ fields, Parameter.Kind.fields? parameter.kind.name = some fields := by
      cases parameter.kind <;> exact ⟨_, rfl⟩
    refine ⟨table, fields, rfl, hheld, hfields, ?_⟩
    intro hopens key hmem
    by_contra hforeign
    exact hcheck table rfl hopens key ⟨hmem, _, fields, hheld.kind, hfields, hforeign⟩

theorem forall₂_writes_iff {items : List Toml.Value} {parameters : List Parameter} :
    List.Forall₂ Writes items parameters ↔ (∀ item ∈ items, checkItem item = .ok ())
      ∧ List.Forall₂ (fun item parameter => ∃ table, item = .table table ∧ parameter.HeldBy table)
        items parameters := by
  rw [← List.forall₂_and_left]
  constructor
  · exact List.Forall₂.imp fun _ _ => writes_iff.mp
  · exact List.Forall₂.imp fun _ _ => writes_iff.mpr

section

variable {plain? : Toml.Value → Option Toml.Value}

/-- A document has a job if the keys of its tables are known and its parameters can be read. -/
theorem ofToml_eq_ok_iff_read {document : Toml.Table} {job : Job} :
    ofToml plain? document = .ok job ↔ ∃ plain, readEntries? plain? document = some plain
      ∧ (parameterTables plain).forM checkKeys = .ok ()
      ∧ parametersOfToml? document = some job.parameters := by
  rw [ofToml]
  cases hplain : readEntries? plain? document with
  | none => simp
  | some plain =>
    simp only [Option.some.injEq, exists_eq_left']
    cases hcheck : (parameterTables plain).forM checkKeys with
    | error e => simp [bind, Except.bind]
    | ok =>
      cases hread : parametersOfToml? document with
      | none => simp [bind, Except.bind]
      | some parameters =>
        change ofParameters parameters = .ok job ↔ _
        rw [ofParameters_eq_ok_iff]
        simp [eq_comm]

theorem ofToml_eq_ok_iff (hreading : IsReading plain?) {document : Toml.Table} {job : Job} :
    ofToml plain? document = .ok job ↔ (readEntries? plain? document).isSome
      ∧ (∀ key ∈ document.map Prod.fst, key = parametersKey)
      ∧ ∃ items, Lists document items ∧ List.Forall₂ Writes items job.parameters := by
  simp only [ofToml_eq_ok_iff_read, parametersOfToml?_eq_some_iff, Option.isSome_iff_exists,
    forall₂_writes_iff]
  constructor
  · rintro ⟨plain, hplain, hcheck, hkeys, items, hlists, hread⟩
    rw [forM_checkKeys_parameterTables hreading hplain hlists, forM_eq_ok_iff] at hcheck
    exact ⟨⟨plain, hplain⟩, hkeys, items, hlists, hcheck, hread⟩
  · rintro ⟨⟨plain, hplain⟩, hkeys, items, hlists, hcheck, hread⟩
    rw [← forM_eq_ok_iff, ← forM_checkKeys_parameterTables hreading hplain hlists] at hcheck
    exact ⟨plain, hplain, hcheck, hkeys, items, hlists, hread⟩

/-- The first key that is foreign to its table is the error of a document, whatever else is wrong with
it. -/
theorem ofToml_eq_error_of_isForeign (hreading : IsReading plain?) {document table : Toml.Table}
    {before after : List Toml.Value} {key : String} (hplain : (readEntries? plain? document).isSome)
    (hlists : Lists document (before ++ .table table :: after))
    (hopens : ¬ OpensReserved table) (hkey : IsForeign table key)
    (hleast : ∀ other, IsForeign table other → key ≤ other)
    (hbefore : ∀ item ∈ before, checkItem item = .ok ()) :
    ofToml plain? document = .error (foreignKeyError table key) := by
  obtain ⟨plain, hplain⟩ := Option.isSome_iff_exists.mp hplain
  have hitem : checkItem (.table table) = .error (foreignKeyError table key) := by
    simp [checkItem, hopens, checkKeys_of_isForeign hkey hleast]
  have hcheck : (parameterTables plain).forM checkKeys = .error (foreignKeyError table key) := by
    rw [forM_checkKeys_parameterTables hreading hplain hlists, List.forM_eq_forM, List.forM_append]
    rw [← List.forM_eq_forM, forM_eq_ok_iff.mpr hbefore]
    change (checkItem (.table table) >>= fun _ => _) = _
    rw [hitem]
    rfl
  rw [ofToml, hplain]
  simp only [hcheck]
  rfl

/-- **A job file loses no key.** However a document is read into plain values, it is a job file if it can
be read, it has no key but `parameters` and its items are tables that hold the parameters, in order, each
with no key but those of its kind. A key that is foreign to its table is the error, in the first table
that has one and the least there, whatever else is wrong with the document. Only a table that opens with
the reserved key is not asked for its keys. -/
theorem ofToml_eq_ok_iff_writes_and_eq_error_of_isForeign (hreading : IsReading plain?)
    (document : Toml.Table) :
    (∀ job, ofToml plain? document = .ok job ↔ (readEntries? plain? document).isSome
      ∧ (∀ key ∈ document.map Prod.fst, key = "parameters")
      ∧ ∃ items, Lists document items ∧ List.Forall₂ Writes items job.parameters)
    ∧ ∀ before table after key, (readEntries? plain? document).isSome →
      Lists document (before ++ .table table :: after) → ¬ OpensReserved table →
      IsForeign table key → (∀ other, IsForeign table other → key ≤ other) →
      (∀ earlier, .table earlier ∈ before → ¬ OpensReserved earlier →
        ∀ other, ¬ IsForeign earlier other) →
      ofToml plain? document = .error
        (.invalidDefinition ((textAt? table "name").getD "<unnamed>") (.unknownField key)) := by
  refine ⟨fun job => ofToml_eq_ok_iff hreading, ?_⟩
  intro before table after key hplain hlists hopens hkey hleast hbefore
  refine ofToml_eq_error_of_isForeign hreading hplain hlists hopens hkey hleast ?_
  intro item hitem
  refine checkItem_eq_ok_iff.mpr ?_
  rintro earlier rfl
  exact hbefore earlier hitem

end

/-- The items of a document whose job has a parameter of every kind. The first one opens with the reserved
key. -/
def everyKindItems : List Toml.Value :=
  [.table [("$__toml_private_datetime", .text "07:32:00"), ("name", .text "BRANCH"),
      ("type", .text "string"), ("trim", .flag true), ("default", .text " main "), ("defualt", .int 1)],
    .table [("type", .text "text"), ("name", .text "NOTES"), ("description", .text "Release notes")],
    .table [("name", .text "DEPLOY"), ("type", .text "boolean"), ("default", .flag true)],
    .table [("max", .int 5), ("name", .text "OFFSET"), ("type", .text "integer")],
    .table [("type", .text "choice"), ("name", .text "ENV"),
      ("choices", .list [.text "staging", .text "prod"])],
    .table [("type", .text "password"), ("name", .text "TOKEN"), ("default", .text "a=b")]]

theorem everyKind_ofToml :
    IsReading Toml.Value.plain?
      ∧ ofToml Toml.Value.plain? [("parameters", .list everyKindItems)] = .ok everyKind
      ∧ ofToml Toml.Value.plain? [("jobs", .int 1), ("parameters", .list (everyKindItems ++
          [.table [("trim", .flag true), ("min", .int 0), ("type", .text "boolean")], .int 2]))]
        = .error (.invalidDefinition "<unnamed>" (.unknownField "min")) := by
  have hwrites : List.Forall₂ Writes everyKindItems everyKind.parameters := by
    refine .cons ?string (.cons ?text (.cons ?boolean (.cons ?integer (.cons ?choice
      (.cons ?password .nil)))))
    case string =>
      exact ⟨_, _, rfl, ⟨rfl, rfl, rfl, rfl, .inl rfl⟩, rfl,
        fun hopens => absurd rfl hopens⟩
    case text => exact ⟨_, _, rfl, ⟨rfl, rfl, rfl, rfl⟩, rfl, fun _ => by decide⟩
    case boolean => exact ⟨_, _, rfl, ⟨rfl, rfl, rfl, .inl rfl⟩, rfl, fun _ => by decide⟩
    case integer => exact ⟨_, _, rfl, ⟨rfl, rfl, rfl, rfl, rfl, rfl⟩, rfl, fun _ => by decide⟩
    case choice => exact ⟨_, _, rfl, ⟨rfl, rfl, rfl, rfl⟩, rfl, fun _ => by decide⟩
    case password => exact ⟨_, _, rfl, ⟨rfl, rfl, rfl, rfl⟩, rfl, fun _ => by decide⟩
  have hclaim := ofToml_eq_ok_iff_writes_and_eq_error_of_isForeign isReading_plain?
  refine ⟨isReading_plain?, ?job, ?foreign⟩
  case job =>
    refine ((hclaim _).1 everyKind).mpr
      ⟨by decide +kernel, by decide, everyKindItems, .inl rfl, hwrites⟩
  case foreign =>
    have hkeys (key : String) :
        IsForeign [("trim", .flag true), ("min", .int 0), ("type", .text "boolean")] key
          ↔ key ∈ ["trim", "min"] := by
      rw [← mem_foreignKeys_iff]
      rfl
    refine (hclaim _).2 everyKindItems _ [.int 2] "min" ?_ (.inl rfl) (by decide)
      ((hkeys _).mpr (by decide)) ?_ ?_
    · decide +kernel
    · intro other hother
      have hleast : ∀ key ∈ ["trim", "min"], "min" ≤ key := by decide
      exact hleast other ((hkeys other).mp hother)
    · intro earlier hearlier
      exact checkItem_eq_ok_iff.mp ((forall₂_writes_iff.mp hwrites).1 _ hearlier) earlier rfl

end CiFront.Job
