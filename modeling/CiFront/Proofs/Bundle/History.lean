import CiFront.Bundle
import CiFront.Proofs.Locale.Tag
import CiFront.Proofs.Properties.Entries
/-!
# What a bundle holds after any history

A history is a sequence of calls that write to a bundle. Said without the bundle, it leaves a list of
records, the earliest first, each of a template under a key in the table of a tag. Looking up a key for
a locale gives the last record of the key in the first of the locale's tables that has one.
-/

namespace CiFront.Bundle

/-! ### Histories -/

/-- A call that writes to a bundle, into the table of a locale or into the root table. -/
inductive Call where
  | insert (table : Option Locale) (key template : String)
  | load (table : Option Locale) (text : String)

/-- The bundle after a call. -/
def Call.apply (bundle : Bundle) : Call → Bundle
  | .insert table key template => bundle.insert table key template
  | .load table text => (bundle.load table text).2

/-- The bundle after the calls of a history, in order. -/
def run (bundle : Bundle) (history : List Call) : Bundle :=
  history.foldl Call.apply bundle

/-- What a history starts from. -/
inductive Start where
  | empty
  | builtin

/-- The bundle that a history starts from. -/
def Start.bundle : Start → Bundle
  | .empty => Bundle.empty
  | .builtin => Bundle.builtin

/-! ### Records -/

/-- A template under a key, in the table of a tag. -/
structure Record where
  tag : String
  key : String
  template : String

/-- The tag of a table: that of its locale, and the empty one for the root table. -/
def tableTag : Option Locale → String
  | some locale => locale.tag
  | none => ""

/-- The record of an entry of a properties text. -/
def Record.ofEntry (table : Option Locale) (entry : Properties.Entry) : Record :=
  ⟨tableTag table, String.ofList entry.key, String.ofList entry.value⟩

/-- The records that a call adds. Of a text they are its entries in order, or none if it is refused. -/
def Call.records : Call → List Record
  | .insert table key template => [⟨tableTag table, key, template⟩]
  | .load table text =>
    match Properties.parse text.toList with
    | .ok entries => entries.map (Record.ofEntry table)
    | .error _ => []

/-- The records of what a history starts from. -/
def Start.records : Start → List Record
  | .empty => []
  | .builtin => stock.flatMap fun (table, entries) =>
      entries.map fun (key, template) => ⟨tableTag table, key, template⟩

/-- The records of a whole history, the earliest first. -/
def recorded (start : Start) (history : List Call) : List Record :=
  start.records ++ history.flatMap Call.records

/-- Whether a key was ever written into the table of a tag. -/
def Holds (records : List Record) (tag key : String) : Prop :=
  ∃ template, ⟨tag, key, template⟩ ∈ records

/-- Whether a template is the one written last for a key into the table of a tag. -/
def Last (records : List Record) (tag key template : String) : Prop :=
  ∃ before after, records = before ++ ⟨tag, key, template⟩ :: after
    ∧ ∀ record ∈ after, ¬ (record.tag = tag ∧ record.key = key)

/-- The tags of the tables that serve a locale: its language and region, its language, the root. -/
def servingTags (locale : Locale) : List String :=
  match locale.region with
  | some region => [locale.language ++ "_" ++ region, locale.language, ""]
  | none => [locale.language, ""]

/-! ### The records of a bundle -/

/-- A write as a record. -/
def Write.record (write : Write) : Record :=
  ⟨tableTag write.table, write.key, write.template⟩

/-- The records of a bundle, the earliest first. -/
def records (bundle : Bundle) : List Record :=
  (bundle.writes.map Write.record).reverse

@[simp] theorem records_empty : empty.records = [] := rfl

@[simp] theorem records_insert (bundle : Bundle) (table : Option Locale) (key template : String) :
    (bundle.insert table key template).records
      = bundle.records ++ [⟨tableTag table, key, template⟩] := by
  simp [records, insert, Write.record]

/-- Inserting one after the other adds the records in order, whatever they are made of. -/
theorem records_foldl {α : Type} {step : Bundle → α → Bundle} (recordsOf : α → List Record)
    (hstep : ∀ bundle a, (step bundle a).records = bundle.records ++ recordsOf a) (list : List α)
    (bundle : Bundle) :
    (list.foldl step bundle).records = bundle.records ++ list.flatMap recordsOf := by
  induction list generalizing bundle with
  | nil => simp
  | cons a rest ih => rw [List.foldl_cons, ih, hstep, List.flatMap_cons, List.append_assoc]

theorem records_insertEntries (bundle : Bundle) (table : Option Locale)
    (entries : List Properties.Entry) :
    (bundle.insertEntries table entries).records
      = bundle.records ++ entries.map (Record.ofEntry table) := by
  rw [insertEntries, records_foldl (fun entry => [Record.ofEntry table entry])
    (fun bundle entry => records_insert bundle table _ _), ← List.map_eq_flatMap]

theorem records_apply (bundle : Bundle) (call : Call) :
    (call.apply bundle).records = bundle.records ++ call.records := by
  cases call with
  | insert table key template => exact records_insert bundle table key template
  | load table text =>
    rw [Call.apply, load, Call.records]
    cases Properties.parse text.toList with
    | error malformed => exact (List.append_nil _).symm
    | ok entries => exact records_insertEntries bundle table entries

theorem records_builtin : builtin.records = Start.builtin.records := by
  rw [builtin, records_foldl fun (table, entries) =>
    entries.map fun (key, template) => ⟨tableTag table, key, template⟩]
  · rw [records_empty, List.nil_append, Start.records]
  · rintro bundle ⟨table, entries⟩
    dsimp only
    rw [records_foldl (fun entry : String × String => [⟨tableTag table, entry.1, entry.2⟩])
      (fun bundle entry => records_insert bundle table entry.1 entry.2), ← List.map_eq_flatMap]

/-- The records of a bundle are those of its history. -/
theorem records_run (start : Start) (history : List Call) :
    (run start.bundle history).records = recorded start history := by
  rw [run, records_foldl Call.records records_apply, recorded]
  cases start with
  | empty => rfl
  | builtin => rw [← records_builtin]; rfl

/-! ### Looking up -/

theorem tableTag_injective {first second : Option Locale} (h : tableTag first = tableTag second) :
    first = second := by
  cases first with
  | none =>
    cases second with
    | none => rfl
    | some locale => exact absurd h.symm locale.tag_ne_empty
  | some locale =>
    cases second with
    | none => exact absurd h locale.tag_ne_empty
    | some other => rw [Locale.tag_injective h]

variable {bundle : Bundle} {table : Option Locale} {key template : String}

theorem isFor_iff {write : Write} :
    (write.table == table && write.key == key) = true
      ↔ write.record.tag = tableTag table ∧ write.record.key = key := by
  rw [Bool.and_eq_true, beq_iff_eq, beq_iff_eq, Write.record]
  exact and_congr_left' ⟨congrArg tableTag, tableTag_injective⟩

theorem inTable?_eq_some_iff :
    bundle.inTable? key table = some template ↔ Last bundle.records (tableTag table) key template := by
  rw [inTable?, Option.map_eq_some_iff]
  constructor
  · rintro ⟨write, hfind, rfl⟩
    obtain ⟨hfor, newer, older, hwrites, hnewer⟩ := List.find?_eq_some_iff_append.mp hfind
    obtain ⟨htag, hkey⟩ := isFor_iff.mp hfor
    refine ⟨(older.map Write.record).reverse, (newer.map Write.record).reverse, ?_, ?_⟩
    · rw [records, hwrites, ← htag, ← hkey]
      simp [Write.record]
    · intro record hrecord
      obtain ⟨other, hother, rfl⟩ := List.mem_map.mp (List.mem_reverse.mp hrecord)
      rw [← isFor_iff, Bool.not_eq_true, ← Bool.not_eq_true']
      exact hnewer other hother
  · rintro ⟨before, after, hrecords, hafter⟩
    have hwrites : bundle.writes.map Write.record
        = after.reverse ++ ⟨tableTag table, key, template⟩ :: before.reverse := by
      rw [← List.reverse_reverse (bundle.writes.map Write.record)]
      exact (congrArg List.reverse hrecords).trans (by simp)
    obtain ⟨newer, rest, hsplit, hnewer, hrest⟩ := List.map_eq_append_iff.mp hwrites
    obtain ⟨write, older, rfl, hwrite, _⟩ := List.map_eq_cons_iff.mp hrest
    refine ⟨write, List.find?_eq_some_iff_append.mpr ⟨?_, newer, older, hsplit, ?_⟩, ?_⟩
    · exact isFor_iff.mpr (by rw [hwrite]; exact ⟨rfl, rfl⟩)
    · intro other hother
      rw [Bool.not_eq_true', ← Bool.not_eq_true, isFor_iff]
      apply hafter
      rw [← List.mem_reverse, ← hnewer]
      exact List.mem_map_of_mem hother
    · exact congrArg Record.template hwrite

theorem inTable?_eq_none_iff :
    bundle.inTable? key table = none ↔ ¬ Holds bundle.records (tableTag table) key := by
  rw [inTable?, Option.map_eq_none_iff, List.find?_eq_none]
  simp only [isFor_iff, Holds, records, List.mem_reverse, List.mem_map, not_exists, not_and]
  constructor
  · rintro hnone template write hwrite heq
    exact hnone write hwrite (congrArg Record.tag heq) (congrArg Record.key heq)
  · rintro hnone write hwrite htag hkey
    exact hnone write.template write hwrite (by rw [← htag, ← hkey]; rfl)

/-- The tables that serve a locale are those of its candidates, and then the root table. -/
theorem candidates_append_root (locale : Locale) : locale.candidates ++ [""] = servingTags locale := by
  cases hregion : locale.region <;>
    simp [servingTags, Locale.candidates, Locale.chain, hregion, Locale.tag, Locale.withoutRegion,
      Locale.ofLanguage]

theorem servingTags_eq (locale : Locale) : servingTags locale = (tables locale).map tableTag := by
  rw [← candidates_append_root, Locale.candidates, tables, List.map_append, List.map_map]
  rfl

theorem lookup_eq_some_iff {locale : Locale} :
    bundle.lookup key locale = some template ↔
      ∃ before tag after, servingTags locale = before ++ tag :: after
        ∧ (∀ earlier ∈ before, ¬ Holds bundle.records earlier key)
        ∧ Last bundle.records tag key template := by
  rw [lookup, List.findSome?_eq_some_iff, servingTags_eq]
  constructor
  · rintro ⟨before, table, after, htables, hfound, hbefore⟩
    refine ⟨before.map tableTag, tableTag table, after.map tableTag, ?_, ?_, ?_⟩
    · rw [htables, List.map_append, List.map_cons]
    · intro earlier hearlier
      obtain ⟨other, hother, rfl⟩ := List.mem_map.mp hearlier
      exact inTable?_eq_none_iff.mp (hbefore other hother)
    · exact inTable?_eq_some_iff.mp hfound
  · rintro ⟨before, tag, after, htags, hbefore, hlast⟩
    obtain ⟨earlier, rest, htables, rfl, hrest⟩ := List.map_eq_append_iff.mp htags
    obtain ⟨table, later, rfl, rfl, rfl⟩ := List.map_eq_cons_iff.mp hrest
    refine ⟨earlier, table, later, htables, inTable?_eq_some_iff.mpr hlast, fun other hother => ?_⟩
    exact inTable?_eq_none_iff.mpr (hbefore _ (List.mem_map_of_mem hother))

theorem lookup_eq_none_iff {locale : Locale} :
    bundle.lookup key locale = none
      ↔ ∀ tag ∈ servingTags locale, ¬ Holds bundle.records tag key := by
  rw [lookup, List.findSome?_eq_none_iff, servingTags_eq]
  simp only [inTable?_eq_none_iff, List.forall_mem_map]

/-! ### Any history -/

/-- A text with a bad line is refused and leaves every bundle as it was, whichever line it is. -/
theorem load_of_mem {text : String} {line : Properties.LogicalLine} {malformed : Properties.Malformed}
    (hline : line ∈ Properties.logicalLines text.toList) (hentry : line.entry = .error malformed) :
    ∃ refused, ∀ (bundle : Bundle) (table : Option Locale),
      bundle.load table text = (.error refused, bundle) := by
  obtain ⟨refused, hrefused⟩ := Properties.parse_eq_error_of_mem hline hentry
  exact ⟨refused, fun bundle table => by rw [load, hrefused]⟩

theorem apply_load_of_mem {text : String} {line : Properties.LogicalLine}
    {malformed : Properties.Malformed} (hline : line ∈ Properties.logicalLines text.toList)
    (hentry : line.entry = .error malformed) : (Call.load table text).apply bundle = bundle := by
  obtain ⟨refused, hrefused⟩ := load_of_mem hline hentry
  rw [Call.apply, hrefused]

theorem run_append (bundle : Bundle) (before after : List Call) :
    run bundle (before ++ after) = run (run bundle before) after :=
  List.foldl_append

/-- **A bundle holds what was written last.** After any history, a key is looked up in the first table
of the locale into which it was ever written, and has the template written last there; where there is
no such table it has none. A text with a bad line counts for nothing. -/
theorem lookup_run_iff_last_in_first_table (start : Start) (history : List Call) (key : String)
    (locale : Locale) :
    (∀ template, (run start.bundle history).lookup key locale = some template ↔
        ∃ before tag after, servingTags locale = before ++ tag :: after
          ∧ (∀ earlier ∈ before, ¬ Holds (recorded start history) earlier key)
          ∧ Last (recorded start history) tag key template)
      ∧ ((run start.bundle history).lookup key locale = none
        ↔ ∀ tag ∈ servingTags locale, ¬ Holds (recorded start history) tag key)
      ∧ ∀ before table text after, history = before ++ .load table text :: after →
        (∃ line ∈ Properties.logicalLines text.toList, ∃ malformed, line.entry = .error malformed) →
        run start.bundle history = run start.bundle (before ++ after) := by
  rw [← records_run]
  refine ⟨fun template => lookup_eq_some_iff, lookup_eq_none_iff, ?_⟩
  rintro before table text after rfl ⟨line, hline, malformed, hentry⟩
  rw [run_append, run_append]
  exact congrArg (List.foldl Call.apply · after) (apply_load_of_mem hline hentry)

theorem isLanguageCode_german : IsLanguageCode "de".toList := ⟨by decide, by decide⟩

/-- German as it is written in Austria. -/
def austrian : Locale where
  language := "de"
  region := some "AT"
  language_isCode := isLanguageCode_german
  region_isCode := by rintro _ ⟨⟩; exact ⟨by decide, by decide⟩

/-- A history in which one text writes a key twice, another is refused for its second line, and the key
is written into the root table last. -/
def austrianHistory : List Call :=
  [.load (some austrian.withoutRegion) "k=a\nk=b\n", .load (some austrian) "k=c\nj=\\u00g0\n",
    .insert none "k" "d"]

theorem lookup_run_austrianHistory :
    (∃ before tag after, servingTags austrian = before ++ tag :: after
        ∧ (∀ earlier ∈ before, ¬ Holds (recorded .builtin austrianHistory) earlier "k")
        ∧ Last (recorded .builtin austrianHistory) tag "k" "b")
      ∧ run Start.builtin.bundle austrianHistory = run Start.builtin.bundle
        [.load (some austrian.withoutRegion) "k=a\nk=b\n", .insert none "k" "d"] := by
  have hrules := lookup_run_iff_last_in_first_table .builtin austrianHistory "k" austrian
  have hbad : ∃ line ∈ Properties.logicalLines "k=c\nj=\\u00g0\n".toList,
      ∃ malformed, line.entry = .error malformed :=
    ⟨⟨2, "j=\\u00g0".toList⟩, by decide, ⟨2, .badUnicodeEscape "00g0".toList⟩, by decide⟩
  exact ⟨(hrules.1 "b").mp (by decide), hrules.2.2 [_] _ _ [_] rfl hbad⟩

end CiFront.Bundle
