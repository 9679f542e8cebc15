import CiFront.Cli.Execution
import CiFront.Proofs.Job.Resolution
import CiFront.Proofs.Parameter.Form
import Mathlib.Data.List.Nodup
/-!
# The lines of an environment file

Values are printed one after the other, each as its name, `=` and its text, followed by a line feed. The
texts are printed as they are. So a value takes one line, and a line assigns one value, unless a line feed
stands in the name or in the text itself, and then the line behind it reads like an assignment of its own.
-/

namespace CiFront

/-! ### Splitting a text -/

section

variable {α : Type} [BEq α] [LawfulBEq α] {sep : α}

theorem splitOn_flatMap_append_singleton (parts : List (List α)) :
    (parts.flatMap (· ++ [sep])).splitOn sep = parts.flatMap (·.splitOn sep) ++ [[]] := by
  induction parts with
  | nil => rfl
  | cons part rest ih =>
    rw [List.flatMap_cons, List.append_assoc, List.singleton_append, List.splitOn_append_cons_self, ih,
      List.flatMap_cons, List.append_assoc]

theorem not_mem_of_mem_splitOn {list part : List α} (h : part ∈ list.splitOn sep) : sep ∉ part := by
  induction list generalizing part with
  | nil =>
    rw [List.splitOn_nil, List.mem_singleton] at h
    rw [h]
    exact List.not_mem_nil
  | cons a list ih =>
    rw [List.splitOn_cons_eq_if_modifyHead] at h
    split at h
    · rcases List.mem_cons.mp h with rfl | h
      · exact List.not_mem_nil
      · exact ih h
    · rename_i hne
      cases hparts : list.splitOn sep with
      | nil => exact absurd hparts (List.splitOn_ne_nil sep list)
      | cons first parts =>
        rw [hparts] at ih h
        rcases List.mem_cons.mp h with rfl | h
        · have ha : sep ≠ a := fun heq => hne (beq_iff_eq.mpr heq.symm)
          exact List.not_mem_cons_of_ne_of_not_mem ha (ih List.mem_cons_self)
        · exact ih (List.mem_cons_of_mem _ h)

/-- Parts stay whole when they are split exactly if the separator is in none of them. -/
theorem flatMap_splitOn_eq_self_iff {parts : List (List α)} :
    parts.flatMap (·.splitOn sep) = parts ↔ ∀ part ∈ parts, sep ∉ part := by
  constructor
  · intro h part hpart
    rw [← h] at hpart
    obtain ⟨_, _, hpart⟩ := List.mem_flatMap.mp hpart
    exact not_mem_of_mem_splitOn hpart
  · intro h
    rw [List.flatMap_congr fun part hpart => List.splitOn_eq_singleton (h part hpart),
      List.flatMap_singleton']

end

namespace Parameter

/-! ### The text of an assignment -/

/-- What is printed of a payload: the exported text if secrets are revealed, else the text that is
shown. -/
def Payload.printed (reveal : Bool) (payload : Payload) : String :=
  if reveal then payload.exported else payload.shown

/-- The name of a value, `=` and what is printed of its payload. -/
def Value.assignment (reveal : Bool) (value : Value) : List Char :=
  value.name.toList ++ '=' :: (value.payload.printed reveal).toList

theorem Value.toList_line (reveal : Bool) (value : Value) :
    (value.line reveal).toList = value.assignment reveal := by
  rcases value with ⟨name, payload⟩
  cases reveal <;> cases payload <;>
    simp [line, assignment, shown, Payload.printed, Payload.shown, Payload.isSensitive]

/-- The kinds whose values are printed without a line feed, whatever their tokens are: flags, integers,
choices among single lines, and passwords that are masked. -/
def Kind.KeepsToLine (reveal : Bool) : Kind → Prop
  | .string .. => False
  | .text .. => False
  | .boolean .. => True
  | .integer .. => True
  | .choice choices => ∀ choice ∈ choices, '\n' ∉ choice.toList
  | .password .. => reveal = false

theorem lineFeed_not_mem_text (n : Int) : '\n' ∉ (Decimal.text n).toList := by
  rw [Decimal.text, String.toList_ofList]
  intro hmem
  exact Decimal.forall_mem_signedDigits (P := (· ≠ '\n')) (by decide) (by decide) n _ hmem rfl

theorem Kind.mem_choices {choices : List String} {payload : Payload}
    (h : (∃ token, (Kind.choice choices).payload token = .ok payload)
      ∨ (Kind.choice choices).default? = some payload) :
    ∃ choice ∈ choices, payload = .choice choice := by
  rcases h with ⟨token, htoken⟩ | hdefault
  · rw [Kind.payload] at htoken
    split at htoken
    · rename_i hmem
      cases htoken
      exact ⟨token, hmem, rfl⟩
    · cases htoken
  · obtain ⟨first, hfirst, rfl⟩ := Option.map_eq_some_iff.mp hdefault
    exact ⟨first, List.mem_of_head? hfirst, rfl⟩

theorem Kind.lineFeed_not_mem_printed {kind : Kind} {reveal : Bool} {payload : Payload}
    (hkind : kind.KeepsToLine reveal)
    (h : (∃ token, kind.payload token = .ok payload) ∨ kind.default? = some payload) :
    '\n' ∉ (payload.printed reveal).toList := by
  have hname : payload.kindName = kind.name :=
    h.elim (fun ⟨_, htoken⟩ => Kind.kindName_of_payload htoken) Kind.kindName_of_default
  cases kind with
  | string default trimmed => exact hkind.elim
  | text default => exact hkind.elim
  | boolean default =>
    cases payload with
    | boolean flag => cases reveal <;> cases flag <;> decide
    | _ => exact absurd hname (by simp [Payload.kindName, Kind.name])
  | integer default min max =>
    cases payload with
    | integer n => cases reveal <;> exact lineFeed_not_mem_text n.toInt
    | _ => exact absurd hname (by simp [Payload.kindName, Kind.name])
  | choice choices =>
    obtain ⟨choice, hmem, rfl⟩ := Kind.mem_choices h
    cases reveal <;> exact hkind choice hmem
  | password default =>
    cases payload with
    | password secret =>
      rw [show reveal = false from hkind]
      have hmask : '\n' ∉ Secret.mask.toList := by decide
      exact hmask
    | _ => exact absurd hname (by simp [Payload.kindName, Kind.name])

end Parameter

namespace Cli

open Parameter

variable {reveal : Bool} {values : List Value}

/-- Values that are printed on a line each: splitting at the line feeds gives their assignments, in order,
and nothing after the last line feed. -/
def OneLineEach (reveal : Bool) (values : List Value) : Prop :=
  (valuesText .env reveal values).toList.splitOn '\n'
    = values.map (Value.assignment reveal) ++ [[]]

instance (reveal : Bool) (values : List Value) : Decidable (OneLineEach reveal values) :=
  inferInstanceAs (Decidable (_ = _))

theorem toList_valuesText_env (reveal : Bool) (values : List Value) :
    (valuesText .env reveal values).toList
      = (values.map (Value.assignment reveal)).flatMap (· ++ ['\n']) := by
  rw [valuesText, String.toList_join, List.flatMap_map, List.flatMap_map]
  refine List.flatMap_congr fun value _ => ?_
  rw [String.toList_append, Value.toList_line]
  rfl

theorem splitOn_valuesText_env (reveal : Bool) (values : List Value) :
    (valuesText .env reveal values).toList.splitOn '\n'
      = values.flatMap (fun value => (value.assignment reveal).splitOn '\n') ++ [[]] := by
  rw [toList_valuesText_env, splitOn_flatMap_append_singleton, List.flatMap_map]

theorem lineFeed_not_mem_assignment_iff {value : Value} :
    '\n' ∉ value.assignment reveal
      ↔ '\n' ∉ value.name.toList ∧ '\n' ∉ (value.payload.printed reveal).toList := by
  simp [Value.assignment]

theorem oneLineEach_iff :
    OneLineEach reveal values ↔ ∀ value ∈ values,
      '\n' ∉ value.name.toList ∧ '\n' ∉ (value.payload.printed reveal).toList := by
  rw [OneLineEach, splitOn_valuesText_env, List.append_left_inj,
    ← List.flatMap_map (Value.assignment reveal) (List.splitOn '\n'), flatMap_splitOn_eq_self_iff,
    List.forall_mem_map]
  simp only [lineFeed_not_mem_assignment_iff]

/-- A line that begins like the assignment of a name without `=` is an assignment of that name. -/
theorem name_eq_of_prefix_assignment {value other : Value} (hvalue : '=' ∉ value.name.toList)
    (hother : '=' ∉ other.name.toList)
    (h : value.name.toList ++ ['='] <+: other.assignment reveal) : other.name = value.name := by
  obtain ⟨rest, hrest⟩ := h
  have hplain {name : String} (hname : '=' ∉ name.toList) (rest : List Char) :
      (name.toList ++ '=' :: rest).takeWhile (· != '=') = name.toList := by
    have hpos : ∀ c ∈ name.toList, (c != '=') = true :=
      fun c hc => bne_iff_ne.mpr fun heq => hname (heq ▸ hc)
    rw [List.takeWhile_append_of_pos hpos]
    simp
  have hnames := congrArg (List.takeWhile (· != '=')) hrest
  rw [List.append_assoc, List.singleton_append, hplain hvalue, Value.assignment, hplain hother] at hnames
  exact (String.toList_injective hnames).symm

end Cli

/-! ### Builds -/

namespace Job

variable {σ : Type} {trigger : Trigger σ} {supplied : Supplied} {parameters : List Parameter}
  {values : List Parameter.Value} {s t : σ}

theorem Yields.exists_of_mem (h : Yields trigger supplied parameters s values t)
    {value : Parameter.Value} (hvalue : value ∈ values) :
    ∃ parameter ∈ parameters, (∃ token, parameter.convert token = .ok value)
      ∨ parameter.default? = some value := by
  induction h with
  | nil => cases hvalue
  | cons hfirst _ ih =>
    rcases List.mem_cons.mp hvalue with rfl | hvalue
    · exact ⟨_, List.mem_cons_self, hfirst.of_ok⟩
    · obtain ⟨parameter, hparameter, hgives⟩ := ih hvalue
      exact ⟨parameter, List.mem_cons_of_mem _ hparameter, hgives⟩

/-- **Values are printed as assignments, and only line feeds of their own make more lines.** What is
printed, split at the line feeds, is what the assignments are split into, in order. Each value takes one
line exactly if no name and no printed text holds a line feed. A flag, an integer, a choice among single
lines and a masked password never hold one. Where each value takes one line and no name holds `=`, a line
that begins like the assignment of a value is its own. -/
theorem splitOn_valuesText_env_and_oneLineEach_iff (job : Job) (trigger : Trigger σ)
    (supplied : Supplied) (s : σ) (values : List Parameter.Value)
    (h : (job.resolve trigger supplied s).result = .ok values) (reveal : Bool) :
    (Cli.valuesText .env reveal values).toList.splitOn '\n'
        = values.flatMap (fun value => (value.assignment reveal).splitOn '\n') ++ [[]]
      ∧ (Cli.OneLineEach reveal values ↔ (∀ name ∈ job.names, '\n' ∉ name.toList)
        ∧ ∀ value ∈ values, '\n' ∉ (value.payload.printed reveal).toList)
      ∧ (∀ parameter ∈ job.parameters, parameter.kind.KeepsToLine reveal →
        ∀ value ∈ values, value.name = parameter.name →
          '\n' ∉ (value.payload.printed reveal).toList)
      ∧ (Cli.OneLineEach reveal values → (∀ name ∈ job.names, '=' ∉ name.toList) →
        ∀ line ∈ (Cli.valuesText .env reveal values).toList.splitOn '\n', ∀ value ∈ values,
          value.name.toList ++ ['='] <+: line → line = value.assignment reveal) := by
  have hyields := (resolve_iff_resolves.mp ⟨h, rfl⟩).of_ok.2
  have hnames : values.map (·.name) = job.names := hyields.map_name_eq
  refine ⟨Cli.splitOn_valuesText_env reveal values, ?_, ?_, ?_⟩
  · rw [Cli.oneLineEach_iff, ← hnames, List.forall_mem_map, ← forall₂_and]
  · intro parameter hparameter hkind value hvalue hname
    obtain ⟨other, hother, hgives⟩ := hyields.exists_of_mem hvalue
    have hotherName := (Parameter.name_eq_and_kindName_eq hgives).1
    have heq : other = parameter :=
      List.inj_on_of_nodup_map job.nodup hother hparameter (hotherName.symm.trans hname)
    rw [← heq] at hkind
    refine Parameter.Kind.lineFeed_not_mem_printed hkind (hgives.imp ?_ ?_)
    · exact fun ⟨token, htoken⟩ => ⟨token, (Parameter.convert_eq_ok.mp htoken).2⟩
    · exact fun hdefault => (Parameter.default?_eq_some.mp hdefault).2
  · intro heach hplain line hline value hvalue hprefix
    rw [← hnames, List.forall_mem_map] at hplain
    rw [show _ = _ from heach, List.mem_append, List.mem_map, List.mem_singleton] at hline
    rcases hline with ⟨other, hother, rfl⟩ | rfl
    · have hname := Cli.name_eq_of_prefix_assignment (hplain value hvalue) (hplain other hother) hprefix
      have hnodup : (values.map (·.name)).Nodup := hnames ▸ job.nodup
      rw [List.inj_on_of_nodup_map hnodup hother hvalue hname]
    · exact absurd (List.prefix_nil.mp hprefix) (by simp)

/-- The values of a job in which a text holds `=` and a carriage return but no line feed. -/
def oneLineValues : List Parameter.Value :=
  [⟨"BRANCH", .string "main"⟩, ⟨"NOTES", .text "ENV=prod\r"⟩, ⟨"DEPLOY", .boolean true⟩,
    ⟨"OFFSET", .integer (-7)⟩, ⟨"ENV", .choice "staging"⟩, ⟨"TOKEN", .password ⟨"a=b"⟩⟩]

theorem everyKind_oneLineEach :
    (everyKind.resolve Trigger.programmatic [("NOTES", "ENV=prod\r"), ("OFFSET", "-7")] ()).result
        = .ok oneLineValues
      ∧ Cli.OneLineEach true oneLineValues
      ∧ '\n' ∉ ((Parameter.Payload.integer (-7)).printed true).toList
      ∧ ∀ line ∈ (Cli.valuesText .env true oneLineValues).toList.splitOn '\n',
        "ENV=".toList <+: line → line = "ENV=staging".toList := by
  have hvalues : (everyKind.resolve Trigger.programmatic [("NOTES", "ENV=prod\r"), ("OFFSET", "-7")]
      ()).result = .ok oneLineValues := by
    decide
  obtain ⟨_, hiff, hkinds, hlines⟩ :=
    splitOn_valuesText_env_and_oneLineEach_iff everyKind _ _ () _ hvalues true
  have heach : Cli.OneLineEach true oneLineValues := hiff.mpr ⟨by decide, by decide +kernel⟩
  refine ⟨hvalues, heach, ?_, fun line hline hprefix => ?_⟩
  · exact hkinds ⟨"OFFSET", none, .integer none none (some 5)⟩ (by decide) trivial
      ⟨"OFFSET", .integer (-7)⟩ (by decide) rfl
  · exact hlines heach (by decide) line hline ⟨"ENV", .choice "staging"⟩ (by decide) hprefix

/-- A text of two lines makes a line that assigns another parameter. -/
theorem everyKind_forgedAssignment :
    ∃ values, (everyKind.resolve Trigger.programmatic [("NOTES", "one\nTOKEN=two"), ("OFFSET", "1")]
          ()).result = .ok values
      ∧ values.length = 6
      ∧ ∀ reveal, ¬ Cli.OneLineEach reveal values
        ∧ "TOKEN=two".toList ∈ (Cli.valuesText .env reveal values).toList.splitOn '\n'
        ∧ ∀ value ∈ values, value.assignment reveal ≠ "TOKEN=two".toList := by
  refine ⟨[⟨"BRANCH", .string "main"⟩, ⟨"NOTES", .text "one\nTOKEN=two"⟩, ⟨"DEPLOY", .boolean true⟩,
    ⟨"OFFSET", .integer 1⟩, ⟨"ENV", .choice "staging"⟩, ⟨"TOKEN", .password ⟨"a=b"⟩⟩], by decide, rfl, ?_⟩
  decide +kernel

end Job

end CiFront
