import CiFront.Cli.Switch
import CiFront.Proofs.Job.Resolution
import CiFront.Trigger.CommandLine
/-!
# A build can be replayed

The values of a build, exported and supplied again from code, resolve to the same values, wherever
the first build got them from. A line of an environment file in plain text is read on the command
line as the pair that it was written from, as long as the name holds no `=`.
-/

namespace CiFront

variable {σ τ : Type}

/-! ### Lines read back as pairs -/

theorem Cli.Switch.pair?_line {name : String} (value : String) (hne : name ≠ "")
    (hname : '=' ∉ name.toList) : Cli.Switch.pair? (name ++ "=" ++ value) = some (name, value) := by
  have hplain : ∀ c ∈ name.toList, decide (c ≠ '=') = true :=
    fun c hc => decide_eq_true fun heq => hname (heq ▸ hc)
  have htext : (name ++ "=" ++ value).toList = name.toList ++ '=' :: value.toList := by
    simp
  rw [Cli.Switch.pair?, htext, List.takeWhile_append_of_pos hplain,
    List.dropWhile_append_of_pos hplain]
  simp [hne]

namespace Parameter

theorem Value.line_true (value : Value) :
    value.line true = value.exported.1 ++ "=" ++ value.exported.2 := rfl

theorem name_ne_of_validate {parameter : Parameter} (h : parameter.validate = .ok ()) :
    parameter.name ≠ "" := by
  intro hempty
  rw [validate, hempty] at h
  cases h

/-! ### Values that parameters take back -/

/-- What a valid parameter gives is what it makes of the exported text. -/
theorem Gives.convert_exported {trigger : Trigger σ} {supplied : Supplied} {parameter : Parameter}
    {s t : σ} {value : Value} (hvalid : parameter.validate = .ok ())
    (h : parameter.Gives trigger supplied s (.ok value) t) :
    parameter.convert value.payload.exported = .ok value := by
  rcases h.of_ok with ⟨token, htoken⟩ | hdefault
  · exact Parameter.convert_exported htoken
  · exact convert_exported_of_default hvalid hdefault

end Parameter

namespace Job

variable {trigger : Trigger σ} {supplied : Supplied} {parameters : List Parameter}
  {values : List Parameter.Value} {s t : σ}

theorem Yields.forall₂_convert (hvalid : ∀ p ∈ parameters, p.validate = .ok ())
    (h : Yields trigger supplied parameters s values t) :
    List.Forall₂ (fun parameter value => parameter.convert value.payload.exported = .ok value)
      parameters values := by
  induction h with
  | nil => exact .nil
  | cons hfirst _ ih =>
    rw [List.forall_mem_cons] at hvalid
    exact .cons (hfirst.convert_exported hvalid.1) (ih hvalid.2)

/-- Where the exported text of every value counts, parameters that take it back give these values
without asking the trigger. -/
theorem yields_of_forall₂_convert
    (h : List.Forall₂ (fun parameter value => parameter.convert value.payload.exported = .ok value)
      parameters values)
    (hlast : ∀ value ∈ values, supplied.Last value.name value.payload.exported) :
    Yields trigger supplied parameters s values s := by
  induction h with
  | nil => exact .nil
  | @cons parameter value rest more hfirst _ ih =>
    rw [List.forall_mem_cons] at hlast
    have hname := (Parameter.convert_eq_ok.mp hfirst).1
    refine .cons ?_ (ih hlast.2)
    rw [← hfirst]
    exact .supplied (hname ▸ hlast.1)

/-- The exported pairs of values with different names are tokens that all count. -/
theorem last_exported (hnodup : (values.map (·.name)).Nodup) :
    ∀ value ∈ values,
      Supplied.Last (values.map Parameter.Value.exported) value.name value.payload.exported := by
  intro value hvalue
  apply Supplied.last_of_mem
  · rwa [List.map_map]
  · exact List.mem_map_of_mem (f := Parameter.Value.exported) hvalue

theorem resolve_exported (job : Job)
    (hyields : Yields trigger supplied job.parameters s values t) (u : τ) :
    (job.resolve Trigger.programmatic (values.map Parameter.Value.exported) u).result = .ok values := by
  have hnames : values.map (·.name) = job.names := hyields.map_name_eq
  refine (resolve_iff_resolves.mpr (.values (t := u) ⟨?_, ?_⟩ ?_)).1
  · intro name hname
    rwa [Supplied.names_iff_mem, List.map_map, ← hnames] at *
  · intro name hheld
    cases hheld
  · apply yields_of_forall₂_convert (hyields.forall₂_convert job.valid)
    apply last_exported
    rw [hnames]
    exact job.nodup

theorem map_pair?_line (hname : ∀ value ∈ values, value.name ≠ "" ∧ '=' ∉ value.name.toList) :
    values.map (fun value => Cli.Switch.pair? (value.line true))
      = (values.map Parameter.Value.exported).map some := by
  rw [List.map_map]
  apply List.map_congr_left
  intro value hvalue
  obtain ⟨hne, hplain⟩ := hname value hvalue
  rw [Parameter.Value.line_true]
  exact Cli.Switch.pair?_line _ hne hplain

/-- **A build can be replayed.** The exported values of a build, supplied again from code, resolve
to the values themselves, and so do the pairs that the command line reads from their lines in plain
text. -/
theorem resolve_replay (job : Job) (trigger : Trigger σ) (supplied : Supplied) (s : σ)
    (values : List Parameter.Value) (h : (job.resolve trigger supplied s).result = .ok values) (u : τ) :
    (job.resolve Trigger.programmatic (values.map Parameter.Value.exported) u).result = .ok values
      ∧ ((∀ name ∈ job.names, '=' ∉ name.toList) →
        ∃ pairs, values.map (fun value => Cli.Switch.pair? (value.line true)) = pairs.map some
          ∧ (job.resolve Trigger.programmatic pairs u).result = .ok values) := by
  have hyields := (resolve_iff_resolves.mp ⟨h, rfl⟩).of_ok.2
  have hreplayed := resolve_exported job hyields u
  refine ⟨hreplayed, fun hnames => ⟨_, map_pair?_line fun value hvalue => ?_, hreplayed⟩⟩
  have hname : value.name ∈ job.names := by
    rw [names, ← hyields.map_name_eq]
    exact List.mem_map_of_mem (f := (·.name)) hvalue
  obtain ⟨parameter, hparameter, heq⟩ := List.mem_map.mp hname
  exact ⟨heq ▸ Parameter.name_ne_of_validate (job.valid parameter hparameter), hnames _ hname⟩

/-- The values of a build of the job with a parameter of every kind. One is read from the standard input,
one is supplied, and the others are defaults. -/
def everyKindValues : List Parameter.Value :=
  [⟨"BRANCH", .string "main"⟩, ⟨"NOTES", .text "one=1\r\ntwo"⟩, ⟨"DEPLOY", .boolean true⟩,
    ⟨"OFFSET", .integer Int64.minValue⟩, ⟨"ENV", .choice "staging"⟩, ⟨"TOKEN", .password ⟨"a=b"⟩⟩]

theorem everyKind_replay :
    (everyKind.resolve (Trigger.commandLine (some "NOTES"))
          [("OFFSET", "1"), ("OFFSET", " -9223372036854775808")] ⟨.ok "one=1\r\ntwo\r\n", 0⟩).result
        = .ok everyKindValues
      ∧ (everyKind.resolve Trigger.programmatic (everyKindValues.map Parameter.Value.exported) ()).result
        = .ok everyKindValues
      ∧ ∃ pairs, everyKindValues.map (fun value => Cli.Switch.pair? (value.line true)) = pairs.map some
        ∧ (everyKind.resolve Trigger.programmatic pairs ()).result = .ok everyKindValues := by
  have hvalues : (everyKind.resolve (Trigger.commandLine (some "NOTES"))
      [("OFFSET", "1"), ("OFFSET", " -9223372036854775808")] ⟨.ok "one=1\r\ntwo\r\n", 0⟩).result
        = .ok everyKindValues := by
    decide
  obtain ⟨hsame, hlines⟩ := resolve_replay everyKind _ _ _ _ hvalues ()
  exact ⟨hvalues, hsame, hlines (by decide)⟩

end Job

end CiFront
