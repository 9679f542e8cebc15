import CiFront.Cli.Execution
import CiFront.Proofs.Config.Sequence
/-!
# The last layer counts

A configuration is loaded as a run of at most two steps over the defaults, a file and the environment, and
is loaded only if neither step fails. So the environment counts over the file and the file over the
defaults, field by field.
-/

namespace CiFront

/-! ### Work that succeeds -/

namespace Cli.Work

variable {α β ε : Type} {log : List Log.Event}

theorem pure_eq_ok_iff {a b : α} : ((pure a : Work α).run.run log).1 = .ok b ↔ a = b := by
  change Except.ok a = Except.ok b ↔ a = b
  rw [Except.ok.injEq]

theorem bind_eq_ok_iff {work : Work α} {next : α → Work β} {b : β} :
    ((work >>= next).run.run log).1 = .ok b
      ↔ ∃ a, (work.run.run log).1 = .ok a
        ∧ ((next a).run.run (work.run.run log).2).1 = .ok b := by
  rw [ExceptT.run_bind, StateT.run_bind]
  obtain ⟨_ | a, logged⟩ := work.run.run log
  · constructor
    · intro hok
      cases hok
    · intro h
      obtain ⟨a, hok, _⟩ := h
      cases hok
  · constructor
    · intro hok
      exact ⟨a, rfl, hok⟩
    · intro h
      obtain ⟨a, ha, hok⟩ := h
      cases ha
      exact hok

theorem ofExcept_eq_ok_iff {failure : ε → Failure} {result : Except ε α} {a : α} :
    ((Work.ofExcept failure result).run.run log).1 = .ok a ↔ result = .ok a := by
  cases result with
  | ok other =>
    rw [Work.ofExcept, pure_eq_ok_iff, Except.ok.injEq]
  | error error =>
    constructor
    · intro hok
      cases hok
    · intro hok
      cases hok

theorem log_eq_ok {events : List Log.Event} :
    ((Work.log events).run.run log).1 = .ok () :=
  rfl

end Cli.Work

namespace Config

/-! ### Loading -/

section

open Cli

variable {parse? : String → Option Toml.Table} {α : Type} {log : List Log.Event}

theorem mergeFile_eq_ok_iff {surroundings : Surroundings} {config next : Config} {path : String} :
    ((mergeFile parse? surroundings config path).run.run log).1 = .ok next
      ↔ ∃ text, surroundings.files path = .ok text
        ∧ (Step.document text).apply parse? config = (.ok (), next) := by
  simp only [mergeFile, Work.bind_eq_ok_iff, Work.ofExcept_eq_ok_iff, Work.pure_eq_ok_iff,
    Work.log_eq_ok, Step.apply, Prod.ext_iff, true_and, Unique.exists_iff]

variable {surroundings : Surroundings} {named : Option String} {config : Config}

theorem loadConfig_eq_ok_iff_of_none (hfile : configFile? surroundings named = none) :
    ((loadConfig parse? surroundings named).run.run log).1 = .ok config
      ↔ (Step.environment surroundings.environment).apply parse? .default = (.ok (), config) := by
  simp only [loadConfig, hfile, Work.bind_eq_ok_iff, Work.ofExcept_eq_ok_iff, Work.pure_eq_ok_iff,
    Work.log_eq_ok, Step.apply, Prod.ext_iff, exists_eq_left', true_and, Unique.exists_iff]

theorem loadConfig_eq_ok_iff_of_some {path : String}
    (hfile : configFile? surroundings named = some path) :
    ((loadConfig parse? surroundings named).run.run log).1 = .ok config
      ↔ ∃ base, (∃ text, surroundings.files path = .ok text
          ∧ (Step.document text).apply parse? .default = (.ok (), base))
        ∧ (Step.environment surroundings.environment).apply parse? base = (.ok (), config) := by
  simp only [loadConfig, hfile, Work.bind_eq_ok_iff, Work.ofExcept_eq_ok_iff, Work.pure_eq_ok_iff,
    Work.log_eq_ok, mergeFile_eq_ok_iff, Step.apply, Prod.ext_iff, true_and, Unique.exists_iff]

/-- The text of the file that a configuration is loaded from. -/
def ReadsFile (surroundings : Surroundings) (named : Option String) (text : String) : Prop :=
  ∃ path, configFile? surroundings named = some path ∧ surroundings.files path = .ok text

/-- A configuration can be loaded if its file, where there is one, can be read, and neither the file nor
the environment fails. -/
structure Loads (parse? : String → Option Toml.Table) (surroundings : Surroundings)
    (named : Option String) : Prop where
  file : ∀ path, configFile? surroundings named = some path →
    ∃ text, surroundings.files path = .ok text ∧ ∀ error, ¬ (Step.document text).Fails parse? error
  environment : ∀ error, ¬ (Step.environment surroundings.environment).Fails parse? error

/-- The value of the environment, else that of the file, else the initial one. -/
def Loaded (Sets : Step → α → Prop) (initial : α) (surroundings : Surroundings)
    (named : Option String) : α → Prop :=
  Over (Sets (.environment surroundings.environment))
    (Over (fun value => ∃ text, ReadsFile surroundings named text ∧ Sets (.document text) value)
      (· = initial))

/-- The steps of the file that a configuration is loaded from. -/
def fileSteps (surroundings : Surroundings) (named : Option String) : List Step :=
  match configFile? surroundings named with
  | none => []
  | some path =>
    match surroundings.files path with
    | .ok text => [.document text]
    | .error _ => []

theorem loaded_eq_settled {Sets : Step → α → Prop} {initial : α} :
    Loaded Sets initial surroundings named
      = Settled Sets initial
        (fileSteps surroundings named ++ [.environment surroundings.environment]) := by
  rw [settled_append_singleton, Loaded, fileSteps]
  congr 1
  funext value
  cases hfile : configFile? surroundings named with
  | none => simp [Over, ReadsFile, hfile, settled_nil]
  | some path =>
    cases htext : surroundings.files path with
    | error failure => simp [Over, ReadsFile, hfile, htext, settled_nil]
    | ok text =>
      simp [Over, ReadsFile, hfile, htext, settled_singleton]

theorem loads_iff_of_none (hfile : configFile? surroundings named = none) :
    Loads parse? surroundings named
      ↔ ∀ error, ¬ (Step.environment surroundings.environment).Fails parse? error := by
  constructor
  · intro h
    exact h.environment
  · intro henvironment
    exact ⟨by simp [hfile], henvironment⟩

theorem loads_iff_of_some {path : String} (hfile : configFile? surroundings named = some path) :
    Loads parse? surroundings named
      ↔ (∃ text, surroundings.files path = .ok text
          ∧ ∀ error, ¬ (Step.document text).Fails parse? error)
        ∧ ∀ error, ¬ (Step.environment surroundings.environment).Fails parse? error := by
  constructor
  · intro h
    exact ⟨h.file path hfile, h.environment⟩
  · intro h
    obtain ⟨hdocument, henvironment⟩ := h
    refine ⟨?_, henvironment⟩
    intro other hother
    obtain rfl : path = other := Option.some.inj (hfile.symm.trans hother)
    exact hdocument

theorem loadConfig_eq_ok_iff_run :
    ((loadConfig parse? surroundings named).run.run log).1 = .ok config
      ↔ Loads parse? surroundings named
        ∧ run parse? .default
            (fileSteps surroundings named ++ [.environment surroundings.environment]) = config := by
  rw [run_append_singleton, fileSteps]
  cases hfile : configFile? surroundings named with
  | none =>
    rw [loadConfig_eq_ok_iff_of_none hfile, loads_iff_of_none hfile, Step.apply_eq_ok_iff]
    exact Iff.rfl
  | some path =>
    rw [loadConfig_eq_ok_iff_of_some hfile, loads_iff_of_some hfile]
    cases htext : surroundings.files path with
    | error failure => simp
    | ok text =>
      simp only [htext, Except.ok.injEq, exists_eq_left', Step.apply_eq_ok_iff, and_assoc,
        exists_and_left]
      exact Iff.rfl

end

/-- **The last layer counts.** After any steps each field has what the last step to set it set, or its
default. A step that cannot be read changes nothing, a step reports exactly the reasons it has to fail,
and one that fails keeps the locale. A configuration that is loaded has the environment over the file
over the defaults. This holds however the text of a document is read into a table. -/
theorem run_default_iff_settled_and_apply_and_loadConfig (parse? : String → Option Toml.Table) :
    (∀ (steps : List Step) (config : Config), run parse? .default steps = config
      ↔ Settled (Step.Names parse? .contextPath) "" steps config.contextPath
        ∧ Settled (Step.Names parse? .resourceRoot) Release.resourceRoot steps config.resourceRoot
        ∧ Settled (Step.NamesLocale parse?) .root steps config.locale)
    ∧ (∀ (step : Step) (config : Config),
      (¬ step.IsRead parse? → (step.apply parse? config).2 = config)
      ∧ ∀ error, ((step.apply parse? config).1 = .error error ↔ step.Fails parse? error)
        ∧ (step.Fails parse? error → (step.apply parse? config).2.locale = config.locale))
    ∧ ∀ (surroundings : Cli.Surroundings) (named : Option String) (log : List Log.Event)
        (config : Config),
      ((Cli.loadConfig parse? surroundings named).run.run log).1 = .ok config
        ↔ Loads parse? surroundings named
          ∧ Loaded (Step.Names parse? .contextPath) "" surroundings named config.contextPath
          ∧ Loaded (Step.Names parse? .resourceRoot) Release.resourceRoot surroundings named
            config.resourceRoot
          ∧ Loaded (Step.NamesLocale parse?) .root surroundings named config.locale := by
  refine ⟨?_, ?_, ?_⟩
  · intro steps config
    exact run_eq_iff
  · intro step config
    refine ⟨Step.apply_eq_of_not_isRead, ?_⟩
    intro error
    exact ⟨Step.apply_eq_error_iff, Step.apply_locale_of_fails⟩
  · intro surroundings named log config
    rw [loadConfig_eq_ok_iff_run, run_eq_iff]
    simp only [loaded_eq_settled]
    exact Iff.rfl

/-- The text of a document whose locale is none. -/
def halfRight : String :=
  "context_path = \"/app\"\nlocale = \"somewhere\"\n"

/-- The text of a document with an unknown key. -/
def unknownKey : String :=
  "contextpath = \"/other\"\n"

/-- An environment that names a locale and nothing else. -/
def frenchEnvironment (name : String) : Option String :=
  if name = "CIX_LOCALE" then some "fr" else none

theorem isLanguageCode_french : IsLanguageCode "fr".toList := ⟨by decide, by decide⟩

/-- A configuration with a context path and a locale of its own. -/
def french : Config where
  contextPath := "/app"
  resourceRoot := Release.resourceRoot
  locale := .ofLanguage "fr" isLanguageCode_french

/-- The usual file names a context path and a locale, and the environment names another locale. -/
def frenchSurroundings : Cli.Surroundings where
  files path :=
    if path = "cix.toml" then .ok "context_path = \"/app\"\nlocale = \"de_AT\"\n" else .error .notFound
  environment := frenchEnvironment
  input := ⟨.ok "", 0⟩

theorem run_halfRight_and_loadConfig_french :
    (Settled (Step.Names Toml.parse? .contextPath) ""
        [.document halfRight, .document unknownKey, .environment frenchEnvironment] "/app"
      ∧ Settled (Step.Names Toml.parse? .resourceRoot) Release.resourceRoot
        [.document halfRight, .document unknownKey, .environment frenchEnvironment]
        Release.resourceRoot
      ∧ Settled (Step.NamesLocale Toml.parse?) .root
        [.document halfRight, .document unknownKey, .environment frenchEnvironment]
        french.locale)
    ∧ ((Step.document unknownKey).apply Toml.parse? french).2 = french
    ∧ (Step.document halfRight).Fails Toml.parse? (.invalidLocale "locale" ⟨"somewhere"⟩)
    ∧ ((Step.document halfRight).apply Toml.parse? french).2.locale = french.locale
    ∧ Loads Toml.parse? frenchSurroundings none
    ∧ Loaded (Step.NamesLocale Toml.parse?) .root frenchSurroundings none french.locale := by
  obtain ⟨hrun, hstep, hload⟩ :=
    run_default_iff_settled_and_apply_and_loadConfig Toml.parse?
  have hunread : ¬ (Step.document unknownKey).IsRead Toml.parse? :=
    Step.not_isRead_iff.mpr (by decide +kernel)
  have hfails : (Step.document halfRight).Fails Toml.parse? (.invalidLocale "locale" ⟨"somewhere"⟩) :=
    ((hstep _ .default).2 _).1.mp (by decide +kernel)
  obtain ⟨hloads, -, -, hlocale⟩ :=
    (hload frenchSurroundings none [] french).mp (by decide +kernel)
  exact ⟨(hrun _ french).mp (by decide +kernel), (hstep _ _).1 hunread, hfails,
    ((hstep _ _).2 _).2 hfails, hloads, hlocale⟩

end Config

end CiFront
