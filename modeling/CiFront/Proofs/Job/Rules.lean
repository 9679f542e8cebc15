import CiFront.Job.Resolution
import Mathlib.Data.String.Basic
/-!
# The rules of resolution

What a build's values are, said without the program. The last token supplied for a name counts, and
an undefined name refuses the build. Otherwise the parameters are taken in order, and each of them
gives a value or the reason for which the build fails.
-/

namespace CiFront

variable {σ : Type}

/-! ### The token that counts -/

/-- The last token supplied for a name. -/
def Supplied.Last (supplied : Supplied) (name token : String) : Prop :=
  ∃ before after, supplied = before ++ (name, token) :: after ∧ ∀ pair ∈ after, pair.1 ≠ name

/-- Whether a token is supplied for a name. -/
def Supplied.Names (supplied : Supplied) (name : String) : Prop :=
  ∃ token, (name, token) ∈ supplied

namespace Supplied

variable {supplied other : Supplied} {name token : String}

theorem token?_eq_some_iff : supplied.token? name = some token ↔ supplied.Last name token := by
  rw [token?, List.lookup_eq_some_iff]
  constructor
  · rintro ⟨after, before, heq, hafter⟩
    refine ⟨before.reverse, after.reverse, ?_, fun pair hpair => ?_⟩
    · rw [← List.reverse_reverse supplied, heq]
      simp
    · have := hafter pair (List.mem_reverse.mp hpair)
      exact fun h => absurd h.symm (by simpa using this)
  · rintro ⟨before, after, rfl, hafter⟩
    refine ⟨after.reverse, before.reverse, by simp, fun pair hpair => ?_⟩
    have := hafter pair (List.mem_reverse.mp hpair)
    simpa using Ne.symm this

theorem names_iff_mem : supplied.Names name ↔ name ∈ supplied.map Prod.fst := by
  simp [Names]

theorem token?_eq_none_iff : supplied.token? name = none ↔ ¬ supplied.Names name := by
  rw [token?, List.lookup_eq_none_iff, names_iff_mem]
  simp only [List.mem_reverse, bne_iff_ne, List.mem_map, not_exists, not_and]
  exact ⟨fun h pair hpair heq => h pair hpair heq.symm, fun h pair hpair heq => h pair hpair heq.symm⟩

theorem names_iff_exists_last : supplied.Names name ↔ ∃ token, supplied.Last name token := by
  constructor
  · intro h
    cases htoken : supplied.token? name with
    | some token => exact ⟨token, token?_eq_some_iff.mp htoken⟩
    | none => exact absurd h (token?_eq_none_iff.mp htoken)
  · rintro ⟨token, before, after, rfl, _⟩
    exact ⟨token, List.mem_append_right _ List.mem_cons_self⟩

/-- Of tokens for different names each one counts. -/
theorem last_of_mem (hnodup : (supplied.map Prod.fst).Nodup) (hmem : (name, token) ∈ supplied) :
    supplied.Last name token := by
  obtain ⟨before, after, rfl⟩ := List.append_of_mem hmem
  refine ⟨before, after, rfl, fun pair hpair heq => ?_⟩
  rw [List.map_append, List.map_cons] at hnodup
  have hfresh := (List.nodup_cons.mp (List.nodup_append.mp hnodup).2.1).1
  exact hfresh (List.mem_map.mpr ⟨pair, hpair, heq⟩)

end Supplied

/-! ### What a resolution comes to -/

/-- What asking a trigger for a token comes to: its answer and the state that this leaves. -/
def Trigger.Answers (trigger : Trigger σ) (name : String) (s : σ)
    (answer : Except Parameter.Error (Option String)) (t : σ) : Prop :=
  (trigger.pendingToken name s).result = answer ∧ (trigger.pendingToken name s).state = t

namespace Parameter

/-- What one parameter gives: of the supplied token that counts, else of the token the trigger
holds, else its default. The trigger is asked only where no token is supplied. -/
inductive Gives (trigger : Trigger σ) (supplied : Supplied) (parameter : Parameter) (s : σ) :
    Except Error Value → σ → Prop
  | supplied {token} (htoken : supplied.Last parameter.name token) :
      Gives trigger supplied parameter s (parameter.convert token) s
  | pending {token t} (hnone : ¬ supplied.Names parameter.name)
      (hanswer : trigger.Answers parameter.name s (.ok (some token)) t) :
      Gives trigger supplied parameter s (parameter.convert token) t
  | default {value t} (hnone : ¬ supplied.Names parameter.name)
      (hanswer : trigger.Answers parameter.name s (.ok none) t)
      (hdefault : parameter.default? = some value) :
      Gives trigger supplied parameter s (.ok value) t
  | missing {t} (hnone : ¬ supplied.Names parameter.name)
      (hanswer : trigger.Answers parameter.name s (.ok none) t)
      (hdefault : parameter.default? = none) :
      Gives trigger supplied parameter s (.error (.missingValue parameter.name)) t
  | refused {error t} (hnone : ¬ supplied.Names parameter.name)
      (hanswer : trigger.Answers parameter.name s (.error error) t) :
      Gives trigger supplied parameter s (.error error) t

end Parameter

namespace Job

/-- Parameters that all give values, one after the other. -/
inductive Yields (trigger : Trigger σ) (supplied : Supplied) :
    List Parameter → σ → List Parameter.Value → σ → Prop
  | nil {s} : Yields trigger supplied [] s [] s
  | cons {parameter rest s value t values u}
      (hfirst : parameter.Gives trigger supplied s (.ok value) t)
      (hrest : Yields trigger supplied rest t values u) :
      Yields trigger supplied (parameter :: rest) s (value :: values) u

/-- Parameters of which one fails, after those before it gave values. -/
def Fails (trigger : Trigger σ) (supplied : Supplied) (parameters : List Parameter) (s : σ)
    (error : Parameter.Error) (t : σ) : Prop :=
  ∃ before parameter after values u, parameters = before ++ parameter :: after
    ∧ Yields trigger supplied before s values u ∧ parameter.Gives trigger supplied u (.error error) t

/-- The undefined name that a resolution is refused for: the least one supplied, else the first one
that the trigger holds a token for. -/
inductive Refuses (job : Job) (heldNames : List String) (supplied : Supplied) : String → Prop
  | supplied {name} (hsupplied : supplied.Names name) (hundefined : name ∉ job.names)
      (hleast : ∀ other, supplied.Names other → other ∉ job.names → name ≤ other) :
      Refuses job heldNames supplied name
  | held {before name after} (hdefined : ∀ other, supplied.Names other → other ∈ job.names)
      (hheld : heldNames = before ++ name :: after) (hundefined : name ∉ job.names)
      (hfirst : ∀ other ∈ before, other ∈ job.names) :
      Refuses job heldNames supplied name

/-- A job that defines every name that a token is supplied or held for. -/
def Defines (job : Job) (heldNames : List String) (supplied : Supplied) : Prop :=
  (∀ name, supplied.Names name → name ∈ job.names) ∧ ∀ name ∈ heldNames, name ∈ job.names

/-- What the resolution of a job comes to. -/
inductive Resolves (job : Job) (trigger : Trigger σ) (supplied : Supplied) (s : σ) :
    Except Parameter.Error (List Parameter.Value) → σ → Prop
  | unknown {name} (hrefused : job.Refuses trigger.heldNames supplied name) :
      Resolves job trigger supplied s (.error (.unknownParameter name)) s
  | values {values t} (hdefined : job.Defines trigger.heldNames supplied)
      (hyields : Yields trigger supplied job.parameters s values t) :
      Resolves job trigger supplied s (.ok values) t
  | failure {error t} (hdefined : job.Defines trigger.heldNames supplied)
      (hfails : Fails trigger supplied job.parameters s error t) :
      Resolves job trigger supplied s (.error error) t

/-- A job with a parameter of every kind. -/
def everyKind : Job where
  parameters :=
    [⟨"BRANCH", none, .string (some " main ") true⟩,
      ⟨"NOTES", some "Release notes", .text none⟩,
      ⟨"DEPLOY", none, .boolean true⟩,
      ⟨"OFFSET", none, .integer none none (some 5)⟩,
      ⟨"ENV", none, .choice ["staging", "prod"]⟩,
      ⟨"TOKEN", none, .password (some ⟨"a=b"⟩)⟩]
  valid := by decide
  nodup := by decide

end Job

end CiFront
