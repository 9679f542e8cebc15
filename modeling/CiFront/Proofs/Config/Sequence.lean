import CiFront.Proofs.Config.Step
import Mathlib.Data.List.Induction
/-!
# Sequences of steps

Any sequence of documents and environments may be laid over a configuration, and some of them may fail.
After it each field has the value of the last step that set it.
-/

namespace CiFront.Config

/-- The configuration after a sequence of steps, those that fail included. -/
def run (parse? : String → Option Toml.Table) (config : Config) (steps : List Step) : Config :=
  steps.foldl (fun config step => (step.apply parse? config).2) config

/-- Whether a step sets a value and no step after it sets any. -/
def SetsLast {α : Type} (Sets : Step → α → Prop) (steps : List Step) (value : α) : Prop :=
  ∃ before step after, steps = before ++ step :: after ∧ Sets step value
    ∧ ∀ later ∈ after, ∀ other, ¬ Sets later other

/-- The value that the last of the steps to set one sets, or the initial one if none of them does. -/
def Settled {α : Type} (Sets : Step → α → Prop) (initial : α) (steps : List Step) (value : α) : Prop :=
  SetsLast Sets steps value ∨ (∀ step ∈ steps, ∀ other, ¬ Sets step other) ∧ value = initial

section

variable {parse? : String → Option Toml.Table} {α : Type} {Sets : Step → α → Prop} {initial value : α}

theorem settled_nil : Settled Sets initial [] = (· = initial) := by
  funext value
  simp [Settled, SetsLast]

theorem setsLast_append_singleton {steps : List Step} {step : Step} :
    SetsLast Sets (steps ++ [step]) value ↔ Over (Sets step) (SetsLast Sets steps) value := by
  constructor
  · intro h
    obtain ⟨before, last, after, hsteps, hsets, hafter⟩ := h
    obtain rfl | ⟨rest, final, rfl⟩ := List.eq_nil_or_concat' after
    · obtain ⟨-, hlast⟩ := List.append_inj' hsteps rfl
      cases hlast
      exact .inl hsets
    · rw [← List.cons_append, ← List.append_assoc] at hsteps
      obtain ⟨hinit, hfinal⟩ := List.append_inj' hsteps rfl
      cases hfinal
      obtain ⟨hrest, hstep⟩ := List.forall_mem_append.mp hafter
      exact .inr ⟨List.forall_mem_singleton.mp hstep, before, last, rest, hinit, hsets, hrest⟩
  · rintro (hsets | ⟨hstep, before, last, after, rfl, hsets, hafter⟩)
    · exact ⟨steps, step, [], rfl, hsets, by simp⟩
    · refine ⟨before, last, after ++ [step], by simp, hsets, ?_⟩
      exact List.forall_mem_append.mpr ⟨hafter, List.forall_mem_singleton.mpr hstep⟩

theorem settled_append_singleton {steps : List Step} {step : Step} :
    Settled Sets initial (steps ++ [step]) = Over (Sets step) (Settled Sets initial steps) := by
  funext value
  rw [Settled, setsLast_append_singleton, List.forall_mem_append, List.forall_mem_singleton]
  unfold Over Settled
  apply propext
  tauto

theorem settled_singleton {step : Step} :
    Settled Sets initial [step] = Over (Sets step) (· = initial) := by
  have hlast : Settled Sets initial ([] ++ [step]) = Over (Sets step) (Settled Sets initial []) :=
    settled_append_singleton
  rwa [settled_nil] at hlast

theorem run_append_singleton (config : Config) (steps : List Step) (step : Step) :
    run parse? config (steps ++ [step]) = (step.apply parse? (run parse? config steps)).2 := by
  rw [run, List.foldl_append]
  rfl

/-- What every step does to a field, a run does with the last step that sets it. -/
theorem run_eq_iff_settled {field : Config → α}
    (hstep : ∀ (step : Step) (config : Config) (value : α),
      field (step.apply parse? config).2 = value ↔ Over (Sets step) (· = field config) value)
    (config : Config) (steps : List Step) (value : α) :
    field (run parse? config steps) = value ↔ Settled Sets (field config) steps value := by
  -- The last step decides first, so steps are taken off the end and not the front.
  induction steps using List.reverseRecOn generalizing value with
  | nil => rw [settled_nil, eq_comm, run, List.foldl_nil]
  | append_singleton steps step ih =>
    have hrun : (· = field (run parse? config steps)) = Settled Sets (field config) steps := by
      funext other
      exact propext (eq_comm.trans (ih other))
    rw [run_append_singleton, hstep, settled_append_singleton, hrun]

end

/-- A run settles each field on its own, the locale by the steps that name one. -/
theorem run_eq_iff {parse? : String → Option Toml.Table} {config final : Config} {steps : List Step} :
    run parse? config steps = final
      ↔ Settled (Step.Names parse? .contextPath) config.contextPath steps final.contextPath
        ∧ Settled (Step.Names parse? .resourceRoot) config.resourceRoot steps final.resourceRoot
        ∧ Settled (Step.NamesLocale parse?) config.locale steps final.locale := by
  rw [← run_eq_iff_settled (fun _ _ _ => Step.apply_contextPath_eq_iff),
    ← run_eq_iff_settled (fun _ _ _ => Step.apply_resourceRoot_eq_iff),
    ← run_eq_iff_settled (fun _ _ _ => Step.apply_locale_eq_iff)]
  cases run parse? config steps
  cases final
  exact mk.injEq .. ▸ Iff.rfl

end CiFront.Config
