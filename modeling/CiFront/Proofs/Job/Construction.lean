import CiFront.Job.Basic
import Mathlib.Data.List.Nodup
/-!
# Which lists of parameters are jobs

The parameters of a list are checked in order, each by itself first and then for its name. A list is
refused for the first one that fails either way, whatever is wrong with those behind it, and one that
fails both ways is refused for what is wrong with itself. Where none fails, the list is a job as it stands.
-/

namespace CiFront.Job

/-- What is wrong with a parameter where some names are taken: it is not valid, or else its name is one of
these. -/
inductive Offends (taken : List String) (parameter : Parameter) : Parameter.Error → Prop
  | invalid {error} (h : parameter.validate = .error error) : Offends taken parameter error
  | repeated (hvalid : parameter.validate = .ok ()) (hname : parameter.name ∈ taken) :
      Offends taken parameter (.duplicateName parameter.name)

/-- Parameters that are valid and have different names. -/
structure Accepted (parameters : List Parameter) : Prop where
  valid : ∀ p ∈ parameters, p.validate = .ok ()
  nodup : (parameters.map (·.name)).Nodup

variable {seen taken : List String} {parameter : Parameter} {rest parameters : List Parameter}
  {error : Parameter.Error}

/-! ### One parameter -/

theorem Offends.mono {other : List String} (h : Offends taken parameter error)
    (hsubset : ∀ name ∈ taken, name ∈ other) : Offends other parameter error := by
  cases h with
  | invalid h => exact .invalid h
  | repeated hvalid hname => exact .repeated hvalid (hsubset _ hname)

theorem Offends.unique {other : Parameter.Error} (h : Offends taken parameter error)
    (hother : Offends taken parameter other) : error = other := by
  cases h with
  | invalid h =>
    cases hother with
    | invalid hother => exact Except.error.inj (h.symm.trans hother)
    | repeated hvalid => cases h.symm.trans hvalid
  | repeated hvalid =>
    cases hother with
    | invalid hother => cases hvalid.symm.trans hother
    | repeated => rfl

theorem check_cons_of_offends (h : Offends seen parameter error) :
    check seen (parameter :: rest) = .error error := by
  cases h with
  | invalid h => simp only [check, h]
  | repeated hvalid hname => simp only [check, hvalid, if_pos hname]

theorem check_cons_of_not_offends (h : ∀ error, ¬ Offends seen parameter error) :
    check seen (parameter :: rest) = check (parameter.name :: seen) rest := by
  cases hvalid : parameter.validate with
  | error error => exact absurd (.invalid hvalid) (h error)
  | ok =>
    have hname : parameter.name ∉ seen := fun hname => h _ (.repeated hvalid hname)
    simp only [check, hvalid, if_neg hname]

/-! ### All of them -/

theorem check_of_valid (hvalid : ∀ p ∈ parameters, p.validate = .ok ())
    (hnodup : (parameters.map (·.name)).Nodup) (hfresh : ∀ p ∈ parameters, p.name ∉ seen) :
    check seen parameters = .ok () := by
  induction parameters generalizing seen with
  | nil => rfl
  | cons parameter rest ih =>
    rw [List.map_cons, List.nodup_cons] at hnodup
    rw [check, hvalid parameter List.mem_cons_self]
    simp only
    rw [if_neg (hfresh parameter List.mem_cons_self)]
    refine ih (fun p hp => hvalid p (List.mem_cons_of_mem _ hp)) hnodup.2 ?_
    intro p hp hseen
    rcases List.mem_cons.mp hseen with heq | hseen
    · exact hnodup.1 (List.mem_map.mpr ⟨p, hp, heq⟩)
    · exact hfresh p (List.mem_cons_of_mem _ hp) hseen

theorem check_nil_eq_ok_iff : check [] parameters = .ok () ↔ Accepted parameters := by
  constructor
  · intro h
    obtain ⟨hvalid, hnodup, -⟩ := check_eq_ok h
    exact ⟨hvalid, hnodup⟩
  · exact fun h => check_of_valid h.valid h.nodup (by simp)

/-- A check fails at a parameter that offends behind parameters that pass it. -/
theorem check_eq_error_iff : check seen parameters = .error error
    ↔ ∃ before parameter after, parameters = before ++ parameter :: after ∧ check seen before = .ok ()
      ∧ Offends (before.map (·.name) ++ seen) parameter error := by
  -- A parameter that does not offend joins the names seen, so these are any names in the induction.
  induction parameters generalizing seen with
  | nil => simp [check]
  | cons first rest ih =>
    by_cases hoffends : ∃ fault, Offends seen first fault
    · obtain ⟨fault, hfault⟩ := hoffends
      rw [check_cons_of_offends hfault]
      constructor
      · rintro ⟨⟩
        exact ⟨[], first, rest, rfl, rfl, hfault⟩
      · rintro ⟨_ | ⟨_, before⟩, parameter, after, hsplit, hbefore, hparameter⟩
        · cases hsplit
          rw [hfault.unique hparameter]
        · cases hsplit
          rw [check_cons_of_offends hfault] at hbefore
          cases hbefore
    · have hpasses := not_exists.mp hoffends
      rw [check_cons_of_not_offends hpasses, ih]
      constructor
      · rintro ⟨before, parameter, after, rfl, hbefore, hparameter⟩
        refine ⟨first :: before, parameter, after, rfl, ?_,
          hparameter.mono fun _ => List.perm_middle.mem_iff.mp⟩
        rw [check_cons_of_not_offends hpasses, hbefore]
      · rintro ⟨_ | ⟨_, before⟩, parameter, after, hsplit, hbefore, hparameter⟩
        · cases hsplit
          exact absurd hparameter (hpasses error)
        · cases hsplit
          rw [check_cons_of_not_offends hpasses] at hbefore
          exact ⟨before, parameter, after, rfl, hbefore,
            hparameter.mono fun _ => List.perm_middle.mem_iff.mpr⟩

/-! ### The job of a list -/

theorem ofParameters_eq_ok_iff {job : Job} :
    ofParameters parameters = .ok job ↔ job.parameters = parameters := by
  unfold ofParameters
  split
  · rename_i error herror
    simp only [reduceCtorEq, false_iff]
    rintro rfl
    rw [check_of_valid job.valid job.nodup (by simp)] at herror
    cases herror
  · simp only [Except.ok.injEq]
    constructor
    · rintro rfl
      rfl
    · rintro rfl
      rfl

theorem exists_ofParameters_eq_ok_iff :
    (∃ job, ofParameters parameters = .ok job) ↔ Accepted parameters := by
  simp only [ofParameters_eq_ok_iff]
  constructor
  · rintro ⟨job, rfl⟩
    exact ⟨job.valid, job.nodup⟩
  · exact fun h => ⟨⟨parameters, h.valid, h.nodup⟩, rfl⟩

theorem ofParameters_eq_error_iff :
    ofParameters parameters = .error error ↔ check [] parameters = .error error := by
  unfold ofParameters
  split
  next heq => rw [heq, Except.error.injEq, Except.error.injEq]
  next heq => simp [heq]

/-- A job has at most one parameter of a name. -/
theorem length_filter_name_le (job : Job) (name : String) :
    (job.parameters.filter (·.name == name)).length ≤ 1 := by
  have hsub : ((job.parameters.filter (·.name == name)).map (·.name)).Nodup :=
    job.nodup.sublist (List.filter_sublist.map _)
  have hsame : (job.parameters.filter (·.name == name)).map (·.name)
      = List.replicate (job.parameters.filter (·.name == name)).length name := by
    rw [← List.length_map (·.name)]
    refine List.eq_replicate_of_mem fun other hother => ?_
    obtain ⟨p, hp, rfl⟩ := List.mem_map.mp hother
    exact beq_iff_eq.mp (List.mem_filter.mp hp).2
  rw [hsame, List.nodup_replicate] at hsub
  exact hsub

theorem get?_eq_some_iff_filter_eq (job : Job) (name : String) :
    job.get? name = some parameter ↔ job.parameters.filter (·.name == name) = [parameter] := by
  have hle := job.length_filter_name_le name
  rw [get?, ← List.head?_filter]
  generalize job.parameters.filter (·.name == name) = found at hle ⊢
  match found, hle with
  | [], _ => simp
  | [only], _ => simp
  | _ :: _ :: _, hle => simp at hle

/-- **Which lists are jobs.** A list of parameters is a job if and only if each is valid and no name is
repeated. It is refused for an error if and only if the error is what is wrong with some parameter behind
others that are valid and have different names. A job has the parameters of its list in order, and finds for
a name the one parameter that has it. -/
theorem exists_ofParameters_iff_and_eq_error_iff_and_get?_iff (parameters : List Parameter) :
    ((∃ job, ofParameters parameters = .ok job) ↔ Accepted parameters)
      ∧ (∀ error, ofParameters parameters = .error error
        ↔ ∃ before parameter after, parameters = before ++ parameter :: after ∧ Accepted before
          ∧ Offends (before.map (·.name)) parameter error)
      ∧ ∀ job, ofParameters parameters = .ok job → job.parameters = parameters
        ∧ ∀ name parameter, job.get? name = some parameter
          ↔ parameters.filter (·.name == name) = [parameter] := by
  refine ⟨exists_ofParameters_eq_ok_iff, fun error => ?_, fun job hjob => ?_⟩
  · simp only [ofParameters_eq_error_iff, check_eq_error_iff, check_nil_eq_ok_iff, List.append_nil]
  · rw [ofParameters_eq_ok_iff] at hjob
    subst hjob
    exact ⟨rfl, fun name parameter => job.get?_eq_some_iff_filter_eq name⟩

/-- A flag of a name. -/
def flagNamed (name : String) : Parameter := ⟨name, none, .boolean false⟩

/-- A count of a name, with bounds the wrong way round. -/
def invertedNamed (name : String) : Parameter := ⟨name, none, .integer none (some 1) (some 0)⟩

/-- A parameter that is neither valid nor new is refused for not being valid, and a repeated name in front
of it comes first. Names that differ in their letters' case are different. -/
theorem ofParameters_invertedNamed_and_flagNamed :
    ofParameters [flagNamed "A", invertedNamed "A"] = .error (.invalidDefinition "A" (.minAboveMax 1 0))
      ∧ ofParameters [flagNamed "A", flagNamed "A", invertedNamed "A"] = .error (.duplicateName "A")
      ∧ ∃ job, ofParameters [flagNamed "A", flagNamed "a"] = .ok job
        ∧ job.parameters = [flagNamed "A", flagNamed "a"] ∧ job.get? "a" = some (flagNamed "a") := by
  refine ⟨?_, ?_, ?_⟩
  · refine ((exists_ofParameters_iff_and_eq_error_iff_and_get?_iff _).2.1 _).mpr
      ⟨[flagNamed "A"], invertedNamed "A", [], rfl, ⟨?_, by decide⟩, .invalid (by decide)⟩
    exact List.forall_mem_singleton.mpr (by decide)
  · refine ((exists_ofParameters_iff_and_eq_error_iff_and_get?_iff _).2.1 _).mpr
      ⟨[flagNamed "A"], flagNamed "A", [invertedNamed "A"], rfl, ⟨?_, by decide⟩,
        .repeated (by decide) (by decide)⟩
    exact List.forall_mem_singleton.mpr (by decide)
  · obtain ⟨hok, -, hget⟩ :=
      exists_ofParameters_iff_and_eq_error_iff_and_get?_iff [flagNamed "A", flagNamed "a"]
    obtain ⟨job, hjob⟩ := hok.mpr ⟨by decide, by decide⟩
    obtain ⟨hparameters, hname⟩ := hget job hjob
    exact ⟨job, hjob, hparameters, (hname "a" _).mpr (by decide)⟩

end CiFront.Job
