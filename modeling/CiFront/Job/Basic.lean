import CiFront.Parameter.Basic
/-!
# Jobs

A job is an ordered list of valid parameters with different names. A list that is none is refused at its
first offending position, where a fault of the definition itself comes before a repeated name.
-/

namespace CiFront

/-- The first error of a list of parameters whose names must also differ from those in `seen`. -/
def Job.check (seen : List String) : List Parameter → Except Parameter.Error Unit
  | [] => .ok ()
  | parameter :: rest =>
    match parameter.validate with
    | .error e => .error e
    | .ok () =>
      if parameter.name ∈ seen then .error (.duplicateName parameter.name)
      else Job.check (parameter.name :: seen) rest

theorem Job.check_eq_ok {seen : List String} {parameters : List Parameter}
    (h : Job.check seen parameters = .ok ()) :
    (∀ p ∈ parameters, p.validate = .ok ()) ∧ (parameters.map (·.name)).Nodup
      ∧ ∀ p ∈ parameters, p.name ∉ seen := by
  induction parameters generalizing seen with
  | nil => simp
  | cons parameter rest ih =>
    rw [Job.check] at h
    split at h
    · cases h
    · rename_i hvalid
      split at h
      · cases h
      · rename_i hnew
        obtain ⟨hall, hnodup, hfresh⟩ := ih h
        refine ⟨?_, ?_, ?_⟩
        · intro p hp
          rcases List.mem_cons.mp hp with rfl | hp
          · exact hvalid
          · exact hall p hp
        · rw [List.map_cons, List.nodup_cons]
          refine ⟨?_, hnodup⟩
          intro hmem
          obtain ⟨p, hp, hname⟩ := List.mem_map.mp hmem
          exact hfresh p hp (by rw [hname]; exact List.mem_cons_self)
        · intro p hp
          rcases List.mem_cons.mp hp with rfl | hp
          · exact hnew
          · exact fun hseen => hfresh p hp (List.mem_cons_of_mem _ hseen)

/-- An ordered list of valid parameters with different names. -/
structure Job where
  parameters : List Parameter
  valid : ∀ p ∈ parameters, p.validate = .ok ()
  nodup : (parameters.map (·.name)).Nodup

namespace Job

/-- The job of a list of parameters, if each is valid and no name is repeated. -/
def ofParameters (parameters : List Parameter) : Except Parameter.Error Job :=
  match h : check [] parameters with
  | .error e => .error e
  | .ok () => .ok ⟨parameters, (check_eq_ok h).1, (check_eq_ok h).2.1⟩

/-- The parameter of the given name. -/
def get? (job : Job) (name : String) : Option Parameter :=
  job.parameters.find? (·.name == name)

/-- The names of a job's parameters, in order. -/
def names (job : Job) : List String :=
  job.parameters.map (·.name)

end Job

end CiFront
