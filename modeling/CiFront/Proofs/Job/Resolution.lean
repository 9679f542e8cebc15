import CiFront.Proofs.Job.Rules
import CiFront.Proofs.Parameter.Replay
import CiFront.Proofs.Text.Least
/-!
# Resolution follows its rules

Resolution comes to exactly what its rules say, errors and the state of the trigger included. So it
depends on the supplied tokens only through the one that counts for each name.
-/

namespace CiFront

variable {σ : Type}

/-! ### One parameter -/

namespace Parameter

variable {trigger : Trigger σ} {supplied : Supplied} {parameter : Parameter} {s t : σ}

/-- What a parameter is worth that no token is supplied for, by the answer of the trigger. -/
def ofAnswer (parameter : Parameter) : Except Error (Option String) → Except Error Value
  | .error error => .error error
  | .ok (some token) => parameter.convert token
  | .ok none =>
    match parameter.default? with
    | some value => .ok value
    | none => .error (.missingValue parameter.name)

theorem resolveDefault_apply (parameter : Parameter) (s : σ) :
    parameter.resolveDefault s
      = ⟨parameter.ofAnswer (.ok none), s, [.usingDefault parameter.name]⟩ := by
  rw [resolveDefault, Attempt.bind_of_ok (Attempt.log_apply _ s), ofAnswer]
  cases parameter.default? <;> rfl

theorem resolve_of_answers {answer : Except Error (Option String)}
    (h : trigger.Answers parameter.name s answer t) :
    (parameter.resolve trigger none s).result = parameter.ofAnswer answer
      ∧ (parameter.resolve trigger none s).state = t := by
  obtain ⟨rfl, rfl⟩ := h
  rw [resolve]
  rcases houtcome : trigger.pendingToken parameter.name s with ⟨_ | _ | token, t, events⟩
  · rw [Attempt.bind_of_error houtcome]
    exact ⟨rfl, rfl⟩
  · rw [Attempt.bind_of_ok houtcome]
    dsimp only
    rw [resolveDefault_apply]
    exact ⟨rfl, rfl⟩
  · rw [Attempt.bind_of_ok houtcome]
    exact ⟨rfl, rfl⟩

/-- One parameter is resolved to exactly what it gives. -/
theorem resolve_iff_gives {result : Except Error Value} :
    ((parameter.resolve trigger (supplied.token? parameter.name) s).result = result
        ∧ (parameter.resolve trigger (supplied.token? parameter.name) s).state = t)
      ↔ parameter.Gives trigger supplied s result t := by
  constructor
  · rintro ⟨rfl, rfl⟩
    cases htoken : supplied.token? parameter.name with
    | some token => exact .supplied (Supplied.token?_eq_some_iff.mp htoken)
    | none =>
      have hnone := Supplied.token?_eq_none_iff.mp htoken
      have hasked : ∃ answer t, trigger.Answers parameter.name s answer t := ⟨_, _, rfl, rfl⟩
      obtain ⟨answer, t, hanswer⟩ := hasked
      rw [(resolve_of_answers hanswer).1, (resolve_of_answers hanswer).2]
      rcases answer with error | _ | token
      · exact .refused hnone hanswer
      · rw [ofAnswer]
        cases hdefault : parameter.default? with
        | some value => exact .default hnone hanswer hdefault
        | none => exact .missing hnone hanswer hdefault
      · exact .pending hnone hanswer
  · intro h
    cases h with
    | supplied htoken =>
      rw [Supplied.token?_eq_some_iff.mpr htoken]
      exact ⟨rfl, rfl⟩
    | pending hnone hanswer =>
      rw [Supplied.token?_eq_none_iff.mpr hnone]
      exact resolve_of_answers hanswer
    | default hnone hanswer hdefault =>
      rw [Supplied.token?_eq_none_iff.mpr hnone]
      simpa only [ofAnswer, hdefault] using resolve_of_answers hanswer
    | missing hnone hanswer hdefault =>
      rw [Supplied.token?_eq_none_iff.mpr hnone]
      simpa only [ofAnswer, hdefault] using resolve_of_answers hanswer
    | refused hnone hanswer =>
      rw [Supplied.token?_eq_none_iff.mpr hnone]
      exact resolve_of_answers hanswer

/-- A value that a parameter gives is that of a token or the default. -/
theorem Gives.of_ok {value : Value} (h : parameter.Gives trigger supplied s (.ok value) t) :
    (∃ token, parameter.convert token = .ok value) ∨ parameter.default? = some value := by
  generalize hresult : Except.ok value = result at h
  cases h with
  | supplied _ => exact .inl ⟨_, rfl⟩
  | pending _ _ => exact .inl ⟨_, rfl⟩
  | default _ _ hdefault =>
    cases hresult
    exact .inr hdefault
  | missing _ _ _ => cases hresult
  | refused _ _ => cases hresult

theorem Gives.name_eq {value : Value} (h : parameter.Gives trigger supplied s (.ok value) t) :
    value.name = parameter.name := by
  rcases h.of_ok with ⟨token, htoken⟩ | hdefault
  · exact (convert_eq_ok.mp htoken).1
  · exact (default?_eq_some.mp hdefault).1

end Parameter

/-! ### Undefined names -/

namespace Job

variable {job : Job} {heldNames : List String} {trigger : Trigger σ} {supplied other : Supplied}
  {name : String} {parameters : List Parameter} {values : List Parameter.Value} {s t : σ}

theorem isNone_get?_iff : (job.get? name).isNone = true ↔ name ∉ job.names := by
  simp [get?, names]

theorem not_isNone_get?_iff : (!(job.get? name).isNone) = true ↔ name ∈ job.names := by
  rw [Bool.not_eq_true', ← Bool.not_eq_true, isNone_get?_iff, not_not]

theorem mem_undefined_iff :
    name ∈ (supplied.map Prod.fst).filter (fun name => (job.get? name).isNone)
      ↔ supplied.Names name ∧ name ∉ job.names := by
  rw [List.mem_filter, isNone_get?_iff, ← Supplied.names_iff_mem]

theorem unknownName?_eq_none_iff :
    job.unknownName? heldNames supplied = none ↔ job.Defines heldNames supplied := by
  rw [unknownName?]
  cases hleast : Text.least? ((supplied.map Prod.fst).filter fun name => (job.get? name).isNone) with
  | some least =>
    have hmem := (Text.least?_eq_some_iff.mp hleast).1
    rw [mem_undefined_iff] at hmem
    simp only [reduceCtorEq, false_iff]
    exact fun hdefines => hmem.2 (hdefines.1 least hmem.1)
  | none =>
    rw [Text.least?_eq_none_iff, List.eq_nil_iff_forall_not_mem] at hleast
    have hsupplied : ∀ name, supplied.Names name → name ∈ job.names := by
      intro name hname
      by_contra hundefined
      exact hleast name (mem_undefined_iff.mpr ⟨hname, hundefined⟩)
    simp only [List.find?_eq_none, isNone_get?_iff, not_not]
    exact ⟨fun hheld => ⟨hsupplied, hheld⟩, And.right⟩

theorem unknownName?_eq_some_iff :
    job.unknownName? heldNames supplied = some name ↔ job.Refuses heldNames supplied name := by
  rw [unknownName?]
  cases hleast : Text.least? ((supplied.map Prod.fst).filter fun name => (job.get? name).isNone) with
  | some least =>
    obtain ⟨hmem, hall⟩ := Text.least?_eq_some_iff.mp hleast
    rw [mem_undefined_iff] at hmem
    simp only [mem_undefined_iff, and_imp] at hall
    constructor
    · intro h
      cases h
      exact .supplied hmem.1 hmem.2 hall
    · intro h
      cases h with
      | supplied hsupplied hundefined hother =>
        exact congrArg some (le_antisymm (hall name hsupplied hundefined) (hother least hmem.1 hmem.2))
      | held hdefined _ _ _ => exact absurd (hdefined least hmem.1) hmem.2
  | none =>
    rw [Text.least?_eq_none_iff, List.eq_nil_iff_forall_not_mem] at hleast
    simp only [mem_undefined_iff, not_and, not_not] at hleast
    simp only [List.find?_eq_some_iff_append, isNone_get?_iff, not_isNone_get?_iff]
    constructor
    · rintro ⟨hundefined, before, after, hheld, hfirst⟩
      exact .held hleast hheld hundefined hfirst
    · intro h
      cases h with
      | supplied hsupplied hundefined _ => exact absurd (hleast name hsupplied) hundefined
      | held _ hheld hundefined hfirst => exact ⟨hundefined, _, _, hheld, hfirst⟩

/-- The undefined names depend on the supplied tokens only through the names. -/
theorem unknownName?_congr (h : ∀ name, other.Names name ↔ supplied.Names name) :
    job.unknownName? heldNames other = job.unknownName? heldNames supplied := by
  have hleast : Text.least? ((other.map Prod.fst).filter fun name => (job.get? name).isNone)
      = Text.least? ((supplied.map Prod.fst).filter fun name => (job.get? name).isNone) :=
    Text.least?_congr fun name => by rw [mem_undefined_iff, mem_undefined_iff, h]
  rw [unknownName?, unknownName?, hleast]

/-! ### Runs over the parameters -/

section

variable {parameter : Parameter} (rest : List Parameter)

theorem resolveAll_cons_of_error {error : Parameter.Error}
    (h : (parameter.resolve trigger (supplied.token? parameter.name) s).result = .error error) :
    (resolveAll trigger supplied (parameter :: rest) s).result = .error error
      ∧ (resolveAll trigger supplied (parameter :: rest) s).state
        = (parameter.resolve trigger (supplied.token? parameter.name) s).state := by
  rw [resolveAll]
  exact Attempt.result_bind_of_error h

theorem resolveAll_cons_of_ok {value : Parameter.Value}
    (h : (parameter.resolve trigger (supplied.token? parameter.name) s).result = .ok value) :
    (resolveAll trigger supplied (parameter :: rest) s).result
        = (resolveAll trigger supplied rest
            (parameter.resolve trigger (supplied.token? parameter.name) s).state).result.map (value :: ·)
      ∧ (resolveAll trigger supplied (parameter :: rest) s).state
        = (resolveAll trigger supplied rest
            (parameter.resolve trigger (supplied.token? parameter.name) s).state).state := by
  rw [resolveAll, (Attempt.result_bind_of_ok h).1, (Attempt.result_bind_of_ok h).2]
  cases hrest : (resolveAll trigger supplied rest
      (parameter.resolve trigger (supplied.token? parameter.name) s).state).result with
  | error error => exact Attempt.result_bind_of_error hrest
  | ok values => exact Attempt.result_bind_of_ok hrest

end

theorem resolveAll_eq_ok_iff :
    ((resolveAll trigger supplied parameters s).result = .ok values
        ∧ (resolveAll trigger supplied parameters s).state = t)
      ↔ Yields trigger supplied parameters s values t := by
  induction parameters generalizing s t values with
  | nil =>
    constructor
    · rintro ⟨hvalues, rfl⟩
      cases hvalues
      exact .nil
    · intro h
      cases h
      exact ⟨rfl, rfl⟩
  | cons parameter rest ih =>
    constructor
    · rintro ⟨hvalues, rfl⟩
      cases hfirst : (parameter.resolve trigger (supplied.token? parameter.name) s).result with
      | error error =>
        rw [(resolveAll_cons_of_error rest hfirst).1] at hvalues
        cases hvalues
      | ok value =>
        obtain ⟨hresult, hstate⟩ := resolveAll_cons_of_ok rest hfirst
        cases hmore : (resolveAll trigger supplied rest
            (parameter.resolve trigger (supplied.token? parameter.name) s).state).result with
        | error error =>
          rw [hresult, hmore] at hvalues
          cases hvalues
        | ok more =>
          rw [hresult, hmore] at hvalues
          cases hvalues
          rw [hstate]
          exact .cons (Parameter.resolve_iff_gives.mp ⟨hfirst, rfl⟩) (ih.mp ⟨hmore, rfl⟩)
    · intro h
      cases h with
      | cons hfirst hrest =>
        obtain ⟨hvalue, rfl⟩ := Parameter.resolve_iff_gives.mpr hfirst
        obtain ⟨hvalues, rfl⟩ := ih.mpr hrest
        rw [(resolveAll_cons_of_ok _ hvalue).1, (resolveAll_cons_of_ok _ hvalue).2, hvalues]
        exact ⟨rfl, rfl⟩

theorem resolveAll_eq_error_iff {error : Parameter.Error} :
    ((resolveAll trigger supplied parameters s).result = .error error
        ∧ (resolveAll trigger supplied parameters s).state = t)
      ↔ Fails trigger supplied parameters s error t := by
  induction parameters generalizing s t with
  | nil =>
    constructor
    · rintro ⟨herror, _⟩
      cases herror
    · rintro ⟨before, _, _, _, _, heq, _⟩
      cases before <;> cases heq
  | cons parameter rest ih =>
    constructor
    · rintro ⟨herror, rfl⟩
      cases hfirst : (parameter.resolve trigger (supplied.token? parameter.name) s).result with
      | error first =>
        obtain ⟨hresult, hstate⟩ := resolveAll_cons_of_error rest hfirst
        rw [hresult] at herror
        cases herror
        rw [hstate]
        exact ⟨[], parameter, rest, [], s, rfl, .nil, Parameter.resolve_iff_gives.mp ⟨hfirst, rfl⟩⟩
      | ok value =>
        obtain ⟨hresult, hstate⟩ := resolveAll_cons_of_ok rest hfirst
        cases hmore : (resolveAll trigger supplied rest
            (parameter.resolve trigger (supplied.token? parameter.name) s).state).result with
        | error later =>
          rw [hresult, hmore] at herror
          cases herror
          rw [hstate]
          obtain ⟨before, failing, after, values, u, rfl, hyields, hgives⟩ := ih.mp ⟨hmore, rfl⟩
          exact ⟨parameter :: before, failing, after, value :: values, u, rfl,
            .cons (Parameter.resolve_iff_gives.mp ⟨hfirst, rfl⟩) hyields, hgives⟩
        | ok more =>
          rw [hresult, hmore] at herror
          cases herror
    · rintro ⟨before, failing, after, values, u, heq, hyields, hgives⟩
      cases hyields with
      | nil =>
        cases heq
        obtain ⟨herror, rfl⟩ := Parameter.resolve_iff_gives.mpr hgives
        exact resolveAll_cons_of_error _ herror
      | cons hfirst hrest =>
        cases heq
        obtain ⟨hvalue, rfl⟩ := Parameter.resolve_iff_gives.mpr hfirst
        obtain ⟨herror, rfl⟩ := ih.mpr ⟨_, _, _, _, _, rfl, hrest, hgives⟩
        rw [(resolveAll_cons_of_ok _ hvalue).1, (resolveAll_cons_of_ok _ hvalue).2, herror]
        exact ⟨rfl, rfl⟩

theorem Yields.map_name_eq (h : Yields trigger supplied parameters s values t) :
    values.map (·.name) = parameters.map (·.name) := by
  induction h with
  | nil => rfl
  | cons hfirst _ ih => rw [List.map_cons, List.map_cons, hfirst.name_eq, ih]

theorem resolveAll_congr
    (h : ∀ parameter ∈ parameters, other.token? parameter.name = supplied.token? parameter.name) :
    resolveAll trigger other parameters = resolveAll trigger supplied parameters := by
  induction parameters with
  | nil => rfl
  | cons parameter rest ih =>
    rw [List.forall_mem_cons] at h
    rw [resolveAll, resolveAll, h.1, ih h.2]

/-! ### Resolution -/

theorem resolve_of_unknownName? (h : job.unknownName? trigger.heldNames supplied = some name) :
    job.resolve trigger supplied s = ⟨.error (.unknownParameter name), s, []⟩ := by
  rw [resolve, h]
  rfl

theorem resolve_of_defines (h : job.Defines trigger.heldNames supplied) :
    (job.resolve trigger supplied s).result = (resolveAll trigger supplied job.parameters s).result
      ∧ (job.resolve trigger supplied s).state
        = (resolveAll trigger supplied job.parameters s).state := by
  rw [resolve, unknownName?_eq_none_iff.mpr h]
  dsimp only
  cases hvalues : (resolveAll trigger supplied job.parameters s).result with
  | error error => exact Attempt.result_bind_of_error hvalues
  | ok values => exact Attempt.result_bind_of_ok hvalues

theorem resolve_iff_resolves {result : Except Parameter.Error (List Parameter.Value)} :
    ((job.resolve trigger supplied s).result = result ∧ (job.resolve trigger supplied s).state = t)
      ↔ job.Resolves trigger supplied s result t := by
  constructor
  · rintro ⟨rfl, rfl⟩
    cases hunknown : job.unknownName? trigger.heldNames supplied with
    | some name =>
      rw [resolve_of_unknownName? hunknown]
      exact .unknown (unknownName?_eq_some_iff.mp hunknown)
    | none =>
      have hdefined := unknownName?_eq_none_iff.mp hunknown
      obtain ⟨hresult, hstate⟩ := resolve_of_defines (s := s) hdefined
      rw [hresult, hstate]
      cases hall : (resolveAll trigger supplied job.parameters s).result with
      | error error => exact .failure hdefined (resolveAll_eq_error_iff.mp ⟨hall, rfl⟩)
      | ok values => exact .values hdefined (resolveAll_eq_ok_iff.mp ⟨hall, rfl⟩)
  · intro h
    cases h with
    | unknown hrefused =>
      rw [resolve_of_unknownName? (unknownName?_eq_some_iff.mpr hrefused)]
      exact ⟨rfl, rfl⟩
    | values hdefined hyields =>
      rw [(resolve_of_defines hdefined).1, (resolve_of_defines hdefined).2]
      exact resolveAll_eq_ok_iff.mpr hyields
    | failure hdefined hfails =>
      rw [(resolve_of_defines hdefined).1, (resolve_of_defines hdefined).2]
      exact resolveAll_eq_error_iff.mpr hfails

theorem Resolves.of_ok (h : job.Resolves trigger supplied s (.ok values) t) :
    job.Defines trigger.heldNames supplied ∧ Yields trigger supplied job.parameters s values t := by
  cases h with
  | values hdefined hyields => exact ⟨hdefined, hyields⟩

/-- Supplied tokens of which the same one counts for every name are resolved alike. -/
theorem resolve_congr (h : ∀ name token, other.Last name token ↔ supplied.Last name token) :
    job.resolve trigger other = job.resolve trigger supplied := by
  have htokens : ∀ name, other.token? name = supplied.token? name := by
    intro name
    apply Option.ext
    intro token
    rw [Supplied.token?_eq_some_iff, Supplied.token?_eq_some_iff, h]
  have hnames : ∀ name, other.Names name ↔ supplied.Names name := by
    intro name
    simp only [Supplied.names_iff_exists_last, h]
  rw [resolve, resolve, unknownName?_congr hnames, resolveAll_congr fun _ _ => htokens _]

/-- **Resolution follows its rules.** It comes to what they say and to nothing else, its values are
one for each parameter in order, and of the supplied tokens only the one that counts for each name
matters. -/
theorem resolve_iff_resolves_and_map_name_eq_and_congr (job : Job) (trigger : Trigger σ)
    (supplied : Supplied) (s : σ) :
    (∀ result t, ((job.resolve trigger supplied s).result = result
        ∧ (job.resolve trigger supplied s).state = t) ↔ job.Resolves trigger supplied s result t)
      ∧ (∀ values t, job.Resolves trigger supplied s (.ok values) t → values.map (·.name) = job.names)
      ∧ ∀ other : Supplied, (∀ name token, other.Last name token ↔ supplied.Last name token) →
        job.resolve trigger other s = job.resolve trigger supplied s := by
  refine ⟨fun result t => resolve_iff_resolves, ?_, ?_⟩
  · intro values t hresolves
    exact hresolves.of_ok.2.map_name_eq
  · intro other hlast
    rw [resolve_congr hlast]

theorem everyKind_resolve :
    everyKind.Resolves Trigger.programmatic [("ZONE", "1"), ("AREA", "2")] ()
        (.error (.unknownParameter "AREA")) ()
      ∧ everyKind.Resolves Trigger.programmatic [("ENV", "prod"), ("OFFSET", "7")] ()
        (.error (.invalidToken "OFFSET" "7" (.aboveMax 5))) ()
      ∧ everyKind.resolve Trigger.programmatic [("OFFSET", "x"), ("ENV", "prod"), ("OFFSET", "2")] ()
        = everyKind.resolve Trigger.programmatic [("ENV", "prod"), ("OFFSET", "2")] () := by
  have hlast : ∀ name token,
      Supplied.Last [("OFFSET", "x"), ("ENV", "prod"), ("OFFSET", "2")] name token
        ↔ Supplied.Last [("ENV", "prod"), ("OFFSET", "2")] name token := by
    intro name token
    rw [← Supplied.token?_eq_some_iff, ← Supplied.token?_eq_some_iff]
    cases hname : name == "OFFSET" <;> simp [Supplied.token?, List.lookup_cons, hname]
  have hrules := resolve_iff_resolves_and_map_name_eq_and_congr everyKind
    (Trigger.programmatic (σ := Unit))
  exact ⟨((hrules _ ()).1 _ _).mp (by decide), ((hrules _ ()).1 _ _).mp (by decide),
    (hrules _ ()).2.2 _ hlast⟩

end Job

end CiFront
