import CiFront.Cli.Execution
import CiFront.Proofs.Job.Resolution
import CiFront.Proofs.Parameter.Secrecy
import CiFront.Proofs.Trigger.CommandLine
import Mathlib.Data.List.Forall2
import Mathlib.Data.List.Nodup
/-!
# Passwords leave no trace in a build

Two builds are compared whose jobs, supplied tokens and triggers differ in secrets alone: in the
defaults of passwords and in the tokens given to them. Both fail with the same error, or nothing
that is shown of the one differs from what is shown of the other.
-/

namespace CiFront

variable {σ τ : Type}

/-! ### What may differ -/

/-- Whether the parameter of a name is a password. -/
def Job.IsSecret (job : Job) (name : String) : Prop :=
  ∃ parameter ∈ job.parameters, parameter.name = name ∧ parameter.kind.IsPassword

/-- Jobs that differ in the defaults of passwords at most. -/
def Job.AgreesWith (job other : Job) : Prop :=
  job.parameters.map Parameter.concealed = other.parameters.map Parameter.concealed

/-- Supplied tokens that differ in tokens for secret names at most. -/
def Supplied.AgreesWith (secret : String → Prop) (supplied other : Supplied) : Prop :=
  List.Forall₂ (fun pair pair' => pair.1 = pair'.1 ∧ (¬ secret pair.1 → pair.2 = pair'.2))
    supplied other

/-- Tokens that are the same, or that both are there and are secret. -/
def TokensAgree (secret : Prop) (token other : Option String) : Prop :=
  token = other ∨ secret ∧ token.isSome = true ∧ other.isSome = true

/-- Answers of a trigger that are the same failure, or tokens that agree. -/
def AnswersAgree (secret : Prop) :
    Except Parameter.Error (Option String) → Except Parameter.Error (Option String) → Prop
  | .ok token, .ok other => TokensAgree secret token other
  | answer, other => answer = other

/-- The state of a trigger after it was asked for some names in turn. -/
def Trigger.stateAfter (trigger : Trigger σ) (s : σ) (asked : List String) : σ :=
  asked.foldl (fun s name => (trigger.pendingToken name s).state) s

/-- Triggers in a state each that hold tokens for the same names and that, whatever they were asked
before, answer alike up to the text of tokens for secret names. -/
structure Trigger.AgreesWith (secret : String → Prop) (trigger : Trigger σ) (s : σ)
    (other : Trigger τ) (t : τ) : Prop where
  heldNames_eq : trigger.heldNames = other.heldNames
  answersAgree : ∀ asked name, AnswersAgree (secret name)
    (trigger.pendingToken name (trigger.stateAfter s asked)).result
    (other.pendingToken name (other.stateAfter t asked)).result

/-- Values of which nothing that is shown differs. -/
structure Parameter.Value.ShownAlike (values other : List Parameter.Value) : Prop where
  json_eq : ∀ reveal, Cli.valuesText .json reveal values = Cli.valuesText .json reveal other
  env_eq : Cli.valuesText .env false values = Cli.valuesText .env false other
  shown_eq : values.map Parameter.Value.shown = other.map Parameter.Value.shown

/-! ### Results -/

theorem Parameter.Value.ShownAlike.of_concealed {values other : List Parameter.Value}
    (h : values.map Parameter.Value.concealed = other.map Parameter.Value.concealed) :
    Parameter.Value.ShownAlike values other where
  json_eq reveal := by
    rw [Cli.valuesText, Cli.valuesText, map_eq_of_concealed toJson_concealed h]
  env_eq := by
    have hlines := map_eq_of_concealed (f := fun value => value.line false ++ "\n")
      (fun value => by rw [line_concealed]) h
    rw [Cli.valuesText, Cli.valuesText, hlines]
  shown_eq := map_eq_of_concealed shown_concealed h

/-- Results that a function makes the same are the same error, or both come to something. -/
theorem error_or_ok_of_map_eq {ε α β : Type} {f : α → β} {first second : Except ε α}
    (h : first.map f = second.map f) :
    (∃ error, first = .error error ∧ second = .error error)
      ∨ ∃ a b, first = .ok a ∧ second = .ok b ∧ f a = f b := by
  rcases first with error | a <;> rcases second with error' | b
  · exact .inl ⟨error, rfl, congrArg Except.error (Except.error.inj h).symm⟩
  · cases h
  · cases h
  · exact .inr ⟨a, b, rfl, rfl, Except.ok.inj h⟩

/-! ### Triggers -/

namespace Trigger

variable {secret : String → Prop}

theorem AgreesWith.next {trigger : Trigger σ} {other : Trigger τ} {s : σ} {t : τ}
    (h : trigger.AgreesWith secret s other t) (name : String) :
    trigger.AgreesWith secret (trigger.pendingToken name s).state other
      (other.pendingToken name t).state :=
  ⟨h.heldNames_eq, fun asked => h.answersAgree (name :: asked)⟩

/-- A reader that can be read stays one, whatever it is asked for. -/
theorem commandLine_stateAfter (stdinParameter : Option String) (text : String) (readings : Nat)
    (asked : List String) :
    ∃ left count, (commandLine stdinParameter).stateAfter ⟨.ok text, readings⟩ asked
      = ⟨.ok left, count⟩ := by
  induction asked generalizing text readings with
  | nil => exact ⟨text, readings, rfl⟩
  | cons name asked ih =>
    rw [stateAfter, List.foldl_cons]
    by_cases hname : stdinParameter = some name
    · rw [state_pendingToken_commandLine hname]
      exact ih "" (readings + 1)
    · rw [pendingToken_commandLine_of_ne hname]
      exact ih text readings

/-- What a secret is read from does not matter but for its text. -/
theorem commandLine_agreesWith {name : String} (hsecret : secret name) (text other : String)
    (readings readings' : Nat) :
    (commandLine (some name)).AgreesWith secret ⟨.ok text, readings⟩ (commandLine (some name))
      ⟨.ok other, readings'⟩ where
  heldNames_eq := rfl
  answersAgree asked wanted := by
    obtain ⟨left, count, hleft⟩ := commandLine_stateAfter (some name) text readings asked
    obtain ⟨left', count', hright⟩ := commandLine_stateAfter (some name) other readings' asked
    rw [hleft, hright]
    by_cases hname : name = wanted
    · have hasked : some name = some wanted := congrArg some hname
      simp only [commandLine, if_pos hasked]
      exact .inr ⟨hname ▸ hsecret, rfl, rfl⟩
    · have hasked : some name ≠ some wanted := fun h => hname (Option.some.inj h)
      simp only [commandLine, if_neg hasked]
      exact .inl rfl

end Trigger

/-! ### Tokens -/

namespace Supplied

variable {secret : String → Prop} {supplied other : Supplied}

theorem AgreesWith.map_fst_eq (h : supplied.AgreesWith secret other) :
    supplied.map Prod.fst = other.map Prod.fst := by
  induction h with
  | nil => rfl
  | cons hpair _ ih => rw [List.map_cons, List.map_cons, hpair.1, ih]

theorem AgreesWith.lookup (h : supplied.AgreesWith secret other) (name : String) :
    TokensAgree (secret name) (List.lookup name supplied) (List.lookup name other) := by
  induction h with
  | nil => exact .inl rfl
  | @cons pair pair' _ _ hpair _ ih =>
    rcases pair with ⟨key, token⟩
    rcases pair' with ⟨key', token'⟩
    obtain ⟨rfl, htoken⟩ := hpair
    rw [List.lookup_cons, List.lookup_cons]
    cases hkey : name == key with
    | false => exact ih
    | true =>
      rw [beq_iff_eq.mp hkey]
      by_cases hsecret : secret key
      · exact .inr ⟨hsecret, rfl, rfl⟩
      · exact .inl (congrArg some (htoken hsecret))

theorem AgreesWith.token? (h : supplied.AgreesWith secret other) (name : String) :
    TokensAgree (secret name) (supplied.token? name) (other.token? name) :=
  AgreesWith.lookup (List.forall₂_reverse_iff.mpr h) name

end Supplied

/-! ### One parameter -/

namespace Parameter

variable {secret : String → Prop} {first second : Parameter}

theorem ofAnswer_none_concealed (h : first.concealed = second.concealed) :
    (first.ofAnswer (.ok none)).map Value.concealed
      = (second.ofAnswer (.ok none)).map Value.concealed := by
  have hdefault := default?_concealed h
  rw [ofAnswer, ofAnswer]
  cases hfirst : first.default? with
  | none =>
    rw [hfirst] at hdefault
    rw [Option.map_eq_none_iff.mp hdefault.symm, name_eq_of_concealed h]
  | some value =>
    rw [hfirst] at hdefault
    obtain ⟨value', hsecond, hvalues⟩ := Option.map_eq_some_iff.mp hdefault.symm
    rw [hsecond]
    exact congrArg Except.ok hvalues.symm

theorem ofAnswer_concealed {answer other : Except Error (Option String)}
    (h : first.concealed = second.concealed) (hsecret : secret first.name → first.kind.IsPassword)
    (hanswers : AnswersAgree (secret first.name) answer other) :
    (first.ofAnswer answer).map Value.concealed = (second.ofAnswer other).map Value.concealed := by
  rcases answer with error | token <;> rcases other with error' | token'
  · cases hanswers
    rfl
  · cases hanswers
  · cases hanswers
  · rcases hanswers with rfl | ⟨hname, htoken, htoken'⟩
    · cases token with
      | none => exact ofAnswer_none_concealed h
      | some token => exact convert_concealed h fun _ => rfl
    · obtain ⟨token, rfl⟩ := Option.isSome_iff_exists.mp htoken
      obtain ⟨token', rfl⟩ := Option.isSome_iff_exists.mp htoken'
      exact convert_concealed h fun hnot => absurd (hsecret hname) hnot

/-- One parameter, resolved with tokens and triggers that agree, gives values that are the same when
concealed, and leaves triggers that agree. -/
theorem resolve_concealed {trigger : Trigger σ} {other : Trigger τ} {s : σ} {t : τ}
    {token token' : Option String}
    (h : first.concealed = second.concealed) (hsecret : secret first.name → first.kind.IsPassword)
    (htriggers : trigger.AgreesWith secret s other t)
    (htokens : TokensAgree (secret first.name) token token') :
    (first.resolve trigger token s).result.map Value.concealed
        = (second.resolve other token' t).result.map Value.concealed
      ∧ trigger.AgreesWith secret (first.resolve trigger token s).state
        other (second.resolve other token' t).state := by
  rcases htokens with rfl | ⟨hname, htoken, htoken'⟩
  · cases token with
    | none =>
      have hname := name_eq_of_concealed h
      have hasked : trigger.Answers first.name s _ _ := ⟨rfl, rfl⟩
      have hother : other.Answers second.name t _ _ := ⟨rfl, rfl⟩
      obtain ⟨hresult, hstate⟩ := resolve_of_answers hasked
      obtain ⟨hresult', hstate'⟩ := resolve_of_answers hother
      rw [hresult, hstate, hresult', hstate', ← hname]
      exact ⟨ofAnswer_concealed h hsecret (htriggers.answersAgree [] first.name),
        htriggers.next first.name⟩
    | some token => exact ⟨convert_concealed h fun _ => rfl, htriggers⟩
  · obtain ⟨token, rfl⟩ := Option.isSome_iff_exists.mp htoken
    obtain ⟨token', rfl⟩ := Option.isSome_iff_exists.mp htoken'
    exact ⟨convert_concealed h fun hnot => absurd (hsecret hname) hnot, htriggers⟩

end Parameter

/-! ### The parameters of a job -/

namespace Job

variable {secret : String → Prop} {trigger : Trigger σ} {other : Trigger τ} {s : σ} {t : τ}
  {supplied supplied' : Supplied}

theorem resolveAll_concealed {parameters parameters' : List Parameter}
    (h : parameters.map Parameter.concealed = parameters'.map Parameter.concealed)
    (hsecret : ∀ p ∈ parameters, secret p.name → p.kind.IsPassword)
    (htriggers : trigger.AgreesWith secret s other t)
    (hsupplied : supplied.AgreesWith secret supplied') :
    (resolveAll trigger supplied parameters s).result.map (List.map Parameter.Value.concealed)
      = (resolveAll other supplied' parameters' t).result.map (List.map Parameter.Value.concealed) := by
  induction parameters generalizing parameters' s t with
  | nil =>
    rw [List.map_nil, eq_comm, List.map_eq_nil_iff] at h
    rw [h]
    rfl
  | cons first rest ih =>
    rw [List.map_cons, eq_comm, List.map_eq_cons_iff] at h
    obtain ⟨second, rest', rfl, hfirst, hrest⟩ := h
    rw [List.forall_mem_cons] at hsecret
    have htokens : TokensAgree (secret first.name) (supplied.token? first.name)
        (supplied'.token? second.name) := by
      rw [Parameter.name_eq_of_concealed hfirst]
      exact hsupplied.token? first.name
    obtain ⟨hvalue, hagrees⟩ := Parameter.resolve_concealed hfirst.symm hsecret.1 htriggers htokens
    have hmore := ih hrest.symm hsecret.2 hagrees
    rcases error_or_ok_of_map_eq hvalue with
      ⟨error, hleft, hright⟩ | ⟨value, value', hleft, hright, hconcealed⟩
    · rw [(resolveAll_cons_of_error rest hleft).1, (resolveAll_cons_of_error rest' hright).1]
    · rw [(resolveAll_cons_of_ok rest hleft).1, (resolveAll_cons_of_ok rest' hright).1]
      rcases error_or_ok_of_map_eq hmore with
        ⟨error, hleft, hright⟩ | ⟨values, values', hleft, hright, hrest⟩
      · rw [hleft, hright]
        rfl
      · rw [hleft, hright]
        show Except.ok (value.concealed :: values.map Parameter.Value.concealed)
          = Except.ok (value'.concealed :: values'.map Parameter.Value.concealed)
        rw [hconcealed, hrest]

theorem AgreesWith.names_eq {job other : Job} (h : job.AgreesWith other) :
    job.names = other.names := by
  have hname (parameter : Parameter) : parameter.concealed.name = parameter.name := rfl
  exact Parameter.map_eq_of_concealed hname h

theorem AgreesWith.unknownName?_eq {job other : Job} (h : job.AgreesWith other)
    (hsupplied : supplied.map Prod.fst = supplied'.map Prod.fst) (heldNames : List String) :
    job.unknownName? heldNames supplied = other.unknownName? heldNames supplied' := by
  have hundefined : (fun name => (job.get? name).isNone) = fun name => (other.get? name).isNone := by
    funext name
    rw [Bool.eq_iff_iff, isNone_get?_iff, isNone_get?_iff, h.names_eq]
  rw [unknownName?, unknownName?, hundefined, hsupplied]

theorem isPassword_of_isSecret {job : Job} {parameter : Parameter} (hmem : parameter ∈ job.parameters)
    (h : job.IsSecret parameter.name) : parameter.kind.IsPassword := by
  obtain ⟨secret, hsecret, hname, hpassword⟩ := h
  have heq : secret = parameter := List.inj_on_of_nodup_map job.nodup hsecret hmem hname
  rwa [← heq]

theorem resolve_concealed {job other : Job} {trigger : Trigger σ} {trigger' : Trigger τ}
    (hjobs : job.AgreesWith other) (hsupplied : supplied.AgreesWith job.IsSecret supplied')
    (htriggers : trigger.AgreesWith job.IsSecret s trigger' t) :
    (job.resolve trigger supplied s).result.map (List.map Parameter.Value.concealed)
      = (other.resolve trigger' supplied' t).result.map (List.map Parameter.Value.concealed) := by
  have hunknown := hjobs.unknownName?_eq hsupplied.map_fst_eq trigger.heldNames
  cases hname : job.unknownName? trigger.heldNames supplied with
  | some name =>
    rw [hname, htriggers.heldNames_eq] at hunknown
    rw [resolve_of_unknownName? hname, resolve_of_unknownName? hunknown.symm]
  | none =>
    rw [hname, htriggers.heldNames_eq] at hunknown
    rw [(resolve_of_defines (unknownName?_eq_none_iff.mp hname)).1,
      (resolve_of_defines (unknownName?_eq_none_iff.mp hunknown.symm)).1]
    exact resolveAll_concealed hjobs (fun _ hmem => isPassword_of_isSecret hmem) htriggers hsupplied

theorem AgreesWith.toJson_eq {job other : Job} (h : job.AgreesWith other) :
    job.toJson = other.toJson := by
  rw [toJson, toJson, Parameter.map_eq_of_concealed Parameter.toJson_concealed h]

/-- **Passwords leave no trace in a build.** Two builds that differ in secrets alone fail with the
same error, or nothing that is shown of their values differs; and nothing differs in the serialised
jobs. -/
theorem resolve_error_or_shownAlike (job other : Job) (trigger : Trigger σ) (trigger' : Trigger τ)
    (supplied supplied' : Supplied) (s : σ) (t : τ) (hjobs : job.AgreesWith other)
    (hsupplied : supplied.AgreesWith job.IsSecret supplied')
    (htriggers : trigger.AgreesWith job.IsSecret s trigger' t) :
    job.toJson = other.toJson
      ∧ ((∃ error, (job.resolve trigger supplied s).result = .error error
          ∧ (other.resolve trigger' supplied' t).result = .error error)
        ∨ ∃ values values', (job.resolve trigger supplied s).result = .ok values
          ∧ (other.resolve trigger' supplied' t).result = .ok values'
          ∧ Parameter.Value.ShownAlike values values') := by
  refine ⟨hjobs.toJson_eq, ?_⟩
  rcases error_or_ok_of_map_eq (resolve_concealed hjobs hsupplied htriggers) with
    herror | ⟨values, values', hvalues, hvalues', hconcealed⟩
  · exact .inl herror
  · exact .inr ⟨values, values', hvalues, hvalues', .of_concealed hconcealed⟩

/-- A job with a password of every origin: read, supplied and by default. -/
def guarded (secret : Parameter.Secret) : Job where
  parameters :=
    [⟨"TOKEN", none, .password none⟩, ⟨"PIN", none, .password none⟩,
      ⟨"KEY", some "Signing key", .password (some secret)⟩,
      ⟨"OFFSET", none, .integer (some 1) none none⟩]
  valid := by
    simp only [List.forall_mem_cons]
    exact ⟨Parameter.validate_password (by decide), Parameter.validate_password (by decide),
      Parameter.validate_password (by decide), by decide, fun _ h => nomatch h⟩
  nodup := by simp

theorem guarded_shownAlike :
    (guarded ⟨"a"⟩).toJson = (guarded ⟨"b"⟩).toJson
      ∧ ∃ values values', ((guarded ⟨"a"⟩).resolve (Trigger.commandLine (some "TOKEN"))
            [("PIN", "1"), ("OFFSET", "2")] ⟨.ok "one\n", 0⟩).result = .ok values
          ∧ ((guarded ⟨"b"⟩).resolve (Trigger.commandLine (some "TOKEN"))
            [("PIN", "0 "), ("OFFSET", "2")] ⟨.ok "two", 0⟩).result = .ok values'
          ∧ Parameter.Value.ShownAlike values values' ∧ values ≠ values' := by
  have hvalues : ((guarded ⟨"a"⟩).resolve (Trigger.commandLine (some "TOKEN"))
      [("PIN", "1"), ("OFFSET", "2")] ⟨.ok "one\n", 0⟩).result
        = .ok [⟨"TOKEN", .password ⟨"one"⟩⟩, ⟨"PIN", .password ⟨"1"⟩⟩, ⟨"KEY", .password ⟨"a"⟩⟩,
          ⟨"OFFSET", .integer 2⟩] := by
    decide
  have hvalues' : ((guarded ⟨"b"⟩).resolve (Trigger.commandLine (some "TOKEN"))
      [("PIN", "0 "), ("OFFSET", "2")] ⟨.ok "two", 0⟩).result
        = .ok [⟨"TOKEN", .password ⟨"two"⟩⟩, ⟨"PIN", .password ⟨"0 "⟩⟩, ⟨"KEY", .password ⟨"b"⟩⟩,
          ⟨"OFFSET", .integer 2⟩] := by
    decide
  have htoken : (guarded ⟨"a"⟩).IsSecret "TOKEN" := ⟨_, List.mem_cons_self, rfl, none, rfl⟩
  have hpin : (guarded ⟨"a"⟩).IsSecret "PIN" :=
    ⟨_, List.mem_cons_of_mem _ List.mem_cons_self, rfl, none, rfl⟩
  obtain ⟨hjson, hresults⟩ := resolve_error_or_shownAlike (guarded ⟨"a"⟩) (guarded ⟨"b"⟩) _ _
    [("PIN", "1"), ("OFFSET", "2")] [("PIN", "0 "), ("OFFSET", "2")] _ _ rfl
    (.cons ⟨rfl, fun hnot => absurd hpin hnot⟩ (.cons ⟨rfl, fun _ => rfl⟩ .nil))
    (Trigger.commandLine_agreesWith htoken "one\n" "two" 0 0)
  rcases hresults with ⟨error, herror, _⟩ | ⟨values, values', hfirst, hsecond, hshown⟩
  · rw [hvalues] at herror
    cases herror
  · refine ⟨hjson, values, values', hfirst, hsecond, hshown, ?_⟩
    rw [hvalues, Except.ok.injEq] at hfirst
    rw [hvalues', Except.ok.injEq] at hsecond
    rw [← hfirst, ← hsecond]
    decide

end Job

end CiFront
