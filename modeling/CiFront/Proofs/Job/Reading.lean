import CiFront.Proofs.Job.Resolution
import CiFront.Proofs.Trigger.CommandLine
/-!
# When a build reads its reader

On the command line one parameter may take its token from a reader. Resolution reads it only after
every name was found to be defined, for a parameter that no token is supplied for, and once all
parameters before it have their values. Then the build is the one that supplies what was read;
otherwise the reader is left alone.
-/

namespace CiFront

variable {supplied : Supplied} {stdinParameter : Option String} {name : String}

/-! ### The condition -/

/-- A parameter that has a value without the reader: of the token supplied for it, or by default. -/
def Parameter.Settles (supplied : Supplied) (parameter : Parameter) : Prop :=
  (∃ token value, supplied.Last parameter.name token ∧ parameter.convert token = .ok value)
    ∨ ¬ supplied.Names parameter.name ∧ ∃ value, parameter.default? = some value

/-- Parameters of which all before the named one have their values. -/
def Job.Reaches (supplied : Supplied) (name : String) (parameters : List Parameter) : Prop :=
  ∃ before parameter after, parameters = before ++ parameter :: after ∧ parameter.name = name
    ∧ ∀ earlier ∈ before, earlier.Settles supplied

/-- A job that reads the token of the named parameter from the reader of the command line. -/
structure Job.Reads (job : Job) (stdinParameter : Option String) (supplied : Supplied)
    (name : String) : Prop where
  stdinParameter_eq : stdinParameter = some name
  defines : job.Defines [name] supplied
  not_names : ¬ supplied.Names name
  reaches : Job.Reaches supplied name job.parameters

theorem Supplied.token?_append_singleton (supplied : Supplied) (name token other : String) :
    token? (supplied ++ [(name, token)]) other
      = if other = name then some token else supplied.token? other := by
  rw [token?, List.reverse_append, List.reverse_singleton, List.singleton_append, List.lookup_cons,
    token?]
  by_cases h : other = name
  · rw [if_pos h, h, beq_self_eq_true]
  · rw [if_neg h, beq_false_of_ne h]

/-! ### One parameter -/

namespace Parameter

variable {parameter : Parameter}

/-- A parameter that nothing is read for is resolved as by a build from code. -/
theorem resolve_commandLine_of_notRead (supplied : Supplied)
    (h : stdinParameter = some parameter.name → supplied.Names parameter.name) (reader : Reader) :
    (parameter.resolve (.commandLine stdinParameter) (supplied.token? parameter.name) reader).result
        = (parameter.resolve .programmatic (supplied.token? parameter.name) ()).result
      ∧ (parameter.resolve (.commandLine stdinParameter) (supplied.token? parameter.name)
        reader).state = reader := by
  cases htoken : supplied.token? parameter.name with
  | some token => exact ⟨rfl, rfl⟩
  | none =>
    have hne : stdinParameter ≠ some parameter.name := fun heq =>
      Supplied.token?_eq_none_iff.mp htoken (h heq)
    have hanswer : (Trigger.commandLine stdinParameter).Answers parameter.name reader (.ok none)
        reader := by
      rw [Trigger.Answers, Trigger.pendingToken_commandLine_of_ne hne]
      exact ⟨rfl, rfl⟩
    have hnone : (Trigger.programmatic (σ := Unit)).Answers parameter.name () (.ok none) () :=
      ⟨rfl, rfl⟩
    rw [(resolve_of_answers hanswer).1, (resolve_of_answers hanswer).2, (resolve_of_answers hnone).1]
    exact ⟨rfl, rfl⟩

theorem resolve_commandLine_of_name_ne (supplied : Supplied) (h : parameter.name ≠ name)
    (reader : Reader) :
    (parameter.resolve (.commandLine (some name)) (supplied.token? parameter.name) reader).result
        = (parameter.resolve .programmatic (supplied.token? parameter.name) ()).result
      ∧ (parameter.resolve (.commandLine (some name)) (supplied.token? parameter.name)
        reader).state = reader :=
  resolve_commandLine_of_notRead supplied (fun heq => absurd (Option.some.inj heq).symm h) reader

/-- A parameter that is read for is worth what the reader answers. -/
theorem resolve_commandLine_of_read (h : stdinParameter = some parameter.name)
    (hnames : ¬ supplied.Names parameter.name) (reader : Reader) :
    (parameter.resolve (.commandLine stdinParameter) (supplied.token? parameter.name) reader).result
        = parameter.ofAnswer
          ((Trigger.commandLine stdinParameter).pendingToken parameter.name reader).result
      ∧ (parameter.resolve (.commandLine stdinParameter) (supplied.token? parameter.name)
        reader).state = reader.readAll.2 := by
  rw [Supplied.token?_eq_none_iff.mpr hnames]
  have hanswers : (Trigger.commandLine stdinParameter).Answers parameter.name reader _ _ :=
    ⟨rfl, rfl⟩
  obtain ⟨hresult, hstate⟩ := resolve_of_answers hanswers
  exact ⟨hresult, hstate.trans (Trigger.state_pendingToken_commandLine h reader)⟩

theorem exists_resolve_eq_ok_iff_settles :
    (∃ value, (parameter.resolve (Trigger.programmatic (σ := Unit))
      (supplied.token? parameter.name) ()).result = .ok value) ↔ parameter.Settles supplied := by
  cases htoken : supplied.token? parameter.name with
  | some token =>
    have hlast := Supplied.token?_eq_some_iff.mp htoken
    constructor
    · rintro ⟨value, hvalue⟩
      exact .inl ⟨token, value, hlast, hvalue⟩
    · rintro (⟨other, value, hother, hvalue⟩ | ⟨hnone, _⟩)
      · rw [← Supplied.token?_eq_some_iff, htoken] at hother
        cases hother
        exact ⟨value, hvalue⟩
      · exact absurd (Supplied.names_iff_exists_last.mpr ⟨token, hlast⟩) hnone
  | none =>
    have hnone := Supplied.token?_eq_none_iff.mp htoken
    have hanswer : (Trigger.programmatic (σ := Unit)).Answers parameter.name () (.ok none) () :=
      ⟨rfl, rfl⟩
    rw [(resolve_of_answers hanswer).1, ofAnswer]
    constructor
    · rintro ⟨value, hvalue⟩
      cases hdefault : parameter.default? with
      | some default => exact .inr ⟨hnone, default, hdefault⟩
      | none =>
        rw [hdefault] at hvalue
        cases hvalue
    · rintro (⟨token, _, hlast, _⟩ | ⟨_, value, hdefault⟩)
      · exact absurd (Supplied.names_iff_exists_last.mpr ⟨token, hlast⟩) hnone
      · exact ⟨value, by rw [hdefault]⟩

end Parameter

/-! ### The parameters of a job -/

namespace Job

variable {parameter : Parameter} {parameters rest : List Parameter}

theorem reaches_cons :
    Reaches supplied name (parameter :: rest)
      ↔ parameter.name = name ∨ parameter.Settles supplied ∧ Reaches supplied name rest := by
  constructor
  · rintro ⟨before, reached, after, heq, hname, hbefore⟩
    cases before with
    | nil =>
      cases heq
      exact .inl hname
    | cons first before =>
      cases heq
      obtain ⟨hfirst, hbefore⟩ := List.forall_mem_cons.mp hbefore
      exact .inr ⟨hfirst, before, reached, after, rfl, hname, hbefore⟩
  · rintro (hname | ⟨hfirst, before, reached, after, rfl, hname, hbefore⟩)
    · exact ⟨[], parameter, rest, rfl, hname, List.forall_mem_nil _⟩
    · exact ⟨parameter :: before, reached, after, rfl, hname,
        List.forall_mem_cons.mpr ⟨hfirst, hbefore⟩⟩

theorem resolveAll_commandLine_of_notRead
    (h : ∀ parameter ∈ parameters, stdinParameter = some parameter.name →
      supplied.Names parameter.name) (reader : Reader) :
    (resolveAll (.commandLine stdinParameter) supplied parameters reader).result
        = (resolveAll .programmatic supplied parameters ()).result
      ∧ (resolveAll (.commandLine stdinParameter) supplied parameters reader).state = reader := by
  induction parameters with
  | nil => exact ⟨rfl, rfl⟩
  | cons parameter rest ih =>
    obtain ⟨hparameter, hrest⟩ := List.forall_mem_cons.mp h
    obtain ⟨hresult, hstate⟩ := Parameter.resolve_commandLine_of_notRead supplied hparameter reader
    cases hfirst : (parameter.resolve (Trigger.programmatic (σ := Unit))
        (supplied.token? parameter.name) ()).result with
    | error error =>
      obtain ⟨hleft, hleftState⟩ := resolveAll_cons_of_error rest (hresult.trans hfirst)
      rw [hleft, hleftState, (resolveAll_cons_of_error rest hfirst).1]
      exact ⟨rfl, hstate⟩
    | ok value =>
      obtain ⟨hleft, hleftState⟩ := resolveAll_cons_of_ok rest (hresult.trans hfirst)
      rw [hleft, hleftState, (resolveAll_cons_of_ok rest hfirst).1, hstate, (ih hrest).1]
      exact ⟨rfl, (ih hrest).2⟩

theorem name_ne_of_nodup (hnodup : ((parameter :: rest).map (·.name)).Nodup) {other : Parameter}
    (hother : other ∈ rest) : other.name ≠ parameter.name := by
  intro heq
  rw [List.map_cons, List.nodup_cons] at hnodup
  exact hnodup.1 (List.mem_map.mpr ⟨other, hother, heq⟩)

/-- Once the named parameter is reached the reader is read, and a reader that cannot be read fails the
build. -/
theorem resolveAll_commandLine_of_reaches (hnames : ¬ supplied.Names name)
    (hnodup : (parameters.map (·.name)).Nodup) (h : Reaches supplied name parameters)
    (reader : Reader) :
    (resolveAll (.commandLine (some name)) supplied parameters reader).state = reader.readAll.2
      ∧ ∀ failure, reader.content = .error failure →
        (resolveAll (.commandLine (some name)) supplied parameters reader).result
          = .error (.unreadable failure) := by
  induction parameters with
  | nil =>
    obtain ⟨before, _, _, heq, _⟩ := h
    cases before <;> cases heq
  | cons parameter rest ih =>
    by_cases hname : parameter.name = name
    · subst hname
      obtain ⟨hresult, hstate⟩ := Parameter.resolve_commandLine_of_read rfl hnames reader
      constructor
      · cases hfirst : (parameter.resolve (.commandLine (some parameter.name))
            (supplied.token? parameter.name) reader).result with
        | error error => rw [(resolveAll_cons_of_error rest hfirst).2, hstate]
        | ok value =>
          have hrest : ∀ other ∈ rest, some parameter.name = some other.name →
              supplied.Names other.name := fun other hother heq =>
            absurd (Option.some.inj heq).symm (name_ne_of_nodup hnodup hother)
          rw [(resolveAll_cons_of_ok rest hfirst).2, hstate]
          exact (resolveAll_commandLine_of_notRead hrest _).2
      · intro failure hcontent
        rcases reader with ⟨content, readings⟩
        subst hcontent
        rw [Trigger.result_pendingToken_commandLine_of_error rfl] at hresult
        exact (resolveAll_cons_of_error rest hresult).1
    · obtain ⟨hsettles, hrest⟩ := (reaches_cons.mp h).resolve_left hname
      obtain ⟨value, hvalue⟩ := Parameter.exists_resolve_eq_ok_iff_settles.mpr hsettles
      obtain ⟨hresult, hstate⟩ := Parameter.resolve_commandLine_of_name_ne supplied hname reader
      obtain ⟨hleft, hleftState⟩ := resolveAll_cons_of_ok rest (hresult.trans hvalue)
      obtain ⟨hread, hfailed⟩ := ih (List.nodup_cons.mp hnodup).2 hrest
      rw [hleft, hleftState, hstate]
      exact ⟨hread, fun failure hcontent => by rw [hfailed failure hcontent]; rfl⟩

theorem resolveAll_commandLine_of_not_reaches (h : ¬ Reaches supplied name parameters)
    (reader : Reader) :
    (resolveAll (.commandLine (some name)) supplied parameters reader).state = reader := by
  induction parameters with
  | nil => rfl
  | cons parameter rest ih =>
    rw [reaches_cons, not_or] at h
    obtain ⟨hresult, hstate⟩ := Parameter.resolve_commandLine_of_name_ne supplied h.1 reader
    cases hfirst : (parameter.resolve (.commandLine (some name)) (supplied.token? parameter.name)
        reader).result with
    | error error => rw [(resolveAll_cons_of_error rest hfirst).2, hstate]
    | ok value =>
      have hsettles := Parameter.exists_resolve_eq_ok_iff_settles.mp ⟨value, hresult ▸ hfirst⟩
      rw [(resolveAll_cons_of_ok rest hfirst).2, hstate]
      exact ih fun hrest => h.2 ⟨hsettles, hrest⟩

/-- What is read counts as if it had been supplied. -/
theorem resolveAll_commandLine_eq_supplied (hnames : ¬ supplied.Names name)
    (hnodup : (parameters.map (·.name)).Nodup) (text : String) (readings : Nat) :
    (resolveAll (.commandLine (some name)) supplied parameters ⟨.ok text, readings⟩).result
      = (resolveAll .programmatic (supplied ++ [(name, Trigger.tokenOf text)]) parameters
        ()).result := by
  induction parameters with
  | nil => rfl
  | cons parameter rest ih =>
    have hnone := supplied.token?_append_singleton name (Trigger.tokenOf text)
    by_cases hname : parameter.name = name
    · subst hname
      have hfirst := (Parameter.resolve_commandLine_of_read rfl hnames ⟨.ok text, readings⟩).1
      rw [Trigger.result_pendingToken_commandLine_of_ok rfl, Parameter.ofAnswer] at hfirst
      have hsupplied : (parameter.resolve (Trigger.programmatic (σ := Unit)) (Supplied.token?
          (supplied ++ [(parameter.name, Trigger.tokenOf text)]) parameter.name) ()).result
            = parameter.convert (Trigger.tokenOf text) := by
        rw [hnone, if_pos rfl]
        rfl
      cases hconvert : parameter.convert (Trigger.tokenOf text) with
      | error error =>
        rw [(resolveAll_cons_of_error rest (hfirst.trans hconvert)).1,
          (resolveAll_cons_of_error rest (hsupplied.trans hconvert)).1]
      | ok value =>
        have hother : ∀ other ∈ rest, other.name ≠ parameter.name :=
          fun other => name_ne_of_nodup hnodup
        rw [(resolveAll_cons_of_ok rest (hfirst.trans hconvert)).1,
          (resolveAll_cons_of_ok rest (hsupplied.trans hconvert)).1,
          resolveAll_congr fun other hmem => by rw [hnone, if_neg (hother other hmem)],
          (resolveAll_commandLine_of_notRead (fun other hmem heq =>
            absurd (Option.some.inj heq).symm (hother other hmem)) _).1]
    · obtain ⟨hresult, hstate⟩ :=
        Parameter.resolve_commandLine_of_name_ne supplied hname ⟨.ok text, readings⟩
      have hright : (parameter.resolve (Trigger.programmatic (σ := Unit)) (Supplied.token?
          (supplied ++ [(name, Trigger.tokenOf text)]) parameter.name) ()).result
            = (parameter.resolve .programmatic (supplied.token? parameter.name) ()).result := by
        rw [hnone, if_neg hname]
      cases hfirst : (parameter.resolve (Trigger.programmatic (σ := Unit))
          (supplied.token? parameter.name) ()).result with
      | error error =>
        rw [(resolveAll_cons_of_error rest (hresult.trans hfirst)).1,
          (resolveAll_cons_of_error rest (hright.trans hfirst)).1]
      | ok value =>
        rw [(resolveAll_cons_of_ok rest (hresult.trans hfirst)).1,
          (resolveAll_cons_of_ok rest (hright.trans hfirst)).1, hstate,
          ih (List.nodup_cons.mp hnodup).2]

/-! ### Jobs -/

variable {job : Job}

theorem resolve_of_reads (h : job.Reads stdinParameter supplied name) (reader : Reader) :
    (job.resolve (.commandLine stdinParameter) supplied reader).state = reader.readAll.2
      ∧ ∀ failure, reader.content = .error failure →
        (job.resolve (.commandLine stdinParameter) supplied reader).result
          = .error (.unreadable failure) := by
  obtain ⟨rfl, hdefines, hnames, hreaches⟩ := h
  rw [(resolve_of_defines hdefines).1, (resolve_of_defines hdefines).2]
  exact resolveAll_commandLine_of_reaches hnames job.nodup hreaches reader

theorem resolve_of_not_reads (h : ∀ name, ¬ job.Reads stdinParameter supplied name)
    (reader : Reader) :
    (job.resolve (.commandLine stdinParameter) supplied reader).state = reader := by
  cases hunknown : job.unknownName? (Trigger.commandLine stdinParameter).heldNames supplied with
  | some unknown => rw [resolve_of_unknownName? hunknown]
  | none =>
    have hdefines := unknownName?_eq_none_iff.mp hunknown
    rw [(resolve_of_defines hdefines).2]
    cases stdinParameter with
    | none => exact (resolveAll_commandLine_of_notRead (fun _ _ heq => by cases heq) reader).2
    | some name =>
      by_cases hnames : supplied.Names name
      · exact (resolveAll_commandLine_of_notRead
          (fun _ _ heq => Option.some.inj heq ▸ hnames) reader).2
      · exact resolveAll_commandLine_of_not_reaches
          (fun hreaches => h name ⟨rfl, hdefines, hnames, hreaches⟩) reader

theorem resolve_eq_supplied_of_reads (h : job.Reads stdinParameter supplied name) (text : String)
    (readings : Nat) :
    (job.resolve (.commandLine stdinParameter) supplied ⟨.ok text, readings⟩).result
      = (job.resolve .programmatic (supplied ++ [(name, Trigger.tokenOf text)]) ()).result := by
  obtain ⟨rfl, hdefines, hnames, _⟩ := h
  have hsupplied : job.Defines (Trigger.programmatic (σ := Unit)).heldNames
      (supplied ++ [(name, Trigger.tokenOf text)]) := by
    refine ⟨fun other hother => ?_, fun _ hheld => by cases hheld⟩
    rw [Supplied.names_iff_mem, List.map_append, List.mem_append, ← Supplied.names_iff_mem] at hother
    rcases hother with hother | hother
    · exact hdefines.1 other hother
    · rw [List.mem_singleton.mp hother]
      exact hdefines.2 name List.mem_cons_self
  rw [(resolve_of_defines hdefines).1, (resolve_of_defines hsupplied).1]
  exact resolveAll_commandLine_eq_supplied hnames job.nodup text readings

end Job

/-! ### Any sequence of requests -/

namespace Trigger

/-- What a command line may be asked, again and again: to resolve a job, or for the token of a name. -/
inductive Request where
  | resolve (job : Job) (supplied : Supplied)
  | pendingToken (name : String)

namespace Request

/-- The reader that a request leaves. -/
def next (stdinParameter : Option String) (reader : Reader) : Request → Reader
  | .resolve job supplied => (job.resolve (commandLine stdinParameter) supplied reader).state
  | .pendingToken name => ((commandLine stdinParameter).pendingToken name reader).state

/-- Whether a request reads the token of a name from the reader. -/
def Reads (request : Request) (stdinParameter : Option String) (name : String) : Prop :=
  match request with
  | .resolve job supplied => job.Reads stdinParameter supplied name
  | .pendingToken asked => stdinParameter = some name ∧ asked = name

/-- Whether a request comes to what it comes to with the given token for a name: it resolves the job as
if the token had been supplied, or it answers with the token. -/
def Takes (request : Request) (stdinParameter : Option String) (reader : Reader)
    (name token : String) : Prop :=
  match request with
  | .resolve job supplied =>
    (job.resolve (commandLine stdinParameter) supplied reader).result
      = (job.resolve programmatic (supplied ++ [(name, token)]) ()).result
  | .pendingToken asked =>
    ((commandLine stdinParameter).pendingToken asked reader).result = .ok (some token)

variable {request : Request}

theorem next_of_reads (h : request.Reads stdinParameter name) (reader : Reader) :
    request.next stdinParameter reader = reader.readAll.2 := by
  cases request with
  | resolve job supplied => exact (Job.resolve_of_reads h reader).1
  | pendingToken asked =>
    obtain ⟨rfl, rfl⟩ := h
    exact state_pendingToken_commandLine rfl reader

theorem next_of_not_reads (h : ∀ name, ¬ request.Reads stdinParameter name) (reader : Reader) :
    request.next stdinParameter reader = reader := by
  cases request with
  | resolve job supplied => exact Job.resolve_of_not_reads h reader
  | pendingToken asked =>
    rw [next, pendingToken_commandLine_of_ne fun heq => h asked ⟨heq, rfl⟩]

theorem takes_tokenOf_of_reads (h : request.Reads stdinParameter name) (text : String)
    (readings : Nat) :
    request.Takes stdinParameter ⟨.ok text, readings⟩ name (tokenOf text) := by
  cases request with
  | resolve job supplied => exact Job.resolve_eq_supplied_of_reads h text readings
  | pendingToken asked =>
    obtain ⟨rfl, rfl⟩ := h
    exact result_pendingToken_commandLine_of_ok rfl text readings

end Request

/-- The reader after requests that are made one after the other. -/
def readerAfter (stdinParameter : Option String) (reader : Reader) (requests : List Request) :
    Reader :=
  requests.foldl (Request.next stdinParameter) reader

/-- After any requests the reader holds all of its text, or nothing if one of them read it. -/
theorem readerAfter_eq (stdinParameter : Option String) (text : String) (readings : Nat)
    (requests : List Request) :
    ((∀ request ∈ requests, ∀ name, ¬ request.Reads stdinParameter name) →
        readerAfter stdinParameter ⟨.ok text, readings⟩ requests = ⟨.ok text, readings⟩)
      ∧ ((∃ request ∈ requests, ∃ name, request.Reads stdinParameter name) →
        ∃ count, readerAfter stdinParameter ⟨.ok text, readings⟩ requests = ⟨.ok "", count⟩) := by
  induction requests generalizing text readings with
  | nil => exact ⟨fun _ => rfl, fun ⟨_, hnil, _⟩ => nomatch hnil⟩
  | cons request rest ih =>
    rw [readerAfter, List.foldl_cons]
    by_cases hreads : ∃ name, request.Reads stdinParameter name
    · -- The text is gone, whether the rest reads once more or not.
      obtain ⟨name, hname⟩ := hreads
      rw [show request.next stdinParameter ⟨.ok text, readings⟩ = ⟨.ok "", readings + 1⟩ from
        Request.next_of_reads hname _]
      refine ⟨fun hnone => absurd hname (hnone request List.mem_cons_self name), fun _ => ?_⟩
      by_cases hmore : ∃ other ∈ rest, ∃ name, other.Reads stdinParameter name
      · exact (ih "" (readings + 1)).2 hmore
      · exact ⟨readings + 1, (ih "" (readings + 1)).1 fun other hother name hreads =>
          hmore ⟨other, hother, name, hreads⟩⟩
    · rw [Request.next_of_not_reads (not_exists.mp hreads)]
      obtain ⟨hnone, hsome⟩ := ih text readings
      refine ⟨fun hall => hnone (List.forall_mem_cons.mp hall).2, ?_⟩
      rintro ⟨other, hother, hname⟩
      rcases List.mem_cons.mp hother with rfl | hrest
      · exact absurd hname hreads
      · exact hsome ⟨other, hrest, hname⟩

end Trigger

namespace Job

/-- **A build reads its reader at most once, and only when it must.** It reads it once if all names are
defined, the reader's name is not among those supplied and the parameters before it have their values,
and leaves it alone in all other cases. What is read counts as if it had been supplied, without the line
break at its end. Of any requests made one after the other only the first that reads gets the text, and
all later ones the empty token. -/
theorem readings_resolve_iff_and_takes (stdinParameter : Option String) :
    (∀ (job : Job) (supplied : Supplied) (reader : Reader),
      ((job.resolve (.commandLine stdinParameter) supplied reader).state.readings
          = reader.readings + 1 ↔ ∃ name, job.Reads stdinParameter supplied name)
        ∧ ((¬ ∃ name, job.Reads stdinParameter supplied name) →
          (job.resolve (.commandLine stdinParameter) supplied reader).state = reader)
        ∧ ∀ name, job.Reads stdinParameter supplied name →
          (∀ failure, reader.content = .error failure →
            (job.resolve (.commandLine stdinParameter) supplied reader).result
              = .error (.unreadable failure))
          ∧ ∀ text, reader.content = .ok text →
            ∃ token : String, Text.DropsLineBreak text.toList token.toList
              ∧ (job.resolve (.commandLine stdinParameter) supplied reader).result
                = (job.resolve .programmatic (supplied ++ [(name, token)]) ()).result)
      ∧ (∀ (text : String) (readings : Nat) (earlier : List Trigger.Request)
          (request : Trigger.Request) (name : String), request.Reads stdinParameter name →
        ((∀ other ∈ earlier, ∀ name, ¬ other.Reads stdinParameter name) →
          ∃ token : String, Text.DropsLineBreak text.toList token.toList
            ∧ request.Takes stdinParameter
              (Trigger.readerAfter stdinParameter ⟨.ok text, readings⟩ earlier) name token)
        ∧ ((∃ other ∈ earlier, ∃ name, other.Reads stdinParameter name) →
          request.Takes stdinParameter
            (Trigger.readerAfter stdinParameter ⟨.ok text, readings⟩ earlier) name ""))
      ∧ (∀ bytes : ByteArray, ¬ bytes.IsValidUTF8 →
        (Reader.ofBytes bytes).content = .error .notUtf8)
      ∧ ∀ text : String, (Reader.ofBytes text.toUTF8).content = .ok text := by
  refine ⟨fun job supplied reader => ⟨?_, ?_, ?_⟩, ?_, @Reader.content_ofBytes_of_not_valid,
    Reader.content_ofBytes_toUTF8⟩
  · constructor
    · intro hreadings
      by_contra hnot
      rw [resolve_of_not_reads (not_exists.mp hnot)] at hreadings
      omega
    · rintro ⟨name, hreads⟩
      rw [(resolve_of_reads hreads reader).1, Reader.readings_readAll]
  · exact fun hnot => resolve_of_not_reads (not_exists.mp hnot) reader
  · intro name hreads
    refine ⟨(resolve_of_reads hreads reader).2, fun text hcontent => ?_⟩
    rcases reader with ⟨content, readings⟩
    subst hcontent
    exact ⟨_, Trigger.dropsLineBreak_tokenOf text, resolve_eq_supplied_of_reads hreads text readings⟩
  · intro text readings earlier request name hreads
    obtain ⟨hnone, hsome⟩ := Trigger.readerAfter_eq stdinParameter text readings earlier
    constructor
    · intro hall
      rw [hnone hall]
      exact ⟨_, Trigger.dropsLineBreak_tokenOf text,
        Trigger.Request.takes_tokenOf_of_reads hreads text readings⟩
    · intro hearlier
      obtain ⟨count, hempty⟩ := hsome hearlier
      rw [hempty]
      exact Trigger.Request.takes_tokenOf_of_reads hreads "" count

/-- A build that fails for a later parameter has read its reader all the same. -/
theorem everyKind_reads_and_takes :
    everyKind.Reads (some "NOTES") [("OFFSET", "x")] "NOTES"
      ∧ (everyKind.resolve (.commandLine (some "NOTES")) [("OFFSET", "x")]
        ⟨.ok "one\r\r\n", 0⟩).state.readings = 1
      ∧ (∃ token : String, Text.DropsLineBreak "one\r\r\n".toList token.toList
        ∧ (everyKind.resolve (.commandLine (some "NOTES")) [("OFFSET", "x")]
            ⟨.ok "one\r\r\n", 0⟩).result
          = (everyKind.resolve .programmatic [("OFFSET", "x"), ("NOTES", token)] ()).result)
      ∧ (everyKind.resolve (.commandLine (some "NOTES")) [("OFFSET", "x")]
        ⟨.error .notUtf8, 0⟩).result = .error (.unreadable .notUtf8)
      ∧ (Trigger.Request.pendingToken "NOTES").Takes (some "NOTES")
        (Trigger.readerAfter (some "NOTES") ⟨.ok "one", 0⟩
          [.resolve everyKind [("NOTES", "")], .resolve everyKind [("OFFSET", "x")]]) "NOTES" "" := by
  have hreaches : Reaches [("OFFSET", "x")] "NOTES" everyKind.parameters := by
    refine ⟨[_], _, _, rfl, rfl, fun earlier hearlier => ?_⟩
    rw [List.mem_singleton.mp hearlier]
    exact .inr ⟨Supplied.token?_eq_none_iff.mp (by decide), _, rfl⟩
  have hreads : everyKind.Reads (some "NOTES") [("OFFSET", "x")] "NOTES" :=
    ⟨rfl, unknownName?_eq_none_iff.mp (by decide), Supplied.token?_eq_none_iff.mp (by decide),
      hreaches⟩
  obtain ⟨hresolve, hrequests, _⟩ := readings_resolve_iff_and_takes (some "NOTES")
  obtain ⟨hreadings, _, hread⟩ := hresolve everyKind [("OFFSET", "x")] ⟨.ok "one\r\r\n", 0⟩
  have hbroken := (hresolve everyKind [("OFFSET", "x")] ⟨.error .notUtf8, 0⟩).2.2 "NOTES" hreads
  have htakes := hrequests "one" 0 [.resolve everyKind [("NOTES", "")],
    .resolve everyKind [("OFFSET", "x")]] (.pendingToken "NOTES") "NOTES" ⟨rfl, rfl⟩
  refine ⟨hreads, hreadings.mpr ⟨_, hreads⟩, (hread "NOTES" hreads).2 _ rfl, hbroken.1 _ rfl,
    htakes.2 ⟨.resolve everyKind [("OFFSET", "x")], ?_, "NOTES", hreads⟩⟩
  exact List.mem_cons_of_mem _ List.mem_cons_self

end Job

end CiFront
