import CiFront.Proofs.Job.Reading
import CiFront.Proofs.Job.Secrecy
/-!
# What is logged of a password that is read

A build whose password is read from the command line logs the same events whatever the password is, but
for one number: the event of the reading itself tells how many bytes were read. What comes before the
reading does not see the reader, and what comes after it sees the password only as one more value.
-/

namespace CiFront

/-! ### What a log shows -/

namespace Log.Event

/-- What a log shows of an event: its level, the module that emits it, its message and its fields. -/
def shown (event : Event) : Level × String × List (String × Json) :=
  (event.level, event.source, event.allFields)

/-- What a log shows of an event besides how many bytes were read. -/
def shownBesidesSize (event : Event) : Level × String × List (String × Json) :=
  (event.level, event.source, event.allFields.filter fun field => field.1 != "bytes")

theorem shown_readToken_eq_iff {name : String} {bytes bytes' : Nat} :
    (readToken name bytes).shown = (readToken name bytes').shown ↔ bytes = bytes' := by
  simp [shown, level, source, allFields, message, fields]

theorem shownBesidesSize_readToken (name : String) (bytes bytes' : Nat) :
    (readToken name bytes).shownBesidesSize = (readToken name bytes').shownBesidesSize := rfl

end Log.Event

/-! ### Attempts that see no state, and attempts that read once -/

namespace Attempt

variable {σ α β γ δ : Type} {name : String}

theorem bind_pure_apply (first : Attempt σ α) (f : α → β) (s : σ) :
    (first >>= fun a => pure (f a)) s
      = ⟨(first s).result.map f, (first s).state, (first s).events⟩ := by
  rcases hfirst : first s with ⟨_ | a, t, events⟩
  · rw [bind_of_error hfirst]
    rfl
  · rw [bind_of_ok hfirst, pure_apply, List.append_nil]
    rfl

/-- An attempt that leaves the state alone and comes to the same whatever the state is. -/
def IsBlind (attempt : Attempt σ α) : Prop :=
  ∃ result events, ∀ s, attempt s = ⟨result, s, events⟩

/-- An attempt that empties a reader and logs the size of what it read. What it logs besides, and what a
view lets through of its result, is the same whatever the reader held. -/
def ReadsOnce (attempt : Attempt Reader α) (name : String) (view : α → β) : Prop :=
  ∃ seen before after, ∀ text readings, ∃ result : Except Parameter.Error α, result.map view = seen
    ∧ attempt ⟨.ok text, readings⟩
      = ⟨result, ⟨.ok "", readings + 1⟩, before ++ .readToken name text.utf8ByteSize :: after⟩

theorem isBlind_pure (a : α) : (pure a : Attempt σ α).IsBlind :=
  ⟨_, _, pure_apply a⟩

theorem isBlind_log (event : Log.Event) : (log event : Attempt σ Unit).IsBlind :=
  ⟨_, _, log_apply event⟩

theorem isBlind_ofExcept (result : Except Parameter.Error α) :
    (ofExcept result : Attempt σ α).IsBlind :=
  ⟨_, _, ofExcept_apply result⟩

theorem IsBlind.bind {first : Attempt σ α} {next : α → Attempt σ β} (hfirst : first.IsBlind)
    (hnext : ∀ a, (∀ s, (first s).result = .ok a) → (next a).IsBlind) : (first >>= next).IsBlind := by
  obtain ⟨result, events, hfirst⟩ := hfirst
  cases result with
  | error error => exact ⟨_, _, fun s => bind_of_error (hfirst s)⟩
  | ok a =>
    obtain ⟨result, more, hnext⟩ := hnext a fun s => by rw [hfirst s]
    refine ⟨result, events ++ more, fun s => ?_⟩
    rw [bind_of_ok (hfirst s), hnext s]

theorem IsBlind.bind_readsOnce {first : Attempt Reader α} {next : α → Attempt Reader β}
    {view : β → γ} (hfirst : first.IsBlind) (hok : ∃ a, ∀ s, (first s).result = .ok a)
    (hnext : ∀ a, (next a).ReadsOnce name view) : (first >>= next).ReadsOnce name view := by
  obtain ⟨result, events, hfirst⟩ := hfirst
  obtain ⟨a, ha⟩ := hok
  obtain ⟨seen, before, after, hread⟩ := hnext a
  refine ⟨seen, events ++ before, after, fun text readings => ?_⟩
  obtain ⟨found, hfound, hrun⟩ := hread text readings
  have hresult := ha ⟨.ok text, readings⟩
  rw [hfirst] at hresult
  cases hresult
  refine ⟨found, hfound, ?_⟩
  rw [bind_of_ok (hfirst _), hrun, List.append_assoc]

/-- The reading may come before steps that do not see the reader, and that see of what was read no more
than the view lets through. -/
theorem ReadsOnce.bind {first : Attempt Reader α} {next : α → Attempt Reader β} {view : α → γ}
    {view' : β → δ} (hfirst : first.ReadsOnce name view)
    (hnext : ∀ c, ∃ seen events, ∀ a, view a = c → ∀ s, ∃ result : Except Parameter.Error β,
      result.map view' = seen ∧ next a s = ⟨result, s, events⟩) :
    (first >>= next).ReadsOnce name view' := by
  obtain ⟨seen, before, after, hfirst⟩ := hfirst
  cases seen with
  | error error =>
    refine ⟨.error error, before, after, fun text readings => ?_⟩
    obtain ⟨result, hseen, hrun⟩ := hfirst text readings
    cases result with
    | ok a => cases hseen
    | error error' =>
      cases hseen
      exact ⟨_, rfl, bind_of_error hrun⟩
  | ok c =>
    obtain ⟨seen, more, hnext⟩ := hnext c
    refine ⟨seen, before, after ++ more, fun text readings => ?_⟩
    obtain ⟨result, hseen, hrun⟩ := hfirst text readings
    cases result with
    | error error => cases hseen
    | ok a =>
      obtain ⟨found, hfound, hmore⟩ := hnext a (Except.ok.inj hseen) ⟨.ok "", readings + 1⟩
      refine ⟨found, hfound, ?_⟩
      rw [bind_of_ok hrun, hmore, List.append_assoc, List.cons_append]

end Attempt

/-! ### One parameter -/

namespace Parameter

variable {σ : Type} {parameter : Parameter} {supplied : Supplied} {stdinParameter : Option String}

theorem isBlind_convertLogged (parameter : Parameter) (token : String) :
    (parameter.convertLogged token : Attempt σ Value).IsBlind :=
  (Attempt.isBlind_log _).bind fun _ _ => Attempt.isBlind_ofExcept _

theorem isBlind_resolveDefault (parameter : Parameter) :
    (parameter.resolveDefault : Attempt σ Value).IsBlind :=
  ⟨_, _, resolveDefault_apply parameter⟩

/-- A parameter that nothing is read for does not see the reader. -/
theorem isBlind_resolve_of_notRead
    (h : stdinParameter = some parameter.name → supplied.Names parameter.name) :
    (parameter.resolve (.commandLine stdinParameter) (supplied.token? parameter.name)).IsBlind := by
  cases htoken : supplied.token? parameter.name with
  | some token => exact parameter.isBlind_convertLogged token
  | none =>
    have hne : stdinParameter ≠ some parameter.name := fun heq =>
      Supplied.token?_eq_none_iff.mp htoken (h heq)
    refine Attempt.IsBlind.bind ⟨_, _, Trigger.pendingToken_commandLine_of_ne hne⟩ fun token _ => ?_
    cases token with
    | some token => exact parameter.isBlind_convertLogged token
    | none => exact parameter.isBlind_resolveDefault

theorem readsOnce_resolve_of_isPassword (hkind : parameter.kind.IsPassword)
    (hnames : ¬ supplied.Names parameter.name) :
    (parameter.resolve (.commandLine (some parameter.name))
      (supplied.token? parameter.name)).ReadsOnce parameter.name fun _ => () := by
  refine ⟨.ok (), [], [.convertingToken parameter.name parameter.kind.name],
    fun text readings => ?_⟩
  have hasked : (Trigger.commandLine (some parameter.name)).pendingToken parameter.name
      ⟨.ok text, readings⟩ = ⟨.ok (some (Trigger.tokenOf text)), ⟨.ok "", readings + 1⟩,
        [.readToken parameter.name text.utf8ByteSize]⟩ := by
    simp only [Trigger.commandLine, if_true]
    rfl
  rw [Supplied.token?_eq_none_iff.mpr hnames, resolve, Attempt.bind_of_ok hasked]
  dsimp only
  rw [convertLogged, Attempt.bind_of_ok (Attempt.log_apply _ _), Attempt.ofExcept_apply,
    convert_password hkind]
  exact ⟨_, rfl, rfl⟩

end Parameter

/-! ### The parameters of a job -/

namespace Job

variable {supplied : Supplied} {name : String} {parameter : Parameter}
  {parameters rest : List Parameter}

theorem settles_of_resolve_eq_ok {value : Parameter.Value}
    (hread : some name = some parameter.name → supplied.Names parameter.name)
    (h : ∀ reader, (parameter.resolve (.commandLine (some name)) (supplied.token? parameter.name)
      reader).result = .ok value) : parameter.Settles supplied := by
  have hresult := (Parameter.resolve_commandLine_of_notRead supplied hread ⟨.ok "", 0⟩).1
  exact Parameter.exists_resolve_eq_ok_iff_settles.mp ⟨value, hresult.symm.trans (h _)⟩

theorem isBlind_resolveAll (h : ¬ supplied.Names name → ¬ Reaches supplied name parameters) :
    (resolveAll (.commandLine (some name)) supplied parameters).IsBlind := by
  induction parameters with
  | nil => exact Attempt.isBlind_pure []
  | cons parameter rest ih =>
    have hread : some name = some parameter.name → supplied.Names parameter.name := by
      rintro ⟨⟩
      by_contra hnames
      exact h hnames (reaches_cons.mpr (.inl rfl))
    refine (Parameter.isBlind_resolve_of_notRead hread).bind fun value hvalue => ?_
    -- The rest is resolved only once this parameter has its value, and then what is reached in the
    -- rest is reached in the whole.
    refine (ih fun hnames hreaches => ?_).bind fun values _ => Attempt.isBlind_pure _
    exact h hnames (reaches_cons.mpr (.inr ⟨settles_of_resolve_eq_ok hread hvalue, hreaches⟩))

theorem readsOnce_resolveAll_cons_of_name_eq (hname : parameter.name = name)
    (hkind : parameter.kind.IsPassword) (hnames : ¬ supplied.Names name)
    (hnot : ¬ Reaches supplied name rest) :
    (resolveAll (.commandLine (some name)) supplied (parameter :: rest)).ReadsOnce name
      List.length := by
  subst hname
  obtain ⟨result, events, hrest⟩ := isBlind_resolveAll fun _ => hnot
  refine (Parameter.readsOnce_resolve_of_isPassword hkind hnames).bind fun _ => ?_
  refine ⟨result.map fun values => values.length + 1, events, fun value _ reader => ?_⟩
  rw [Attempt.bind_pure_apply, hrest]
  refine ⟨_, ?_, rfl⟩
  cases result <;> rfl

theorem readsOnce_resolveAll_cons_of_name_ne (hname : parameter.name ≠ name)
    (hsettles : parameter.Settles supplied)
    (hrest : (resolveAll (.commandLine (some name)) supplied rest).ReadsOnce name List.length) :
    (resolveAll (.commandLine (some name)) supplied (parameter :: rest)).ReadsOnce name
      List.length := by
  obtain ⟨value, hvalue⟩ := Parameter.exists_resolve_eq_ok_iff_settles.mpr hsettles
  have hread : some name = some parameter.name → supplied.Names parameter.name := fun heq =>
    absurd (Option.some.inj heq).symm hname
  have hblind := Parameter.isBlind_resolve_of_notRead hread
  refine hblind.bind_readsOnce ⟨value, fun reader => ?_⟩ fun first => hrest.bind fun count => ?_
  · exact (Parameter.resolve_commandLine_of_name_ne supplied hname reader).1.trans hvalue
  · refine ⟨.ok (count + 1), [], fun values hcount reader => ⟨.ok (first :: values), ?_, rfl⟩⟩
    rw [Except.map, List.length_cons, hcount]

/-- A password that is read for is read once, and of its value no more is seen than that it is there. -/
theorem readsOnce_resolveAll (hnames : ¬ supplied.Names name)
    (hnodup : (parameters.map (·.name)).Nodup)
    (hsecret : ∀ p ∈ parameters, p.name = name → p.kind.IsPassword)
    (hreaches : Reaches supplied name parameters) :
    (resolveAll (.commandLine (some name)) supplied parameters).ReadsOnce name List.length := by
  induction parameters with
  | nil =>
    obtain ⟨before, _, _, hnil, _⟩ := hreaches
    exact absurd hnil (by simp)
  | cons parameter rest ih =>
    by_cases hname : parameter.name = name
    · refine readsOnce_resolveAll_cons_of_name_eq hname (hsecret _ List.mem_cons_self hname) hnames ?_
      -- Names are distinct, so that nothing after it is read for.
      rintro ⟨before, other, after, rfl, hother, _⟩
      exact name_ne_of_nodup hnodup (by simp) (hother.trans hname.symm)
    · obtain ⟨hsettles, hrest⟩ := (reaches_cons.mp hreaches).resolve_left hname
      exact readsOnce_resolveAll_cons_of_name_ne hname hsettles
        (ih (List.nodup_cons.mp hnodup).2 (fun p hp => hsecret p (List.mem_cons_of_mem _ hp)) hrest)

/-! ### Jobs -/

variable {job : Job}

theorem isBlind_resolve_of_not_reads (h : ¬ job.Reads (some name) supplied name) :
    (job.resolve (.commandLine (some name)) supplied).IsBlind := by
  rw [resolve]
  split
  next unknown _ => exact ⟨_, _, Attempt.fail_apply _⟩
  next hunknown =>
    have hdefines := unknownName?_eq_none_iff.mp hunknown
    have hblind : (resolveAll (.commandLine (some name)) supplied job.parameters).IsBlind :=
      isBlind_resolveAll fun hnames hreaches => h ⟨rfl, hdefines, hnames, hreaches⟩
    exact hblind.bind fun values _ => (Attempt.isBlind_log _).bind fun _ _ => Attempt.isBlind_pure _

theorem readsOnce_resolve_of_reads (hsecret : job.IsSecret name)
    (h : job.Reads (some name) supplied name) :
    (job.resolve (.commandLine (some name)) supplied).ReadsOnce name List.length := by
  obtain ⟨_, hdefines, hnames, hreaches⟩ := h
  have hall : (resolveAll (.commandLine (some name)) supplied job.parameters).ReadsOnce name
      List.length := by
    refine readsOnce_resolveAll hnames job.nodup (fun p hp heq => ?_) hreaches
    exact isPassword_of_isSecret hp (heq ▸ hsecret)
  have hunknown : job.unknownName? (Trigger.commandLine (some name)).heldNames supplied = none :=
    unknownName?_eq_none_iff.mpr hdefines
  rw [resolve, hunknown]
  refine hall.bind fun count => ⟨.ok count, [.resolvedParameters "cli" count], ?_⟩
  rintro values rfl reader
  exact ⟨.ok values, rfl, rfl⟩

/-- What is logged of a build on the command line that has a reader for the named parameter. -/
def eventsReading (job : Job) (name : String) (supplied : Supplied) (reader : Reader) :
    List Log.Event :=
  (job.resolve (.commandLine (some name)) supplied reader).events

/-- **A log tells no more of a password than how long it is.** Two builds that differ in what a password
is read from log the same, level by level and field by field, but for the number of bytes that were read.
So their logs are the same if and only if the password was not read or had as many bytes in the one as in
the other; and events graver than those for debugging are always the same. -/
theorem shown_eventsReading_eq_iff (job : Job) (name : String) (hsecret : job.IsSecret name)
    (supplied : Supplied) (text text' : String) (readings readings' : Nat) :
    ((job.eventsReading name supplied ⟨.ok text, readings⟩).map Log.Event.shown
        = (job.eventsReading name supplied ⟨.ok text', readings'⟩).map Log.Event.shown
      ↔ (job.Reads (some name) supplied name → text.utf8ByteSize = text'.utf8ByteSize))
    ∧ (job.eventsReading name supplied ⟨.ok text, readings⟩).map Log.Event.shownBesidesSize
      = (job.eventsReading name supplied ⟨.ok text', readings'⟩).map Log.Event.shownBesidesSize
    ∧ (job.eventsReading name supplied ⟨.ok text, readings⟩).filter (·.level ≠ .debug)
      = (job.eventsReading name supplied ⟨.ok text', readings'⟩).filter (·.level ≠ .debug) := by
  rw [eventsReading, eventsReading]
  by_cases hreads : job.Reads (some name) supplied name
  · obtain ⟨_, before, after, hruns⟩ := readsOnce_resolve_of_reads hsecret hreads
    obtain ⟨_, _, hrun⟩ := hruns text readings
    obtain ⟨_, _, hrun'⟩ := hruns text' readings'
    rw [hrun, hrun']
    refine ⟨?_, ?_, ?_⟩
    · simp only [List.map_append, List.map_cons, List.append_cancel_left_eq, List.cons.injEq, and_true,
        Log.Event.shown_readToken_eq_iff, hreads, forall_const]
    · rw [List.map_append, List.map_append, List.map_cons, List.map_cons,
        Log.Event.shownBesidesSize_readToken]
    · rw [List.filter_append, List.filter_append]
      rfl
  · obtain ⟨_, _, hruns⟩ := isBlind_resolve_of_not_reads hreads
    rw [hruns, hruns]
    exact ⟨⟨fun _ h => absurd h hreads, fun _ => rfl⟩, rfl, rfl⟩

/-- The line break counts, and so does a byte of a character that takes several. -/
theorem guarded_shown_eventsReading :
    (guarded ⟨"a"⟩).IsSecret "TOKEN"
      ∧ (guarded ⟨"a"⟩).Reads (some "TOKEN") [("PIN", "1")] "TOKEN"
      ∧ ((guarded ⟨"a"⟩).eventsReading "TOKEN" [("PIN", "1")] ⟨.ok "hunter2", 0⟩).map Log.Event.shown
        ≠ ((guarded ⟨"a"⟩).eventsReading "TOKEN" [("PIN", "1")] ⟨.ok "hunter2\n", 0⟩).map
          Log.Event.shown
      ∧ ((guarded ⟨"a"⟩).eventsReading "TOKEN" [("PIN", "1")] ⟨.ok "é", 0⟩).map Log.Event.shown
        = ((guarded ⟨"a"⟩).eventsReading "TOKEN" [("PIN", "1")] ⟨.ok "a\n", 0⟩).map
          Log.Event.shown := by
  have hsecret : (guarded ⟨"a"⟩).IsSecret "TOKEN" := ⟨_, List.mem_cons_self, rfl, none, rfl⟩
  have hreads : (guarded ⟨"a"⟩).Reads (some "TOKEN") [("PIN", "1")] "TOKEN" :=
    ⟨rfl, unknownName?_eq_none_iff.mp (by decide), Supplied.token?_eq_none_iff.mp (by decide),
      reaches_cons.mpr (.inl rfl)⟩
  have hsizes := shown_eventsReading_eq_iff (guarded ⟨"a"⟩) "TOKEN" hsecret [("PIN", "1")]
  refine ⟨hsecret, hreads, fun heq => ?_, (hsizes "é" "a\n" 0 0).1.mpr fun _ => rfl⟩
  exact absurd ((hsizes "hunter2" "hunter2\n" 0 0).1.mp heq hreads) (by decide)

end Job

end CiFront
