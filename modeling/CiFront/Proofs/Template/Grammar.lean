import CiFront.Proofs.Number.Numeral
import CiFront.Template
/-!
# The grammar of templates

A template is made of runs of quotes, groups in braces and other characters, and its text is made of theirs
in order. A run is cut into pairs, and one quote that is left over opens or closes a quoted part. Rendering
gives the one text that this grammar allows.
-/

namespace CiFront.Template

/-- Whether the inside of a group names the argument at an index. -/
def Names (body : List Char) (index : Nat) : Prop :=
  ∃ digits, (Text.trim body = digits ∨ Text.trim body = '+' :: digits) ∧ Decimal.Denotes digits index

/-- The text of a template from a point on that is inside quotes or not. -/
inductive Renders (args : List String) : (quoted : Bool) → (template text : List Char) → Prop
  | done {quoted} : Renders args quoted [] []
  | quotes {quoted n rest text} (hrun : 0 < n) (hmaximal : ∀ c ∈ rest.head?, c ≠ '\'')
      (h : Renders args (if n % 2 = 1 then !quoted else quoted) rest text) :
      Renders args quoted (List.replicate n '\'' ++ rest) (List.replicate (n / 2) '\'' ++ text)
  | argument {body rest text index arg} (hbody : '}' ∉ body) (hnames : Names body index)
      (harg : args[index]? = some arg) (h : Renders args false rest text) :
      Renders args false ('{' :: (body ++ '}' :: rest)) (arg.toList ++ text)
  | verbatim {body rest text} (hbody : '}' ∉ body)
      (hnames : ∀ index, Names body index → args.length ≤ index) (h : Renders args false rest text) :
      Renders args false ('{' :: (body ++ '}' :: rest)) ('{' :: (body ++ '}' :: text))
  | unclosed {rest} (hrest : '}' ∉ rest) : Renders args false ('{' :: rest) ('{' :: rest)
  | brace {rest text} (h : Renders args true rest text) :
      Renders args true ('{' :: rest) ('{' :: text)
  | plain {quoted c rest text} (hquote : c ≠ '\'') (hbrace : c ≠ '{')
      (h : Renders args quoted rest text) : Renders args quoted (c :: rest) (c :: text)

/-! ### One part at a time -/

section

variable {args : List (List Char)} {quoted : Bool} {body rest : List Char}

theorem renderFrom_pair :
    renderFrom args quoted ('\'' :: '\'' :: rest) = '\'' :: renderFrom args quoted rest := by
  rw [renderFrom]

theorem renderFrom_quote (h : ∀ c ∈ rest.head?, c ≠ '\'') :
    renderFrom args quoted ('\'' :: rest) = renderFrom args (!quoted) rest := by
  rw [renderFrom]
  intro more hmore
  exact h '\'' (by rw [hmore]; rfl) rfl

theorem renderFrom_quotes (n : Nat) (h : ∀ c ∈ rest.head?, c ≠ '\'') :
    renderFrom args quoted (List.replicate n '\'' ++ rest)
      = List.replicate (n / 2) '\'' ++ renderFrom args (if n % 2 = 1 then !quoted else quoted) rest := by
  induction n using Nat.twoStepInduction with
  | zero => simp
  | one => simp [renderFrom_quote h]
  | more n ih _ =>
    have hhalf : (n + 2) / 2 = n / 2 + 1 := by omega
    have hodd : (n + 2) % 2 = n % 2 := by omega
    rw [List.replicate_succ, List.replicate_succ, List.cons_append, List.cons_append, renderFrom_pair, ih,
      hhalf, hodd, List.replicate_succ, List.cons_append]

theorem renderFrom_brace :
    renderFrom args true ('{' :: rest) = '{' :: renderFrom args true rest := by
  rw [renderFrom, if_pos rfl]

theorem staysOpen_of_not_mem (h : '}' ∉ body) : ∀ c ∈ body, decide (c ≠ '}') = true := by
  intro c hc
  rw [decide_eq_true_eq]
  intro hclose
  exact h (hclose ▸ hc)

theorem renderFrom_group (h : '}' ∉ body) :
    renderFrom args false ('{' :: (body ++ '}' :: rest))
      = group args body ++ renderFrom args false rest := by
  have hopen := staysOpen_of_not_mem h
  have hdrop : (body ++ '}' :: rest).dropWhile (fun c => decide (c ≠ '}')) = '}' :: rest := by
    rw [List.dropWhile_append_of_pos hopen]
    simp
  have htake : (body ++ '}' :: rest).takeWhile (fun c => decide (c ≠ '}')) = body := by
    rw [List.takeWhile_append_of_pos hopen]
    simp
  rw [renderFrom, if_neg Bool.false_ne_true]
  split
  · rename_i hnil
    rw [hdrop] at hnil
    cases hnil
  · rename_i hcons
    rw [hdrop] at hcons
    cases hcons
    rw [htake]

theorem renderFrom_unclosed (h : '}' ∉ rest) :
    renderFrom args false ('{' :: rest) = '{' :: rest := by
  have hdrop : rest.dropWhile (fun c => decide (c ≠ '}')) = [] := by
    rw [← List.append_nil rest, List.dropWhile_append_of_pos (staysOpen_of_not_mem h)]
    rfl
  rw [renderFrom, if_neg Bool.false_ne_true]
  split
  · rfl
  · rename_i hcons
    rw [hdrop] at hcons
    cases hcons

theorem renderFrom_plain {c : Char} (hquote : c ≠ '\'') (hbrace : c ≠ '{') :
    renderFrom args quoted (c :: rest) = c :: renderFrom args quoted rest := by
  rw [renderFrom]
  · exact fun _ h => absurd h hquote
  · exact hquote
  · exact hbrace

end

/-! ### Groups -/

section

variable {args : List String} {body : List Char} {index : Nat}

theorem argument?_eq_some_iff {arg : List Char} :
    argument? (args.map String.toList) body = some arg
      ↔ ∃ index text, Names body index ∧ args[index]? = some text ∧ text.toList = arg := by
  simp only [argument?, Option.bind_eq_some_iff, Decimal.index?_eq_some_iff, List.getElem?_map,
    Option.map_eq_some_iff, Names]
  constructor
  · rintro ⟨index, hnames, text, htext, rfl⟩
    exact ⟨index, text, hnames, htext, rfl⟩
  · rintro ⟨index, text, hnames, htext, rfl⟩
    exact ⟨index, hnames, text, htext, rfl⟩

theorem group_of_names {arg : String} (hnames : Names body index) (harg : args[index]? = some arg) :
    group (args.map String.toList) body = arg.toList := by
  rw [group, argument?_eq_some_iff.mpr ⟨index, arg, hnames, harg, rfl⟩]

theorem group_of_names_none (h : ∀ index, Names body index → args.length ≤ index) :
    group (args.map String.toList) body = '{' :: (body ++ ['}']) := by
  cases harg : argument? (args.map String.toList) body with
  | none => rw [group, harg]; rfl
  | some arg =>
    obtain ⟨index, text, hnames, htext, _⟩ := argument?_eq_some_iff.mp harg
    rw [List.getElem?_eq_none (h index hnames)] at htext
    cases htext

end

/-! ### Whole templates -/

variable {args : List String} {quoted : Bool} {template text : List Char}

theorem Renders.renderFrom_eq (h : Renders args quoted template text) :
    renderFrom (args.map String.toList) quoted template = text := by
  induction h with
  | done => rw [renderFrom]
  | quotes _ hmaximal _ ih => rw [renderFrom_quotes _ hmaximal, ih]
  | argument hbody hnames harg _ ih => rw [renderFrom_group hbody, group_of_names hnames harg, ih]
  | verbatim hbody hnames _ ih =>
    rw [renderFrom_group hbody, group_of_names_none hnames, ih, List.cons_append, List.append_assoc,
      List.singleton_append]
  | unclosed hrest => exact renderFrom_unclosed hrest
  | brace _ ih => rw [renderFrom_brace, ih]
  | plain hquote hbrace _ ih => rw [renderFrom_plain hquote hbrace, ih]

theorem exists_run (s : List Char) :
    ∃ n rest, s = List.replicate n '\'' ++ rest ∧ ∀ c ∈ rest.head?, c ≠ '\'' := by
  induction s with
  | nil => exact ⟨0, [], rfl, by simp⟩
  | cons c s ih =>
    by_cases hc : c = '\''
    · obtain ⟨n, rest, rfl, hmaximal⟩ := ih
      exact ⟨n + 1, rest, by rw [hc]; rfl, hmaximal⟩
    · refine ⟨0, c :: s, rfl, ?_⟩
      intro d hd
      rwa [← Option.some.inj hd]

/-- Whether shorter templates have a text by the grammar. -/
def ShorterRendered (args : List String) (template : List Char) : Prop :=
  ∀ quoted rest, rest.length < template.length → ∃ text, Renders args quoted rest text

theorem ShorterRendered.exists_of_quote {rest : List Char}
    (h : ShorterRendered args ('\'' :: rest)) (quoted : Bool) :
    ∃ text, Renders args quoted ('\'' :: rest) text := by
  obtain ⟨n, more, hrun, hmaximal⟩ := exists_run rest
  have hsplit : '\'' :: rest = List.replicate (n + 1) '\'' ++ more := by
    rw [hrun, List.replicate_succ, List.cons_append]
  have hlt : more.length < ('\'' :: rest).length := by
    rw [hsplit, List.length_append, List.length_replicate]
    omega
  obtain ⟨text, htext⟩ := h (if (n + 1) % 2 = 1 then !quoted else quoted) more hlt
  rw [hsplit]
  exact ⟨_, .quotes (Nat.succ_pos n) hmaximal htext⟩

theorem ShorterRendered.exists_of_group {rest : List Char}
    (h : ShorterRendered args ('{' :: rest)) : ∃ text, Renders args false ('{' :: rest) text := by
  by_cases hclosed : '}' ∈ rest
  · obtain ⟨body, more, rfl, hbody⟩ := List.eq_append_cons_of_mem hclosed
    have hlt : more.length < ('{' :: (body ++ '}' :: more)).length := by
      simp only [List.length_cons, List.length_append]
      omega
    obtain ⟨text, htext⟩ := h false more hlt
    by_cases hnames : ∃ index, Names body index ∧ index < args.length
    · obtain ⟨index, hindex, hin⟩ := hnames
      exact ⟨_, .argument hbody hindex (List.getElem?_eq_getElem hin) htext⟩
    · refine ⟨_, .verbatim hbody ?_ htext⟩
      intro index hindex
      exact Nat.le_of_not_lt fun hin => hnames ⟨index, hindex, hin⟩
  · exact ⟨_, .unclosed hclosed⟩

/-- Every template has a text by the grammar. -/
theorem exists_renders (args : List String) (quoted : Bool) (template : List Char) :
    ∃ text, Renders args quoted template text := by
  -- A part takes any number of characters, so the induction is on the length of the template.
  induction hlength : template.length using Nat.strongRecOn generalizing quoted template with
  | _ n ih =>
    have hshorter : ShorterRendered args template :=
      fun quoted rest hlt => ih rest.length (hlength ▸ hlt) quoted rest rfl
    cases template with
    | nil => exact ⟨[], .done⟩
    | cons c rest =>
      by_cases hquote : c = '\''
      · subst hquote
        exact hshorter.exists_of_quote quoted
      · obtain ⟨text, htext⟩ := hshorter quoted rest (Nat.lt_succ_self rest.length)
        by_cases hbrace : c = '{'
        · subst hbrace
          cases quoted with
          | false => exact hshorter.exists_of_group
          | true => exact ⟨_, .brace htext⟩
        · exact ⟨_, .plain hquote hbrace htext⟩

theorem renderFrom_eq_iff_renders :
    renderFrom (args.map String.toList) quoted template = text
      ↔ Renders args quoted template text := by
  constructor
  · intro h
    obtain ⟨other, hother⟩ := exists_renders args quoted template
    rwa [← h, hother.renderFrom_eq]
  · exact Renders.renderFrom_eq

/-- Without quotes and without arguments there is nothing to replace. -/
theorem Renders.eq_of_not_mem (h : Renders [] false template text) (hquote : '\'' ∉ template) :
    text = template := by
  generalize hquoted : false = quoted at h
  induction h with
  | done => rfl
  | quotes hrun _ _ _ =>
    rw [List.mem_append, List.mem_replicate] at hquote
    exact absurd (.inl ⟨Nat.ne_of_gt hrun, rfl⟩) hquote
  | argument _ _ harg _ _ => cases harg
  | verbatim _ _ _ ih =>
    rw [List.mem_cons, List.mem_append, List.mem_cons] at hquote
    rw [ih (fun hmem => hquote (.inr (.inr (.inr hmem)))) hquoted]
  | unclosed _ => rfl
  | brace _ _ => cases hquoted
  | plain _ _ _ ih =>
    rw [List.mem_cons, not_or] at hquote
    rw [ih hquote.2 hquoted]

/-- **Rendering gives the text of the grammar.** The text of a template with some arguments is the one
that the grammar allows. A template without quotes is its own text if there are no arguments. -/
theorem render_eq_iff_renders_and_render_nil (template : String) (args : List String) :
    (∀ text, render template args = text ↔ Renders args false template.toList text.toList)
      ∧ ('\'' ∉ template.toList → render template [] = template) := by
  have hrenders (args : List String) (text : String) :
      render template args = text ↔ Renders args false template.toList text.toList := by
    rw [← renderFrom_eq_iff_renders, render]
    constructor
    · intro h
      rw [← h, String.toList_ofList]
    · intro h
      rw [h, String.ofList_toList]
  refine ⟨hrenders args, ?_⟩
  intro hquote
  have hnone := (hrenders [] (render template [])).mp rfl
  exact String.toList_injective (hnone.eq_of_not_mem hquote)

theorem render_runs_and_groups :
    Renders ["a", "'\x7b0\x7d"] false "'''\x7b0\x7d''' \x7b +01 \x7d\x7b'2\x7d\x7b0".toList
        "'\x7b0\x7d' '\x7b0\x7d\x7b'2\x7d\x7b0".toList
      ∧ '\'' ∉ "\x7b3\x7d stays".toList
      ∧ render "\x7b3\x7d stays" [] = "\x7b3\x7d stays" := by
  have hplain : '\'' ∉ "\x7b3\x7d stays".toList := by decide
  refine ⟨?_, hplain, (render_eq_iff_renders_and_render_nil "\x7b3\x7d stays" []).2 hplain⟩
  refine ((render_eq_iff_renders_and_render_nil _ ["a", "'\x7b0\x7d"]).1 _).mp ?_
  cbv

end CiFront.Template
