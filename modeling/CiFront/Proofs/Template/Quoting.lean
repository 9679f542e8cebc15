import CiFront.Proofs.Template.Grammar
import CiFront.Proofs.Text.Strip
/-!
# Every text has a template

A text is quoted by doubling its quotes and, from its first brace on, putting it between quotes. The doubled
quotes run into the added ones, so a run in the template may have any length. Read from the left, a doubled
quote is taken before what follows it is looked at, and an added one is what is left of its run.
-/

namespace CiFront.Template

/-- The template of a text: quotes doubled, and from the first brace on between quotes. -/
inductive Quotes : (text template : List Char) → Prop
  | plain {text} (h : '{' ∉ text) : Quotes text (doubleQuotes text)
  | braced {front rest} (h : '{' ∉ front) :
      Quotes (front ++ '{' :: rest) (doubleQuotes front ++ '\'' :: '{' :: (doubleQuotes rest ++ ['\'']))

variable {args : List (List Char)} {quoted : Bool} {s rest template : List Char}

/-! ### Doubled quotes -/

theorem doubleQuotes_quote : doubleQuotes ('\'' :: s) = '\'' :: '\'' :: doubleQuotes s :=
  rfl

theorem doubleQuotes_cons_of_ne {c : Char} (h : c ≠ '\'') : doubleQuotes (c :: s) = c :: doubleQuotes s := by
  rw [doubleQuotes, List.flatMap_cons, if_neg h, List.singleton_append, doubleQuotes]

/-- Text with doubled quotes stands for itself, whatever comes behind it, where braces do too. -/
theorem renderFrom_doubleQuotes_append (h : quoted = true ∨ '{' ∉ s) :
    renderFrom args quoted (doubleQuotes s ++ rest) = s ++ renderFrom args quoted rest := by
  -- `rest` may begin with a quote. Pairs are taken from the left, so `s` leaves no quote over for it.
  induction s with
  | nil => rfl
  | cons c s ih =>
    have htail : quoted = true ∨ '{' ∉ s := h.imp_right fun hnone hmem => hnone (List.mem_cons_of_mem c hmem)
    by_cases hquote : c = '\''
    · rw [hquote, doubleQuotes_quote, List.cons_append, List.cons_append, renderFrom_pair, ih htail,
        List.cons_append]
    rw [doubleQuotes_cons_of_ne hquote, List.cons_append, List.cons_append]
    by_cases hbrace : c = '{'
    · obtain rfl | hnone := h
      · rw [hbrace, renderFrom_brace, ih htail]
      · exact absurd (hbrace ▸ List.mem_cons_self) hnone
    · rw [renderFrom_plain hquote hbrace, ih htail]

theorem Quotes.renderFrom_eq (h : Quotes s template) : renderFrom args false template = s := by
  cases h with
  | plain h =>
    have hplain : renderFrom args false (doubleQuotes s ++ []) = s ++ renderFrom args false [] :=
      renderFrom_doubleQuotes_append (.inr h)
    rwa [List.append_nil, renderFrom, List.append_nil] at hplain
  | @braced front rest h =>
    have hopened : renderFrom args false ('\'' :: '{' :: (doubleQuotes rest ++ ['\'']))
        = '{' :: renderFrom args true (doubleQuotes rest ++ ['\'']) := by
      rw [renderFrom_quote (by simp), Bool.not_false, renderFrom_brace]
    have hclosed : renderFrom args true ['\''] = [] := by
      rw [renderFrom_quote (by simp), renderFrom]
    rw [renderFrom_doubleQuotes_append (.inr h), hopened, renderFrom_doubleQuotes_append (.inl rfl), hclosed,
      List.append_nil]

/-! ### The template of a text -/

theorem staysPlain_of_not_mem (h : '{' ∉ s) : ∀ c ∈ s, decide (c ≠ '{') = true := by
  intro c hc
  rw [decide_eq_true_eq]
  rintro rfl
  exact h hc

theorem Quotes.toList_quote {text : String} (h : Quotes text.toList template) :
    (quote text).toList = template := by
  generalize htext : text.toList = s at h
  cases h with
  | plain h =>
    obtain ⟨htake, hdrop⟩ := Text.takeWhile_eq_and_dropWhile_eq_iff.mpr
      ⟨(List.append_nil s).symm, staysPlain_of_not_mem h, nofun⟩
    rw [quote, htext]
    simp only [htake, hdrop, String.toList_ofList]
  | @braced front rest h =>
    obtain ⟨htake, hdrop⟩ := Text.takeWhile_eq_and_dropWhile_eq_iff.mpr
      ⟨Eq.refl (front ++ '{' :: rest), staysPlain_of_not_mem h, by simp⟩
    rw [quote, htext]
    simp only [htake, hdrop, String.toList_ofList, List.append_assoc, List.cons_append,
      doubleQuotes_cons_of_ne (show '{' ≠ '\'' by decide)]

theorem exists_quotes (s : List Char) : ∃ template, Quotes s template := by
  by_cases hbrace : '{' ∈ s
  · obtain ⟨front, rest, rfl, hfront⟩ := List.eq_append_cons_of_mem hbrace
    exact ⟨_, .braced hfront⟩
  · exact ⟨_, .plain hbrace⟩

theorem quote_eq_iff_quotes {text template : String} :
    quote text = template ↔ Quotes text.toList template.toList := by
  constructor
  · rintro rfl
    obtain ⟨other, hother⟩ := exists_quotes text.toList
    rwa [hother.toList_quote]
  · exact fun h => String.toList_injective h.toList_quote

/-- **Every text has a template.** The template of a text has its quotes doubled and, if the text has a
brace, one more quote in front of the first brace and one at the end. With whatever arguments, the text of
the template is the one that it was made of. -/
theorem quote_eq_iff_and_render_quote (text : String) :
    (∀ template, quote text = template ↔ Quotes text.toList template.toList)
      ∧ ∀ args, render (quote text) args = text := by
  refine ⟨fun template => quote_eq_iff_quotes, fun args => ?_⟩
  have hquotes : Quotes text.toList (quote text).toList := quote_eq_iff_quotes.mp rfl
  rw [render, hquotes.renderFrom_eq, String.ofList_toList]

example : quote "'\x7b0\x7d'" = "'''\x7b0\x7d'''" := by decide

end CiFront.Template
