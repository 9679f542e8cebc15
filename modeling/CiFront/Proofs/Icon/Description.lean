import CiFront.Icon.Ball
import CiFront.Proofs.Bundle.History
/-!
# Balls are described

Nothing is ever taken out of a bundle, and the root table serves every locale. The stock descriptions
have one for every ball, so a bundle that starts from them describes every ball for every locale, with a
template and not with the key.
-/

namespace CiFront

namespace Bundle

variable {bundle : Bundle} {tag key : String}

/-! ### What was written stays written -/

theorem holds_apply (h : Holds bundle.records tag key) (call : Call) :
    Holds (call.apply bundle).records tag key := by
  obtain ⟨template, hmem⟩ := h
  refine ⟨template, ?_⟩
  rw [records_apply]
  exact List.mem_append_left _ hmem

theorem holds_run (h : Holds bundle.records tag key) (history : List Call) :
    Holds (run bundle history).records tag key := by
  induction history generalizing bundle with
  | nil => exact h
  | cons call rest ih => exact ih (holds_apply h call)

theorem empty_mem_servingTags (locale : Locale) : "" ∈ servingTags locale := by
  rw [servingTags]
  split <;> simp

theorem exists_lookup_eq_some_of_holds (h : Holds bundle.records "" key) (locale : Locale) :
    ∃ template, bundle.lookup key locale = some template := by
  rw [← Option.ne_none_iff_exists', ne_eq, lookup_eq_none_iff]
  intro hnone
  exact hnone "" (empty_mem_servingTags locale) h

theorem format_of_lookup {template : String} {locale : Locale}
    (h : bundle.lookup key locale = some template) (args : List String) :
    bundle.format key args locale = Template.render template args
      ∧ bundle.formatEvents key locale = [] := by
  rw [format, formatEvents, h]
  exact ⟨rfl, rfl⟩

theorem holds_builtin_of_mem_stockRoot (h : key ∈ stockRoot.map Prod.fst) :
    Holds builtin.records "" key := by
  obtain ⟨entry, hentry, rfl⟩ := List.mem_map.mp h
  refine ⟨entry.2, ?_⟩
  rw [records_builtin, Start.records, List.mem_flatMap]
  exact ⟨(none, stockRoot), List.mem_cons_self, List.mem_map.mpr ⟨entry, hentry, rfl⟩⟩

end Bundle

namespace Icon.Ball

theorem key_description_mem_stockRoot (ball : Ball) :
    ball.description.key ∈ Bundle.stockRoot.map Prod.fst := by
  rcases ball with ⟨tone, animated⟩
  cases animated with
  | false => cases tone <;> decide
  | true => exact (by decide : "ball.in_progress" ∈ Bundle.stockRoot.map Prod.fst)

/-- **Balls are always described.** Whatever is written to the stock descriptions, every ball has a
template for every locale, and its icon is described by the text of that template. -/
theorem describe_toStatus_run (history : List Bundle.Call) (ball : Ball) (locale : Locale) :
    ∃ template, (Bundle.run .builtin history).lookup ball.description.key locale = some template
      ∧ ball.toStatus.describe (Bundle.run .builtin history) locale = Template.render template []
      ∧ (Bundle.run .builtin history).formatEvents ball.description.key locale = [] := by
  have hstock := Bundle.holds_builtin_of_mem_stockRoot ball.key_description_mem_stockRoot
  obtain ⟨template, htemplate⟩ :=
    Bundle.exists_lookup_eq_some_of_holds (Bundle.holds_run hstock history) locale
  obtain ⟨htext, hevents⟩ := Bundle.format_of_lookup htemplate []
  exact ⟨template, htemplate, htext, hevents⟩

end Icon.Ball

end CiFront
