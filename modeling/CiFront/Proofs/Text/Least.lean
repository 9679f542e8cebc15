import CiFront.Text.Case
import Mathlib.Data.String.Basic
/-!
# The least text of a list

The least text is a member of the list that no member comes before. It depends on what the list
holds and not on how often or in which order.
-/

namespace CiFront.Text

theorem least?_eq_min? (texts : List String) : least? texts = texts.min? := by
  induction texts with
  | nil => rfl
  | cons s rest ih =>
    rw [least?, ih, List.min?_cons]
    cases rest.min? with
    | none => rfl
    | some least =>
      dsimp only [Option.elim]
      split
      · rename_i hlt
        rw [min_eq_right hlt.le]
      · rename_i hle
        rw [min_eq_left (not_lt.mp hle)]

theorem least?_eq_some_iff {texts : List String} {s : String} :
    least? texts = some s ↔ s ∈ texts ∧ ∀ t ∈ texts, s ≤ t := by
  rw [least?_eq_min?, List.min?_eq_some_iff]

theorem least?_eq_none_iff {texts : List String} : least? texts = none ↔ texts = [] := by
  rw [least?_eq_min?, List.min?_eq_none_iff]

theorem least?_congr {texts others : List String} (h : ∀ s, s ∈ texts ↔ s ∈ others) :
    least? texts = least? others := by
  apply Option.ext
  intro s
  simp only [least?_eq_some_iff, h]

end CiFront.Text
