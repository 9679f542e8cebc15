import CiFront.Proofs.Text.Hex
import CiFront.Text.Quoted
import Mathlib.Data.List.TakeWhile
/-!
# Quoted text can be read back

Each character is written between the quotes in a way that tells it from all others, whatever follows
it. So different texts are quoted differently.
-/

namespace CiFront.Text

/-- Reads one character as it is written between quotes, and leaves the rest. -/
def readQuotedChar? : List Char → Option (Char × List Char)
  | [] => none
  | '\\' :: '"' :: rest => some ('"', rest)
  | '\\' :: '\\' :: rest => some ('\\', rest)
  | '\\' :: 'n' :: rest => some ('\n', rest)
  | '\\' :: 'r' :: rest => some ('\r', rest)
  | '\\' :: 't' :: rest => some ('\t', rest)
  | '\\' :: '0' :: rest => some ('\x00', rest)
  | '\\' :: 'u' :: '\x7b' :: rest =>
    (Hex.value? (rest.takeWhile (· != '\x7d'))).map fun point =>
      (Char.ofNat point, (rest.dropWhile (· != '\x7d')).tail)
  | c :: rest => some (c, rest)

theorem readQuotedChar?_of_ne {c : Char} (h : c ≠ '\\') (rest : List Char) :
    readQuotedChar? (c :: rest) = some (c, rest) := by
  rw [readQuotedChar?]
  all_goals
    intros
    exact h ‹_›

theorem readQuotedChar?_codePoint (point : Nat) (rest : List Char) :
    readQuotedChar? ('\\' :: 'u' :: '\x7b' :: (Hex.digits point ++ '\x7d' :: rest))
      = some (Char.ofNat point, rest) := by
  have hdigit : ∀ c ∈ Hex.digits point, (c != '\x7d') = true := by
    have hall : ∀ c ∈ Hex.alphabet, (c != '\x7d') = true := List.all_eq_true.mp (by decide)
    exact fun c hc => hall c (Hex.forall_mem_digits point c hc)
  have htake : (Hex.digits point ++ '\x7d' :: rest).takeWhile (· != '\x7d') = Hex.digits point := by
    rw [List.takeWhile_append_of_pos hdigit, List.takeWhile_cons_of_neg (by decide), List.append_nil]
  have hdrop : (Hex.digits point ++ '\x7d' :: rest).dropWhile (· != '\x7d') = '\x7d' :: rest := by
    rw [List.dropWhile_append_of_pos hdigit, List.dropWhile_cons_of_neg (by decide)]
  rw [readQuotedChar?, htake, hdrop, Hex.value?_digits]
  rfl

theorem readQuotedChar?_quotedChar (c : Char) (rest : List Char) :
    readQuotedChar? (quotedChar c ++ rest) = some (c, rest) := by
  unfold quotedChar
  split
  next => rfl
  next => rfl
  next => rfl
  next => rfl
  next => rfl
  next => rfl
  next hbackslash _ _ _ _ =>
    split
    · exact readQuotedChar?_of_ne hbackslash rest
    · have hpoint := readQuotedChar?_codePoint c.toNat rest
      rw [Char.ofNat_toNat] at hpoint
      simpa using hpoint

theorem quotedChars_injective {s t : List Char} (h : s.flatMap quotedChar = t.flatMap quotedChar) :
    s = t := by
  induction s generalizing t with
  | nil =>
    cases t with
    | nil => rfl
    | cons d t =>
      have hread := readQuotedChar?_quotedChar d (t.flatMap quotedChar)
      rw [← List.flatMap_cons, ← h] at hread
      cases hread
  | cons c s ih =>
    have hread := readQuotedChar?_quotedChar c (s.flatMap quotedChar)
    rw [← List.flatMap_cons, h] at hread
    cases t with
    | nil => cases hread
    | cons d t =>
      rw [List.flatMap_cons, readQuotedChar?_quotedChar] at hread
      obtain ⟨rfl, hrest⟩ := Prod.mk.inj (Option.some.inj hread)
      rw [ih hrest.symm]

theorem quoted_injective {s t : String} (h : quoted s = quoted t) : s = t := by
  have hchars := congrArg String.toList h
  rw [quoted, quoted, String.toList_ofList, String.toList_ofList, List.append_cancel_right_eq] at hchars
  exact String.toList_inj.mp (quotedChars_injective (List.cons.inj hchars).2)

end CiFront.Text
