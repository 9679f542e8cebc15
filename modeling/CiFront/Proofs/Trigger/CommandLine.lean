import CiFront.Trigger.CommandLine
import Mathlib.Data.List.Basic
/-!
# What the command line reads

The reader is read for the one parameter it is meant for, and for no other. What it holds is then the
token but for one line break at its end, and nothing is left for a second reading.
-/

namespace CiFront

/-- A text, and what it is without one line break at its end. A carriage return belongs to the line
break only in front of a line feed. -/
inductive Text.DropsLineBreak : List Char → List Char → Prop
  | returnLineFeed (s : List Char) : DropsLineBreak (s ++ ['\r', '\n']) s
  | lineFeed {s : List Char} (hreturn : s.getLast? ≠ some '\r') : DropsLineBreak (s ++ ['\n']) s
  | none {s : List Char} (hlineFeed : s.getLast? ≠ some '\n') : DropsLineBreak s s

namespace Reader

theorem content_ofBytes_of_not_valid {bytes : ByteArray} (h : ¬ bytes.IsValidUTF8) :
    (ofBytes bytes).content = .error .notUtf8 := by
  rw [ofBytes, decodeText, String.fromUTF8?, dif_neg h]

theorem content_ofBytes_toUTF8 (text : String) : (ofBytes text.toUTF8).content = .ok text := by
  have hvalid : text.toUTF8.IsValidUTF8 := text.isValidUTF8
  rw [ofBytes, decodeText, String.fromUTF8?, dif_pos hvalid]
  rfl

theorem readings_readAll (reader : Reader) : reader.readAll.2.readings = reader.readings + 1 := rfl

end Reader

namespace Trigger

theorem dropsLineBreak_dropLineBreak (s : List Char) : Text.DropsLineBreak s (dropLineBreak s) := by
  rw [dropLineBreak]
  split
  · rename_i rest hrest
    rw [← s.reverse_reverse, hrest, List.reverse_cons, List.reverse_cons, List.append_assoc]
    exact .returnLineFeed rest.reverse
  · rename_i rest hother hrest
    have hreturn : rest.reverse.getLast? ≠ some '\r' := by
      rw [List.getLast?_reverse]
      intro hhead
      obtain ⟨more, rfl⟩ := List.head?_eq_some_iff.mp hhead
      exact hother more rfl
    rw [← s.reverse_reverse, hrest, List.reverse_cons]
    exact .lineFeed hreturn
  · rename_i hother
    refine .none fun hlast => ?_
    rw [← List.head?_reverse] at hlast
    obtain ⟨rest, hrest⟩ := List.head?_eq_some_iff.mp hlast
    exact hother rest hrest

/-- The token that a text read from the reader makes. -/
def tokenOf (text : String) : String :=
  String.ofList (dropLineBreak text.toList)

theorem dropsLineBreak_tokenOf (text : String) :
    Text.DropsLineBreak text.toList (tokenOf text).toList := by
  rw [tokenOf, String.toList_ofList]
  exact dropsLineBreak_dropLineBreak text.toList

/-! ### Asking the command line for a token -/

variable {stdinParameter : Option String} {name : String}

theorem pendingToken_commandLine_of_ne (h : stdinParameter ≠ some name) (reader : Reader) :
    (commandLine stdinParameter).pendingToken name reader = ⟨.ok none, reader, []⟩ := by
  simp only [commandLine, if_neg h, Attempt.pure_apply]

theorem result_pendingToken_commandLine_of_ok (h : stdinParameter = some name) (text : String)
    (readings : Nat) :
    ((commandLine stdinParameter).pendingToken name ⟨.ok text, readings⟩).result
      = .ok (some (tokenOf text)) := by
  simp only [commandLine, if_pos h]
  rfl

theorem result_pendingToken_commandLine_of_error (h : stdinParameter = some name)
    (failure : ReadFailure) (readings : Nat) :
    ((commandLine stdinParameter).pendingToken name ⟨.error failure, readings⟩).result
      = .error (.unreadable failure) := by
  simp only [commandLine, if_pos h]
  rfl

theorem state_pendingToken_commandLine (h : stdinParameter = some name) (reader : Reader) :
    ((commandLine stdinParameter).pendingToken name reader).state = reader.readAll.2 := by
  simp only [commandLine, if_pos h]
  rcases reader with ⟨failure | text, readings⟩ <;> rfl

end Trigger

end CiFront
