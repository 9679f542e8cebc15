import CiFront.Attempt
/-!
# Triggers

A trigger is where a build comes from. Besides the tokens that are supplied explicitly it may hold tokens
of its own; it says for which names, and asking it for one may read from its state and may fail.
-/

namespace CiFront

/-- Where a build was triggered from, with a state of type `σ`. -/
structure Trigger (σ : Type) where
  /-- The label of the origin in the log. -/
  origin : String
  /-- The names the trigger holds tokens for, each of which must be a defined parameter. -/
  heldNames : List String
  /-- The token that the trigger itself holds for a name, if any. -/
  pendingToken : String → Attempt σ (Option String)

namespace Trigger

variable {σ : Type}

/-- A trigger from code, which holds no tokens. -/
def programmatic : Trigger σ where
  origin := "api"
  heldNames := []
  pendingToken := fun _ => pure none

/-- The answers of a trigger whose tokens are known in advance. -/
structure Prepared where
  tokens : List (String × String)
  heldNames : List String
  interrupted : List String
  unreadable : List (String × ReadFailure)

/-- A trigger that answers from a table: the names that are interrupted fail first, then those that
cannot be read, and of two tokens for a name the last one counts. -/
def prepared (answers : Prepared) : Trigger σ where
  origin := "map"
  heldNames := answers.heldNames
  pendingToken := fun name =>
    if name ∈ answers.interrupted then .fail (.interrupted name)
    else match answers.unreadable.lookup name with
      | some failure => .fail (.unreadable failure)
      | none => pure (answers.tokens.reverse.lookup name)

end Trigger

end CiFront
