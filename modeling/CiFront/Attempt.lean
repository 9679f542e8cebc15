import CiFront.Log.Event
import CiFront.Parameter.Error
/-!
# Attempts

An attempt is a computation against the state of a trigger. It may fail, and whether it fails or not it
leaves a state and a list of events. What was logged before a failure stays logged, and a failure leaves
the state as it was at that point.
-/

namespace CiFront

/-- What an attempt comes to: its result, the state it leaves and the events it logged, in order. -/
structure Outcome (σ α : Type) where
  result : Except Parameter.Error α
  state : σ
  events : List Log.Event

/-- A computation against a state that may fail and that logs events. -/
def Attempt (σ α : Type) := σ → Outcome σ α

namespace Attempt

variable {σ α β : Type}

/-- Succeeds at once. -/
def done (a : α) : Attempt σ α := fun s => ⟨.ok a, s, []⟩

/-- Fails at once. -/
def fail (error : Parameter.Error) : Attempt σ α := fun s => ⟨.error error, s, []⟩

/-- Logs one event. -/
def log (event : Log.Event) : Attempt σ Unit := fun s => ⟨.ok (), s, [event]⟩

/-- Succeeds or fails as a given result does. -/
def ofExcept (result : Except Parameter.Error α) : Attempt σ α := fun s => ⟨result, s, []⟩

/-- Goes on with what the first attempt yields, unless it fails. -/
def andThen (first : Attempt σ α) (next : α → Attempt σ β) : Attempt σ β := fun s =>
  let outcome := first s
  match outcome.result with
  | .error error => ⟨.error error, outcome.state, outcome.events⟩
  | .ok a =>
    let rest := next a outcome.state
    ⟨rest.result, rest.state, outcome.events ++ rest.events⟩

instance : Monad (Attempt σ) where
  pure := done
  bind := andThen

theorem bind_of_ok {first : Attempt σ α} {next : α → Attempt σ β} {s t : σ} {a : α}
    {events : List Log.Event} (h : first s = ⟨.ok a, t, events⟩) :
    (first >>= next) s
      = ⟨(next a t).result, (next a t).state, events ++ (next a t).events⟩ := by
  simp only [bind, andThen, h]

theorem bind_of_error {first : Attempt σ α} {next : α → Attempt σ β} {s t : σ}
    {error : Parameter.Error} {events : List Log.Event} (h : first s = ⟨.error error, t, events⟩) :
    (first >>= next) s = ⟨.error error, t, events⟩ := by
  simp only [bind, andThen, h]

theorem result_bind_of_ok {first : Attempt σ α} {next : α → Attempt σ β} {s : σ} {a : α}
    (h : (first s).result = .ok a) :
    ((first >>= next) s).result = (next a (first s).state).result
      ∧ ((first >>= next) s).state = (next a (first s).state).state := by
  simp only [bind, andThen, h, and_self]

theorem result_bind_of_error {first : Attempt σ α} {next : α → Attempt σ β} {s : σ}
    {error : Parameter.Error} (h : (first s).result = .error error) :
    ((first >>= next) s).result = .error error
      ∧ ((first >>= next) s).state = (first s).state := by
  simp only [bind, andThen, h, and_self]

@[simp] theorem pure_apply (a : α) (s : σ) : (pure a : Attempt σ α) s = ⟨.ok a, s, []⟩ := rfl

@[simp] theorem fail_apply (error : Parameter.Error) (s : σ) :
    (fail error : Attempt σ α) s = ⟨.error error, s, []⟩ := rfl

@[simp] theorem log_apply (event : Log.Event) (s : σ) : log event s = ⟨.ok (), s, [event]⟩ := rfl

@[simp] theorem ofExcept_apply (result : Except Parameter.Error α) (s : σ) :
    ofExcept result s = ⟨result, s, []⟩ := rfl

end Attempt

end CiFront
