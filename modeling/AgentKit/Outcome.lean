/-!
# Outcomes

A call either gives a value, or fails with an error that its caller may handle, or panics: then it
is abandoned where it stands and only the effects it had so far remain.
-/
namespace AgentKit

/-- How a call ends. -/
inductive Outcome (ε α : Type) where
  | done (value : α)
  | failed (error : ε)
  | panicked (text : String)
deriving DecidableEq

namespace Outcome

/-- The outcome of a call that hands on errors of another type. -/
def mapError {ε δ α : Type} (change : ε → δ) : Outcome ε α → Outcome δ α
  | .done value => .done value
  | .failed error => .failed (change error)
  | .panicked text => .panicked text

/-- The outcome of a result. -/
def ofExcept {ε α : Type} : Except ε α → Outcome ε α
  | .ok value => .done value
  | .error error => .failed error

end Outcome

end AgentKit
