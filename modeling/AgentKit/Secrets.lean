import AgentKit.Host.Action
/-!
# Secrets

Secrets are variables of the environment. They are read on every call, and their values go nowhere
but to the caller.
-/
namespace AgentKit.Secrets

variable {ε : Type}

/-- The value of a secret. An empty value is a value. -/
def get (name : String) : Action ε (Option String) :=
  Action.inspect fun host => host.environment.value? name

/-- The value of a secret that has to be there. -/
def require (name : String) : Action AgentError String := do
  match ← get name with
  | some value => return value
  | none =>
    Action.emit (.secretMissing name)
    Action.fail (.secretUnavailable name)

end AgentKit.Secrets
