import AgentKit.Host.Basic
/-!
# Actions

An action runs on a host, changes it and ends with an outcome. Actions follow one another until one
fails or panics; the changes made up to there stay.
-/
namespace AgentKit

/-- Something that an agent does. -/
def Action (ε α : Type) : Type := Host → Outcome ε α × Host

namespace Action

variable {ε δ α β : Type}

/-- Run an action. -/
def run (action : Action ε α) (host : Host) : Outcome ε α × Host := action host

/-- Give a value and do nothing. -/
def done (value : α) : Action ε α := fun host => (.done value, host)

/-- Fail and do nothing. -/
def fail (error : ε) : Action ε α := fun host => (.failed error, host)

/-- Abandon what was going on. -/
def panicWith (text : String) : Action ε α := fun host => (.panicked text, host)

/-- One action and then the next, if the first is done. -/
def andThen (first : Action ε α) (next : α → Action ε β) : Action ε β := fun host =>
  match first host with
  | (.done value, after) => next value after
  | (.failed error, after) => (.failed error, after)
  | (.panicked text, after) => (.panicked text, after)

instance : Monad (Action ε) where
  pure := done
  bind := andThen

/-- An action with its errors changed. -/
def mapError (change : ε → δ) (action : Action ε α) : Action δ α := fun host =>
  let (outcome, after) := action host
  (outcome.mapError change, after)

/-- An action whose failure is a value. -/
def attempt (action : Action ε α) : Action δ (Except ε α) := fun host =>
  match action host with
  | (.done value, after) => (.done (.ok value), after)
  | (.failed error, after) => (.done (.error error), after)
  | (.panicked text, after) => (.panicked text, after)

/-- Look at the host. -/
def inspect (view : Host → α) : Action ε α := fun host => (.done (view host), host)

/-- Tell developers about an event. -/
def emit (event : Event) : Action ε Unit := fun host => (.done (), host.emit event)

/-- Change the files, or fail and leave what the change left. -/
def changeFiles (change : Files → Except IoError Unit × Files) : Action IoError Unit := fun host =>
  let (result, files) := change host.files
  (.ofExcept result, { host with files })

/-- Change the files, or fail and leave them. -/
def replaceFiles (change : Files → Except IoError Files) : Action IoError Unit :=
  changeFiles fun files =>
    match change files with
    | .ok changed => (.ok (), changed)
    | .error error => (.error error, files)

/-- Change the environment. -/
def changeEnvironment (change : Environment → Except String Environment) : Action ε Unit :=
  fun host =>
    match change host.environment with
    | .ok environment => (.done (), { host with environment })
    | .error text => (.panicked text, host)

end Action

end AgentKit
