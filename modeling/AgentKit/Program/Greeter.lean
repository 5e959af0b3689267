import AgentKit.Program.Basic
import AgentKit.Task
/-!
# The greeting program

The program runs the greeting task once. When the task fails, one record on the error stream says
why, and the code says that it failed even if that record cannot be written.
-/
namespace AgentKit.Program.Greeter

/-- The option that names the secret. -/
def secretOption : CommandLine.OptionRule := ⟨"greeting-secret", "GREETING_SECRET", .text⟩

/-- What the program says about itself. -/
def about : CommandLine.About where
  name := "simple-task"
  version := "0.1.0"
  purpose := "One-shot agent: writes a greeting to the workspace output directory"
  options := [(secretOption, "Secret holding the greeting", Task.greetingSecret)]
  notices := [.help, .version]

/-- Report a failed task. -/
def reportFailure (error : TaskError) (host : Host) : Host :=
  (Logger.log .error "task failed" [("error", .string error.message)] host).2

/-- Run the task for a secret. -/
def work (secret : String) (host : Host) : Exit × Host :=
  match Task.run .standard secret host.clock host with
  | (.done _, after) => (succeeded, after)
  | (.failed error, after) => (failed, reportFailure error after)
  | (.panicked _, after) => (abandoned, after)

/-- The program. -/
def program : Program where
  about := about
  obstacle? := fun _ => none
  work := fun values => work (textOf values secretOption Task.greetingSecret)

end AgentKit.Program.Greeter
