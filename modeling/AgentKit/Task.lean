import AgentKit.Greeting
import AgentKit.Logger
import AgentKit.Secrets
import AgentKit.Workspace
/-!
# The greeting task

The task reads a greeting, makes the directories of the workspace and writes the greeting file, and
logs each step. The first step that fails ends it; what was done before stays.
-/
namespace AgentKit

/-- Why the task failed. -/
inductive TaskError where
  /-- A record could not be written. -/
  | record (error : AgentError)
  /-- The directories could not be made. -/
  | directories (error : AgentError)
  /-- The greeting file could not be written. -/
  | result (path : Path) (error : IoError)
deriving DecidableEq, Repr

namespace TaskError

/-- The step that failed, if it is named, and then the failure itself. -/
def chain : TaskError → List String
  | .record error => [error.message]
  | .directories error => ["create workspace directories", error.message]
  | .result path error => ["write " ++ path.display, error.message]

/-- The chain in one line. -/
def message (error : TaskError) : String := ": ".intercalate error.chain

end TaskError

namespace Task

/-- The greeting when the secret is absent. -/
def defaultGreeting : String := "Hello from AegisVM"

/-- The secret that holds the greeting, unless another one is named. -/
def greetingSecret : String := "GREETING"

/-- The greeting file under the root. -/
def resultPath (paths : WorkspacePaths) : Path :=
  paths.outputDirectory.join (Utf8.ofString "result.txt")

/-- Log a step of the task. -/
def report (message : String) (extras : Fields) : Action TaskError Unit :=
  (Logger.info message extras).mapError .record

/-- Write the greeting file. -/
def writeResult (path : Path) (greeting : Greeting) : Action TaskError Unit :=
  (Action.replaceFiles fun files => files.writeFile path greeting.octets).mapError (.result path)

/-- Run the task, with the time that goes into the file. The answer is the path of the file. -/
def run (layout : Layout) (secret : String) (clock : Clock) : Action TaskError Path := do
  report "agent starting" []
  let words := (← Secrets.get secret).getD defaultGreeting
  report "greeting loaded" [("greeting", .string words)]
  let paths ← (Workspace.ensureDirectories layout).mapError .directories
  let path := resultPath paths
  Action.emit (.writingResult path)
  writeResult path ⟨words, clock⟩
  report "output written" [("path", .string path.display)]
  report "agent finished" []
  return path

end Task

end AgentKit
