import AgentKit.Program.Greeter
import AgentKit.Program.StatusServer
/-!
# The command line

The first argument names a program, and the others are the program's own. The program runs on a
host in memory: its files are fresh and go with the host, and its clock is masked, so two runs print
the same. No connection is accepted, and a program that is ready to serve ends as one that
succeeded.
-/
namespace AgentKit.Console

/-- The programs by their names. -/
def programs : List (String × Program) :=
  [Program.Greeter.program, Program.StatusServer.program].map fun program =>
    (program.about.name, program)

/-- What is said when no program is named. -/
def usage : String :=
  "Usage: PROGRAM [OPTIONS]\n\nPrograms: " ++ ", ".intercalate (programs.map Prod.fst) ++ "\n"

/-- The variables that a program may look up: its own, and those that an argument names. -/
def names (arguments : List String) : List String :=
  [Program.filterVariable, Program.plainVariable, Program.forcedVariable, Program.threadsVariable,
    Program.stackVariable, Layout.standard.overrideVariable, Task.greetingSecret] ++
    arguments.flatMap fun argument => argument.splitOn "="

/-- The number that a process ends with. -/
def exitNumber : Program.Exit → UInt32
  | .code number => .ofNat number
  | .killed => 134
  | .serving => 0

/-- The environment of the process, as far as the names go. -/
def environment (names : List String) : IO Environment := do
  let entries ← names.eraseDups.filterMapM fun name => do
    return (← IO.getEnv name).map fun value => Utf8.ofString (name ++ "=" ++ value)
  return .process entries

/-- What a program says that does not get to its work. -/
def lastWords : String := "The program was stopped before it began.\n"

/-- Write octets to a stream. -/
def send (stream : IO.FS.Stream) (octets : Bytes) : IO Unit := do
  stream.write ⟨octets.toArray⟩
  stream.flush

/-- Run a program with its own arguments. -/
def runProgram (program : Program) (arguments : List String) : IO UInt32 := do
  let environment ← environment (names arguments)
  let (exit, after) :=
    program.start (arguments.map Utf8.ofString) environment .fresh .file .file .masked lastWords
  send (← IO.getStdout) after.out.accepted
  send (← IO.getStderr) after.err.accepted
  return exitNumber exit

end AgentKit.Console

/-- Run the program that the first argument names. -/
def main (arguments : List String) : IO UInt32 := do
  let found := do
    let name ← arguments.head?
    AgentKit.Console.programs.lookup name
  match found with
  | some program => AgentKit.Console.runProgram program arguments.tail
  | none =>
    AgentKit.Console.send (← IO.getStderr) (AgentKit.Utf8.ofString AgentKit.Console.usage)
    return AgentKit.Console.exitNumber AgentKit.Program.refused
