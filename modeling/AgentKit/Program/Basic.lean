import AgentKit.CommandLine.Usage
import AgentKit.Host.Action
/-!
# Programs

A program runs on a host with a command line and leaves the host behind with a code. Refusals go to
the error stream and answers of flags to the output stream; nobody is told when those cannot be
written.

The host of a program has the environment of the process and its two descriptors. A descriptor that
is closed when the program starts is opened on a device that keeps nothing.

A program that panics or is killed before it gets to its work says so on the error stream. These
last words name places inside the program, which differ from build to build, so a start is given
them.

No stream is taken for a terminal. Diagnostics have looks unless the environment refuses them;
refusals and answers have looks only if the environment forces them and does not refuse them.
-/
namespace AgentKit

/-- How a program ends. -/
inductive Program.Exit where
  | code (number : Nat)
  /-- The program is killed and has no code. -/
  | killed
  /-- The program does not end but waits for requests. -/
  | serving
deriving DecidableEq, Repr

/-- A program. -/
structure Program where
  /-- What the program says about itself. -/
  about : CommandLine.About
  /-- How the program ends before it does anything, in an environment that does not let it start. -/
  obstacle? : Environment → Option Program.Exit
  /-- What the program does with the values of its options. -/
  work : List (String × CommandLine.OptionValue) → Host → Program.Exit × Host

namespace Program

/-- All went well. -/
def succeeded : Exit := .code 0

/-- The work failed. -/
def failed : Exit := .code 1

/-- The command line was refused. -/
def refused : Exit := .code 2

/-- The program panicked. -/
def abandoned : Exit := .code 101

/-- Write a text to a stream, whole or not at all. -/
def print (stream : Stream) (text : String) (host : Host) : Host :=
  (host.writeLine stream (Utf8.ofString text)).2

/-- The variable that refuses looks when it has a value. -/
def plainVariable : String := "NO_COLOR"

/-- The variable that forces looks when it has a value. -/
def forcedVariable : String := "CLICOLOR_FORCE"

/-- A variable has a value, and that is not empty. -/
def isGiven (environment : Environment) (name : String) : Bool :=
  match environment.octets? name with
  | none | some [] => false
  | some (_ :: _) => true

/-- Write a text to a stream, with its looks if they are forced, and otherwise what shows of it. -/
def say (stream : Stream) (text : Styled) (host : Host) : Host :=
  if isGiven host.environment forcedVariable && !isGiven host.environment plainVariable then
    print stream text.marked host
  else print stream text.shown host

/-- Diagnostics have looks. A refusal of looks has to be a text. -/
def looksOfDiagnostics (environment : Environment) : Bool :=
  match (environment.octets? plainVariable).bind Utf8.toString? with
  | none => true
  | some value => value.isEmpty

/-- The variable that holds the filter of diagnostics. -/
def filterVariable : String := "RUST_LOG"

/-- The filter of diagnostics that the environment asks for. -/
def filterOf? (environment : Environment) : Option Filter :=
  Filter.ofVariable? (environment.octets? filterVariable)

/-- Read the command line and go on with the values of its options, unless it is refused or a flag
is answered. -/
def run (program : Program) (arguments : List Bytes) (host : Host) : Exit × Host :=
  match CommandLine.read program.about.rules arguments with
  | .error error => (refused, say .err (program.about.refusal error) host)
  | .ok (.notice notice) => (succeeded, say .out (program.about.notice notice) host)
  | .ok (.run values) => program.work values host

/-- Start a program with its arguments on a host of its own. Without a filter of diagnostics it
panics before it does anything. A program that does not get to its work leaves its last words on the
error stream, if that takes them. -/
def start (program : Program) (arguments : List Bytes) (environment : Environment) (files : Files)
    (out err : Descriptor) (clock : Clock) (lastWords : String := "") : Exit × Host :=
  let host (filter : Filter) : Host := {
    environment := environment
    files := files
    out := .descriptor out.atStart .nothing
    err := .descriptor err.atStart .nothing
    clock := clock
    diagnostics := .shown filter (looksOfDiagnostics environment) }
  match program.obstacle? environment with
  | some exit => (exit, print .err lastWords (host []))
  | none =>
    match filterOf? environment with
    | none => (abandoned, print .err lastWords (host []))
    | some filter => program.run arguments (host filter)

/-- The text given for an option. -/
def textOf (values : List (String × CommandLine.OptionValue)) (rule : CommandLine.OptionRule)
    (otherwise : String) : String :=
  match values.lookup rule.name with
  | some (.text text) => text
  | some (.port _) | none => otherwise

/-- The port given for an option. -/
def portOf (values : List (String × CommandLine.OptionValue)) (rule : CommandLine.OptionRule)
    (otherwise : Nat) : Nat :=
  match values.lookup rule.name with
  | some (.port number) => number
  | some (.text _) | none => otherwise

end Program

end AgentKit
