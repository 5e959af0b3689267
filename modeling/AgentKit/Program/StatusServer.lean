import AgentKit.Logger
import AgentKit.Net.Machine
import AgentKit.Program.Threads
/-!
# The server program

The program logs that it starts, reads the address to listen on, and listens. A failure on the way
is printed with its cause, and the program ends.

Requests are served by several threads, which are there before anything else is done.
-/
namespace AgentKit.Program.StatusServer

/-- The option for the address. -/
def bindOption : CommandLine.OptionRule := ⟨"bind", "BIND", .text⟩

/-- The option for the port. -/
def portOption : CommandLine.OptionRule := ⟨"port", "PORT", .port⟩

/-- The address when none is given. -/
def defaultAddress : String := "0.0.0.0"

/-- The port when none is given. -/
def defaultPort : Nat := 80

/-- What the program says about itself. -/
def about : CommandLine.About where
  name := "simple-http"
  version := "0.1.0"
  purpose := "Minimal HTTP agent demonstrating secrets, workspace and logging"
  options :=
    [(bindOption, "Address to bind the server to", defaultAddress),
      (portOption, "Port to listen on", String.ofList (Numeral.natural defaultPort))]
  notices := [.help]

/-- Why the server does not start. -/
inductive StartError where
  | record (error : AgentError)
  | address (text : String)
  | bind (text : String) (error : IoError)

/-- A failure as it is printed: what was tried, and the cause below it. -/
def StartError.text : StartError → String
  | .record error => "Error: " ++ error.message ++ "\n"
  | .address text =>
    "Error: parse bind address " ++ text ++ "\n\nCaused by:\n    invalid socket address syntax\n"
  | .bind text error => "Error: bind " ++ text ++ "\n\nCaused by:\n    " ++ error.message ++ "\n"

/-- An address and a port in one text. -/
def withPort (address : String) (port : Nat) : String :=
  address ++ ":" ++ String.ofList (Numeral.natural port)

/-- Why a server does not listen on an address, if it does not. -/
def bindError? (address : String) (port : Nat) : Option StartError :=
  match Net.Address.ofText? address.toList with
  | none => some (.address (withPort address port))
  | some parsed =>
    (Net.refusal? parsed).map fun errno =>
      .bind (withPort (String.ofList parsed.text) port) (.system errno)

/-- Log the start. -/
def announce (port : Nat) : Action AgentError Unit :=
  Logger.info "starting server" [("port", .uint (.ofNat port))]

/-- Start the server. -/
def work (address : String) (port : Nat) (host : Host) : Exit × Host :=
  match announce port host with
  | (.done (), after) =>
    match bindError? address port with
    | none => (.serving, after)
    | some error => (failed, print .err error.text after)
  | (.failed error, after) => (failed, print .err (StartError.record error).text after)
  | (.panicked _, after) => (abandoned, after)

/-- The program. -/
def program : Program where
  about := about
  obstacle? := threadObstacle?
  work := fun values => work (textOf values bindOption defaultAddress)
    (portOf values portOption defaultPort)

end AgentKit.Program.StatusServer
