import AgentKit.Fault.Basic
import AgentKit.Layout.Basic
import AgentKit.Record
import AgentKit.Text.Styled
import AgentKit.Text.Visible
/-!
# Diagnostic events

Besides its records an agent tells developers what it does: which rule gave the workspace root, that
the directories are ready, which secret is missing, where the result goes, and that a request could
not be logged. An event names the part of the program that speaks, carries a message and fields,
and never carries the value of a secret.
-/
namespace AgentKit

/-- What a developer may want to know. -/
inductive Event where
  | rootResolved (root : Path) (source : RootSource)
  | directoriesReady (root : Path)
  | secretMissing (name : String)
  | writingResult (path : Path)
  | requestLogFailed (error : AgentError)
deriving DecidableEq, Repr

/-- The word for a severity in diagnostics. -/
def Level.label : Level → String
  | .debug => "DEBUG"
  | .info => "INFO"
  | .warn => "WARN"
  | .error => "ERROR"

/-- The look of a severity in diagnostics. -/
def Level.look : Level → Look
  | .debug => .blue
  | .info => .green
  | .warn => .yellow
  | .error => .red

namespace Event

/-- The severity of an event. -/
def level : Event → Level
  | .requestLogFailed _ => .warn
  | .rootResolved _ _ | .directoriesReady _ | .secretMissing _ | .writingResult _ => .debug

/-- The part of the program that speaks. -/
def target : Event → String
  | .rootResolved _ _ | .directoriesReady _ => "aegis_sdk::io::workspace"
  | .secretMissing _ => "aegis_sdk::io::secrets"
  | .writingResult _ => "simple_task"
  | .requestLogFailed _ => "simple_http"

/-- The message. -/
def message : Event → String
  | .rootResolved _ _ => "resolved workspace root"
  | .directoriesReady _ => "workspace directories ready"
  | .secretMissing _ => "required secret missing"
  | .writingResult _ => "writing result"
  | .requestLogFailed _ => "request log write failed"

/-- The fields, in order. -/
def fields : Event → List (String × String)
  | .rootResolved root source => [("root", root.display), ("source", source.name)]
  | .directoriesReady root => [("root", root.display)]
  | .secretMissing name => [("secret", name)]
  | .writingResult path => [("path", path.display)]
  | .requestLogFailed error => [("error", error.message)]

/-- The value of a field as a diagnostic line shows it. A name given by a caller is quoted. -/
def valueText (event : Event) (value : String) : String :=
  match event with
  | .secretMissing _ => Visible.quote value
  | _ => value

/-- A field as a diagnostic line shows it. -/
def fieldText (event : Event) (field : String × String) : Styled :=
  .plain " " ++ .looking [.italic] field.1 ++ .looking [.dimmed] "=" ++
    .plain (event.valueText field.2)

/-- The diagnostic line of an event, for a reading of the clock. -/
def line (event : Event) (clock : Clock) : Styled :=
  let label := event.level.label
  let padded := String.ofList (List.replicate (5 - label.length) ' ') ++ label
  .looking [.dimmed] (String.ofList clock.zuluText) ++ .plain " " ++
    .looking [event.level.look] padded ++ .plain " " ++
    .looking [.dimmed] event.target ++ .looking [.dimmed] ":" ++
    .plain (" " ++ event.message) ++ event.fields.flatMap event.fieldText ++ .plain "\n"

end Event

end AgentKit
