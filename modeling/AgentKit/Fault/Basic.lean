import AgentKit.Fault.Errno
/-!
# Failures

`IoError` is a failed operation on files or streams: an error number of the operating system, a
bare kind, or a kind with a message of its own. `AgentError` is what the operations of the library
fail with: a missing secret, or an I/O error passed on unchanged.
-/
namespace AgentKit

/-- A failed operation on files or streams. -/
inductive IoError where
  /-- Reported by the operating system. -/
  | system (errno : Errno)
  /-- A kind and nothing else. -/
  | bare (kind : ErrorKind)
  /-- A kind with a message. -/
  | custom (kind : ErrorKind) (message : String)
deriving DecidableEq, Repr

namespace IoError

/-- The kind of a failure. -/
def kind : IoError → ErrorKind
  | .system errno => errno.kind
  | .bare kind => kind
  | .custom kind _ => kind

/-- The error number, for a failure that the operating system reported. -/
def errno? : IoError → Option Errno
  | .system errno => some errno
  | .bare _ | .custom _ _ => none

/-- The message. An error number is named behind its text. -/
def message : IoError → String
  | .system errno => errno.text ++ " (os error " ++ toString errno.number ++ ")"
  | .bare kind => kind.description
  | .custom _ message => message

/-- A path with a zero octet cannot be handed to the operating system. -/
def zeroOctet : IoError := .custom .invalidInput "file name contained an unexpected NUL byte"

/-- A writer took nothing of what was left to write. -/
def nothingWritten : IoError := .custom .writeZero "failed to write whole buffer"

end IoError

/-- What the operations of the library fail with. -/
inductive AgentError where
  /-- The environment does not hold a secret that is required. -/
  | secretUnavailable (name : String)
  /-- A directory could not be made or a stream not be written. -/
  | io (error : IoError)
deriving DecidableEq, Repr

namespace AgentError

/-- The message. A missing secret is named together with the way to provide it. -/
def message : AgentError → String
  | .secretUnavailable name =>
    "Secret '" ++ name ++ "' not available. Ensure it is set via 'aegis secret set' and the " ++
      "task/app references it."
  | .io error => error.message

/-- The name of the missing secret. -/
def secretName? : AgentError → Option String
  | .secretUnavailable name => some name
  | .io _ => none

/-- The I/O error that was passed on. -/
def ioError? : AgentError → Option IoError
  | .secretUnavailable _ => none
  | .io error => some error

end AgentError

end AgentKit
