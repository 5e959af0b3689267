import AgentKit.Sink.Writer
/-!
# Sinks

A sink takes whole lines. It keeps them in memory, refuses all of them, hands them to a writer
behind a lock, or passes them to a descriptor of the process. A descriptor takes a line as one
piece or refuses it with the error number of its state.
-/
namespace AgentKit

/-- The state of a descriptor of the process. -/
inductive Descriptor where
  /-- Open on something that takes every line. -/
  | file
  | closed
  /-- Open on a device that takes every line and keeps none. -/
  | null
  /-- Open, but not for writing. -/
  | readonly
  /-- Open on a device without room. -/
  | full
  /-- Open on a pipe that nobody reads. -/
  | brokenPipe
deriving DecidableEq, Repr

namespace Descriptor

/-- The error number with which a descriptor refuses a line. -/
def refusal? : Descriptor → Option Errno
  | .file | .null => none
  | .closed | .readonly => some .badDescriptor
  | .full => some .noSpace
  | .brokenPipe => some .brokenPipe

/-- What a descriptor keeps of a line that it takes. -/
def keep (descriptor : Descriptor) (line : Bytes) : Bytes :=
  if descriptor = .null then [] else line

/-- The descriptor of a program that has just started. A closed one has been opened on a device that
keeps nothing. -/
def atStart : Descriptor → Descriptor
  | .closed => .null
  | other => other

end Descriptor

/-- A destination of whole lines. -/
inductive Sink where
  | capture (held : Taken)
  | failing (kind : ErrorKind)
  | guarded (lock : GuardedWriter)
  | descriptor (state : Descriptor) (held : Taken)
deriving DecidableEq, Repr

namespace Sink

/-- What a sink has taken. -/
def taken : Sink → Taken
  | .capture held => held
  | .failing _ => .nothing
  | .guarded lock => lock.writer.taken
  | .descriptor _ held => held

/-- The octets that a sink has taken. -/
def accepted (sink : Sink) : Bytes := sink.taken.octets

/-- The calls made on the writer of a sink: pieces and flushes. -/
def calls? : Sink → Option (Nat × Nat)
  | .guarded lock => some (lock.writer.writeCalls, lock.writer.flushCalls)
  | .capture _ | .failing _ | .descriptor _ _ => none

/-- The error of a sink that stands for a closed stream. -/
def streamClosed (kind : ErrorKind) : IoError := .custom kind "stream closed"

/-- Write one line. -/
def writeLine (sink : Sink) (line : Bytes) : Outcome IoError Unit × Sink :=
  match sink with
  | .capture held => (.done (), .capture (held.add line))
  | .failing kind => (.failed (streamClosed kind), .failing kind)
  | .guarded lock =>
    let (outcome, after) := lock.writeLine line
    (outcome, .guarded after)
  | .descriptor state held =>
    match state.refusal? with
    | none => (.done (), .descriptor state (held.add (state.keep line)))
    | some errno => (.failed (.system errno), .descriptor state held)

end Sink

end AgentKit
