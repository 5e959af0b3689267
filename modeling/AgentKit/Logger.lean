import AgentKit.Host.Action
/-!
# Logging

A logger writes one record per call, with the time of the call, to the stream that the level
decides. No field changes where a record goes, and a failed write is not tried on the other stream.
-/
namespace AgentKit.Logger

/-- Write a line to a stream. -/
def write (stream : Stream) (line : Bytes) : Action AgentError Unit := fun host =>
  let (outcome, after) := host.writeLine stream line
  (outcome.mapError .io, after)

/-- The record of a call, at the time that the clock of a host shows. -/
def record (level : Level) (message : String) (extras : Fields) (host : Host) : Record :=
  { level, message, clock := host.clock, extras }

/-- Write one record. -/
def log (level : Level) (message : String) (extras : Fields) : Action AgentError Unit := do
  let record ← Action.inspect (record level message extras)
  write level.stream record.line

/-- Write a record of level `info`. -/
def info (message : String) (extras : Fields) : Action AgentError Unit :=
  log .info message extras

end AgentKit.Logger
