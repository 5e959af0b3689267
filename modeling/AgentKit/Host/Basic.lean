import AgentKit.Diagnostics.Filter
import AgentKit.Environment
import AgentKit.Files.Change
import AgentKit.Files.Listing
import AgentKit.Sink.Basic
/-!
# Hosts

A host is everything an agent reads from or writes to: the environment, the files, the two sinks
for records, the clock, and the place where diagnostics go.
-/
namespace AgentKit

/-- Where diagnostics go. -/
inductive Diagnostics where
  /-- All events are kept, in order. -/
  | kept (events : List Event)
  /-- The events that a filter admits are lines on the error stream, with looks or without. -/
  | shown (filter : Filter) (looks : Bool)

/-- What an agent reads from or writes to. -/
structure Host where
  environment : Environment
  files : Files
  out : Sink
  err : Sink
  clock : Clock
  diagnostics : Diagnostics

namespace Host

/-- The sink of a stream. -/
def sink (host : Host) : Stream → Sink
  | .out => host.out
  | .err => host.err

/-- The host with another sink for a stream. -/
def withSink (host : Host) (stream : Stream) (sink : Sink) : Host :=
  match stream with
  | .out => { host with out := sink }
  | .err => { host with err := sink }

/-- Write one line to a stream. -/
def writeLine (host : Host) (stream : Stream) (line : Bytes) : Outcome IoError Unit × Host :=
  let (outcome, after) := (host.sink stream).writeLine line
  (outcome, host.withSink stream after)

/-- Tell developers about an event. A line that cannot be written is lost, and nobody is told. -/
def emit (host : Host) (event : Event) : Host :=
  match host.diagnostics with
  | .kept events => { host with diagnostics := .kept (events ++ [event]) }
  | .shown filter looks =>
    if filter.admits event then
      let line := event.line host.clock
      (host.writeLine .err (Utf8.ofString (if looks then line.marked else line.bare))).2
    else host

/-- The events kept so far. -/
def keptEvents (host : Host) : List Event :=
  match host.diagnostics with
  | .kept events => events
  | .shown _ _ => []

end Host

end AgentKit
