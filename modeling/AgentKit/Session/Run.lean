import AgentKit.Json.Flat
import AgentKit.Session.Step
/-!
# Running a session

Each step runs on the host that the steps before it left, also when they failed. The report of a
step holds its outcome, what it added to the two streams, the calls it made on scripted writers, and
the events it emitted.
-/
namespace AgentKit.Session

/-- What one step did. -/
structure Report where
  outcome : Outcome Failure Answer
  out : Bytes
  err : Bytes
  outCalls : Option (Nat × Nat)
  errCalls : Option (Nat × Nat)
  events : List Event

/-- The lines of a text. A carriage return in front of a line feed belongs to neither line. -/
def linesOf (octets : Bytes) : List String :=
  let pieces := (Utf8.decodeLossy octets).splitOn '\n'
  let whole := if pieces.getLast? = some [] then pieces.dropLast else pieces
  whole.map fun line =>
    String.ofList (if line.getLast? = some '\r' then line.dropLast else line)

/-- The keys of a record. -/
def keysOf (line : String) : List String :=
  ((Json.flatMembers? (Utf8.ofString line)).getD []).map Prod.fst

/-- The answer of an action as the answer of a step. -/
def answerWith {ε α : Type} (failure : ε → Failure) (answer : α → Answer) (action : Action ε α) :
    Action Failure Answer := do
  return answer (← action.mapError failure)

/-- An answer that a look at the host gives. -/
def look (view : Host → Answer) : Action Failure Answer := Action.inspect view

/-- Log one record and pass over a failure. -/
def logQuietly (level : Level) (message : String) (extras : Fields) : Action Empty Unit := do
  let _ ← Action.attempt (Logger.log level message extras)
  return ()

/-- A whole number as the value of a field. -/
def numberValue (number : Nat) : Value := .int (.ofNat number)

/-- The records of one worker. -/
def runWorker (count : Nat) (level : Level) (message : String) (worker : Nat) :
    Action Empty Unit :=
  (List.range count).forM fun index =>
    logQuietly level message [("worker", numberValue worker), ("i", numberValue index)]

/-- The lines that an action added to a stream, in order of their characters. -/
def sortedLinesAdded (stream : Stream) (before after : Host) : List String :=
  (linesOf ((before.sink stream).taken.since (after.sink stream).taken)).mergeSort
    fun left right => left ≤ right

/-- How workers end together when one of them panicked. -/
def workerPanicText : String := "a scoped thread panicked"

/-- Workers that do not wait for one another, here one after the other. One that panics leaves off
there and the others go on, but in the end all of them have panicked. -/
def together : List (Action Empty Unit) → Action Empty Unit
  | [] => Action.done ()
  | worker :: others => fun host =>
    let (outcome, after) := worker host
    let (later, final) := together others after
    match outcome with
    | .done () => (later, final)
    | .panicked _ => (.panicked workerPanicText, final)

/-- All workers. Whole lines never mix, so any order of the workers adds the same lines. -/
def runWorkers (workers count : Nat) (level : Level) (message : String) :
    Action Failure Answer := do
  let before ← Action.inspect id
  (together ((List.range workers).map (runWorker count level message))).mapError Empty.elim
  look fun after =>
    .sortedLines (sortedLinesAdded .out before after) (sortedLinesAdded .err before after)

/-- A request as text, answered by the status server. -/
def runRequest (layout : Layout) (method target : String) : Action Failure Answer :=
  match Http.Method.ofText? method with
  | none => Action.fail .method
  | some method =>
    match Http.Target.read (Utf8.ofString target) with
    | .error fault => Action.fail (.target fault)
    | .ok target => do return .response (← Http.Server.answer layout method target)

/-- One step. -/
def Step.run (layout : Layout) : Step → Action Failure Answer
  | .resolveRoot => do return .path (← Workspace.resolveRoot layout)
  | .dataPath => do return .path (← Workspace.dataPath layout)
  | .outputPath => do return .path (← Workspace.outputPath layout)
  | .cachePath => do return .path (← Workspace.cachePath layout)
  | .paths => do return .paths (← Workspace.paths layout)
  | .ensureDirectories => answerWith .agent .paths (Workspace.ensureDirectories layout)
  | .getSecret name => do return .secret (← Secrets.get name)
  | .requireSecret name => answerWith .agent .required (Secrets.require name)
  | .setVariable name value => do
    Action.changeEnvironment fun environment => environment.set name value
    return .nothing
  | .unsetVariable name => do
    Action.changeEnvironment fun environment => .ok (environment.unset name)
    return .nothing
  | .makeDirectories path =>
    answerWith .io (fun () => .nothing)
      (Action.changeFiles fun files => files.makeDirectories path)
  | .writeFile path contents =>
    answerWith .io (fun () => .nothing)
      (Action.replaceFiles fun files => files.writeFile path contents)
  | .makeLink path target =>
    answerWith .io (fun () => .nothing)
      (Action.replaceFiles fun files => files.makeLink path target)
  | .remove path =>
    answerWith .io (fun () => .nothing) (Action.changeFiles fun files => files.remove path)
  | .list path => look fun host => .names (host.files.listing path)
  | .tree => look fun host => .tree host.files.workingDirectory.tree
  | .log level message extras =>
    answerWith .agent (fun () => .logged) (Logger.log level message extras)
  | .lines stream => look fun host => .names (linesOf (host.sink stream).accepted)
  | .recordKeys stream =>
    look fun host => .keys ((linesOf (host.sink stream).accepted).map keysOf)
  | .concurrent workers count level message => runWorkers workers count level message
  | .task secret timestamp =>
    answerWith .task .written (Task.run layout secret (.standing timestamp))
  | .request method target => runRequest layout method target

/-- The streams and calls of a step show in its report, unless its answer holds the lines that it
added. -/
def showsStreams : Outcome Failure Answer → Bool
  | .done (.sortedLines _ _) => false
  | _ => true

/-- The calls made on a writer between two states of its sink. -/
def callsBetween (shown : Bool) (before after : Sink) : Option (Nat × Nat) :=
  match before.calls?, after.calls? with
  | some (writes, flushes), some (laterWrites, laterFlushes) =>
    if shown then some (laterWrites - writes, laterFlushes - flushes) else some (0, 0)
  | _, _ => none

/-- The octets added to a sink between two of its states. -/
def octetsBetween (shown : Bool) (before after : Sink) : Bytes :=
  if shown then before.taken.since after.taken else []

/-- Run one step and report it. -/
def Step.report (layout : Layout) (step : Step) (host : Host) : Report × Host :=
  let start := { host with diagnostics := .kept [] }
  let (outcome, after) := step.run layout start
  let shown := showsStreams outcome
  ({ outcome := outcome
     out := octetsBetween shown start.out after.out
     err := octetsBetween shown start.err after.err
     outCalls := callsBetween shown start.out after.out
     errCalls := callsBetween shown start.err after.err
     events := after.keptEvents }, after)

/-- Run steps one after the other. -/
def run (layout : Layout) : List Step → Host → List Report × Host
  | [], host => ([], host)
  | step :: later, host =>
    let (report, after) := step.report layout host
    let (reports, final) := run layout later after
    (report :: reports, final)

end AgentKit.Session
