import AgentKit.Logger
import AgentKit.Proofs.RecordText
import AgentKit.Proofs.WriterRun

/-!
# Calls of a logger

A logger is called with one record after the other, on a host whose two sinks are writers behind
locks. Each call is made at the time that its record carries. A call hands the line of its record
to one writer and leaves the other alone; so each stream grows by what the calls on it were taken,
and a failed or abandoned call leaves what it was taken so far.
-/

namespace AgentKit

namespace Host

/-- Both sinks are writers behind locks. -/
def Guarded (host : Host) : Prop := ∀ stream, ∃ lock, host.sink stream = .guarded lock

/-- The octets that a stream has taken. -/
def octets (host : Host) (stream : Stream) : Bytes := (host.sink stream).accepted

/-- A sink that is put in the place of a stream's sink is found there. -/
@[simp] theorem sink_withSink_same (host : Host) (stream : Stream) (sink : Sink) :
    (host.withSink stream sink).sink stream = sink := by
  cases stream <;> rfl

/-- The sink of another stream stays. -/
theorem sink_withSink_other (host : Host) (stream other : Stream) (sink : Sink)
    (differs : stream ≠ other) : (host.withSink stream sink).sink other = host.sink other := by
  cases stream <;> cases other <;> first | rfl | exact absurd rfl differs

end Host

namespace Logger

/-- One call, at the time that the record carries. -/
def call (host : Host) (record : Record) : Outcome AgentError Unit × Host :=
  log record.level record.message record.extras { host with clock := record.clock }

/-- One record handed to a logger. -/
structure LogCall where
  record : Record
  outcome : Outcome AgentError Unit
  before : Host
  after : Host

/-- Calls with one record after the other. -/
def run (host : Host) : List Record → List LogCall × Host
  | [] => ([], host)
  | record :: later =>
    let (outcome, after) := call host record
    let (calls, final) := run after later
    (⟨record, outcome, host, after⟩ :: calls, final)

namespace LogCall

/-- The stream that a call writes to. -/
def stream (call : LogCall) : Stream := call.record.level.stream

/-- The octets that the stream of a call took during it. -/
def accepted (call : LogCall) : Bytes :=
  (call.before.sink call.stream).taken.since (call.after.sink call.stream).taken

/-- What a call added to a stream. -/
def added (stream : Stream) (call : LogCall) : Bytes :=
  if call.stream = stream then call.accepted else []

/-- What one call may do: it adds its octets to its own stream, all of the line or a proper front
of it, and it is done only when it added the line. -/
structure Faithful (call : LogCall) : Prop where
  streams : ∀ stream, call.after.octets stream = call.before.octets stream ++ call.added stream
  part : call.accepted = call.record.line ∨
    ∃ count, count < call.record.line.length ∧ call.accepted = call.record.line.take count
  whole : call.outcome = .done () → call.accepted = call.record.line

end LogCall

/-- A call on a writer behind a lock hands it the line of the record. -/
theorem call_guarded (host : Host) (record : Record) (lock : GuardedWriter)
    (guarded : host.sink record.level.stream = .guarded lock) :
    call host record = ((lock.writeLine record.line).1.mapError .io,
      { host with clock := record.clock }.withSink record.level.stream
        (.guarded (lock.writeLine record.line).2)) := by
  have sink : { host with clock := record.clock }.sink record.level.stream = .guarded lock := by
    rw [← guarded]
    cases record.level.stream <;> rfl
  change write record.level.stream record.line { host with clock := record.clock } = _
  rw [write, Host.writeLine, sink]
  rfl

/-- The call of a logger, as it can be observed. -/
def logCall (host : Host) (record : Record) : LogCall :=
  ⟨record, (call host record).1, host, (call host record).2⟩

/-- After a call, the stream of the record is guarded by the lock that wrote the line, and the other
stream is what it was. -/
theorem call_sinks (host : Host) (record : Record) (lock : GuardedWriter)
    (guarded : host.sink record.level.stream = .guarded lock) :
    (call host record).2.sink record.level.stream = .guarded (lock.writeLine record.line).2 ∧
      ∀ other, record.level.stream ≠ other → (call host record).2.sink other = host.sink other := by
  rw [call_guarded host record lock guarded]
  refine ⟨Host.sink_withSink_same _ _ _, ?_⟩
  intro other differs
  rw [Host.sink_withSink_other _ _ other _ differs]
  cases other <;> rfl

/-- Calls keep the sinks behind locks. -/
theorem call_keeps_guarded (host : Host) (record : Record) (guarded : host.Guarded) :
    (call host record).2.Guarded := by
  obtain ⟨lock, sink⟩ := guarded record.level.stream
  obtain ⟨own, others⟩ := call_sinks host record lock sink
  intro stream
  by_cases same : record.level.stream = stream
  · exact ⟨_, same ▸ own⟩
  · rw [others stream same]
    exact guarded stream

/-- The octets that a call adds are those that the writer took for the line. -/
theorem logCall_accepted (host : Host) (record : Record) (lock : GuardedWriter)
    (guarded : host.sink record.level.stream = .guarded lock) :
    (logCall host record).accepted = (lock.writer.lineCall record.line).accepted := by
  have own := (call_sinks host record lock guarded).1
  have after := (GuardedWriter.writeLine_unguarded lock record.line).2
  change (host.sink record.level.stream).taken.since
    ((call host record).2.sink record.level.stream).taken = _
  rw [own, guarded]
  change lock.writer.taken.since (lock.writeLine record.line).2.writer.taken = _
  rw [after]
  rfl

/-- An error that is handed on under another name stays an error. -/
theorem mapError_done {ε δ α : Type} (change : ε → δ) (outcome : Outcome ε α) (value : α)
    (done : outcome.mapError change = .done value) : outcome = .done value := by
  cases outcome with
  | done held => exact congrArg Outcome.done (Outcome.done.inj done)
  | failed error => cases done
  | panicked text => cases done

/-- Every call on a writer behind a lock is faithful. -/
theorem logCall_faithful (host : Host) (guarded : host.Guarded) (record : Record) :
    (logCall host record).Faithful := by
  obtain ⟨lock, sink⟩ := guarded record.level.stream
  obtain ⟨own, others⟩ := call_sinks host record lock sink
  have accepted := logCall_accepted host record lock sink
  have exact := lock.writer.lineCall_exact record.line
  obtain ⟨outcome, after⟩ := lock.writeLine_unguarded record.line
  refine ⟨?_, ?_, ?_⟩
  · intro stream
    by_cases same : record.level.stream = stream
    · have added : (logCall host record).added stream = (logCall host record).accepted :=
        if_pos same
      subst same
      rw [added, accepted]
      change ((call host record).2.sink record.level.stream).accepted =
        (host.sink record.level.stream).accepted ++ _
      rw [own, sink]
      change (lock.writeLine record.line).2.writer.taken.octets = lock.writer.taken.octets ++ _
      rw [after]
      exact exact.stream
    · have added : (logCall host record).added stream = [] := if_neg same
      rw [added, List.append_nil]
      exact congrArg Sink.accepted (others stream same)
  · rw [accepted]
    exact exact.ended.part
  · intro done
    rw [accepted]
    refine exact.ended.all_of_done ?_
    change (lock.writer.writeLine record.line).1 = .done ()
    rw [← outcome]
    have result : (call host record).1 = .done () := done
    rw [call_guarded host record lock sink] at result
    exact mapError_done AgentError.io _ () result

/-- A call that is done adds the line of its record to the record's stream. -/
theorem done_call_adds (host : Host) (guarded : host.Guarded) (record : Record)
    (done : (call host record).1 = .done ()) :
    (call host record).2.octets record.level.stream =
      host.octets record.level.stream ++ record.line := by
  have faithful := logCall_faithful host guarded record
  have streams := faithful.streams record.level.stream
  have own : (logCall host record).added record.level.stream = record.line :=
    (if_pos rfl).trans (faithful.whole done)
  rwa [own] at streams

/-- The first call of a run, and the others on the host that it left. -/
theorem run_cons (host : Host) (record : Record) (later : List Record) :
    run host (record :: later) =
      (logCall host record :: (run (call host record).2 later).1,
        (run (call host record).2 later).2) := rfl

/-- Some calls and then some more. -/
theorem run_append (host : Host) (earlier later : List Record) :
    run host (earlier ++ later) =
      ((run host earlier).1 ++ (run (run host earlier).2 later).1,
        (run (run host earlier).2 later).2) := by
  induction earlier generalizing host with
  | nil => rfl
  | cons record rest inductionHypothesis =>
    rw [List.cons_append, run_cons, run_cons, inductionHypothesis]
    rfl

/-- Calls on one stream hand their lines to the writer behind its lock, one after the other. -/
theorem run_guarded (host : Host) (stream : Stream) (lock : GuardedWriter)
    (guarded : host.sink stream = .guarded lock) (records : List Record)
    (same : ∀ record ∈ records, record.level.stream = stream) :
    (run host records).2.sink stream = .guarded (lock.run (records.map Record.line)).2 ∧
      (run host records).1.map LogCall.outcome =
        (lock.run (records.map Record.line)).1.map fun call => call.outcome.mapError .io := by
  induction records generalizing host lock with
  | nil => exact ⟨guarded, rfl⟩
  | cons record later inductionHypothesis =>
    obtain rfl := same record List.mem_cons_self
    have own := (call_sinks host record lock guarded).1
    have outcome := congrArg Prod.fst (call_guarded host record lock guarded)
    obtain ⟨sink, outcomes⟩ := inductionHypothesis (call host record).2
      (lock.writeLine record.line).2 own fun other member =>
        same other (List.mem_cons_of_mem _ member)
    rw [run_cons, List.map_cons, GuardedWriter.run_cons]
    refine ⟨sink, ?_⟩
    rw [List.map_cons, List.map_cons, outcomes]
    refine congrArg (· :: _) (outcome.trans ?_)
    rw [(lock.writeLine_unguarded record.line).1]
    rfl

/-- A run keeps the sinks behind locks, every call of it is faithful, and each stream grows by what
its calls added, in their order. -/
theorem run_streams (host : Host) (guarded : host.Guarded) (records : List Record) :
    (run host records).2.Guarded ∧ (∀ call ∈ (run host records).1, call.Faithful) ∧
    ∀ stream, (run host records).2.octets stream =
      host.octets stream ++ (run host records).1.flatMap (LogCall.added stream) := by
  induction records generalizing host with
  | nil =>
    refine ⟨guarded, ?_, fun _ => (List.append_nil _).symm⟩
    intro call member
    cases member
  | cons record later inductionHypothesis =>
    have faithful := logCall_faithful host guarded record
    obtain ⟨kept, all, grown⟩ :=
      inductionHypothesis (call host record).2 (call_keeps_guarded host record guarded)
    rw [run_cons]
    refine ⟨kept, ?_, ?_⟩
    · intro other member
      rcases List.mem_cons.mp member with rfl | member
      · exact faithful
      · exact all other member
    · intro stream
      have first : (call host record).2.octets stream =
          host.octets stream ++ (logCall host record).added stream := faithful.streams stream
      rw [List.flatMap_cons, grown stream, first, List.append_assoc]

end Logger

end AgentKit
