import AgentKit.Proofs.LoggerRun
import Mathlib.Logic.Function.Basic

/-!
# Streams apart

A logger hands each record to the sink of one stream, and the level alone decides which one. What
the sinks are is left open: a sink has states, does something with a line in one of them and is left
in another, so it may fail, take a part of a line, or change its ways at any time. A call is judged
by the sink that it asked.

The calls of a run fall into those on the one stream and those on the other, and neither have a part
in what becomes of the others: each call finds its sink in the state that it would find if the calls
on the other stream were left out. The loggers of hosts run in this way on the sinks of hosts.
-/

namespace AgentKit

/-- Sinks of any kind, one for each stream. In each of its states a sink does something with a line,
and is left in a state that decides about the next line. -/
structure Sinks where
  State : Stream → Type
  writeLine (stream : Stream) : State stream → Bytes → Outcome IoError Unit × State stream

namespace Sinks

/-- The states of both sinks. -/
abbrev States (sinks : Sinks) : Type := (stream : Stream) → sinks.State stream

/-- The sinks of hosts. -/
abbrev ofHosts : Sinks where
  State := fun _ => Sink
  writeLine := fun _ => Sink.writeLine

end Sinks

/-- A field that stands behind all others gives its key the value. -/
theorem Fields.last?_concat (fields : Fields) (key : String) (value : Value) :
    Fields.last? key (fields ++ [(key, value)]) = some value := by
  induction fields with
  | nil => simp [Fields.last?]
  | cons field later inductionHypothesis =>
    rw [List.cons_append, Fields.last?, inductionHypothesis]
    rfl

namespace Logger

variable (sinks : Sinks)

/-- One record handed to the sink of its stream. -/
def hand (states : sinks.States) (record : Record) : Outcome AgentError Unit × sinks.States :=
  let stream := record.level.stream
  let (outcome, after) := sinks.writeLine stream (states stream) record.line
  (outcome.mapError .io, Function.update states stream after)

/-- Records handed on one after the other, each with the result of its call. -/
def handAll (states : sinks.States) :
    List Record → List (Record × Outcome AgentError Unit) × sinks.States
  | [] => ([], states)
  | record :: later =>
    let (outcome, after) := hand sinks states record
    let (results, final) := handAll after later
    ((record, outcome) :: results, final)

/-- What one call does. The sink of the record's stream is asked, once and for the line of the
record, and the other sink is not. The call fails exactly when the sink fails, with the error of the
sink as it is. -/
structure Handed (before : sinks.States) (record : Record)
    (ended : Outcome AgentError Unit × sinks.States) : Prop where
  asked : ended.2 record.level.stream =
    (sinks.writeLine record.level.stream (before record.level.stream) record.line).2
  aside : ∀ other, other ≠ record.level.stream → ended.2 other = before other
  done : ended.1 = .done () ↔
    (sinks.writeLine record.level.stream (before record.level.stream) record.line).1 = .done ()
  failed : ∀ error, ended.1 = .failed error ↔ ∃ cause,
    (sinks.writeLine record.level.stream (before record.level.stream) record.line).1 =
        .failed cause ∧
      error.ioError? = some cause
  carried : ∀ error cause, ended.1 = .failed error → error.ioError? = some cause →
    error.message = cause.message

variable {sinks}

/-- A call hands its record to one sink. -/
theorem hand_handed (states : sinks.States) (record : Record) :
    Handed sinks states record (hand sinks states record) := by
  rcases taken : sinks.writeLine record.level.stream (states record.level.stream) record.line with
    ⟨outcome, after⟩
  have ended : hand sinks states record =
      (outcome.mapError .io, Function.update states record.level.stream after) := by
    rw [hand, taken]
  constructor
  · rw [ended, taken]
    exact Function.update_self ..
  · intro other differs
    rw [ended]
    exact Function.update_of_ne differs ..
  · rw [ended, taken]
    cases outcome with
    | done value => exact iff_of_true rfl rfl
    | failed cause => constructor <;> nofun
    | panicked text => constructor <;> nofun
  · intro error
    rw [ended, taken]
    cases outcome with
    | done value => constructor <;> nofun
    | failed cause =>
      constructor
      · intro same
        exact ⟨cause, rfl, congrArg AgentError.ioError? (Outcome.failed.inj same).symm⟩
      · rintro ⟨other, same, carried⟩
        cases same
        cases error with
        | secretUnavailable name => cases carried
        | io held =>
          cases carried
          rfl
    | panicked text => constructor <;> nofun
  · intro error cause _ carried
    cases error with
    | secretUnavailable name => cases carried
    | io held => exact congrArg IoError.message (Option.some.inj carried)

/-- A call depends on the state of its own sink only. -/
theorem hand_congr {states others : sinks.States} {record : Record}
    (agree : states record.level.stream = others record.level.stream) :
    (hand sinks states record).1 = (hand sinks others record).1 ∧
      (hand sinks states record).2 record.level.stream =
        (hand sinks others record).2 record.level.stream := by
  constructor
  · rw [hand, hand, agree]
  · rw [(hand_handed states record).asked, (hand_handed others record).asked, agree]

/-- The first call of a run, and the others on the states that it left. -/
theorem handAll_cons (states : sinks.States) (record : Record) (later : List Record) :
    handAll sinks states (record :: later) =
      ((record, (hand sinks states record).1) ::
          (handAll sinks (hand sinks states record).2 later).1,
        (handAll sinks (hand sinks states record).2 later).2) := rfl

/-- Records of one stream. -/
def goesTo (stream : Stream) (record : Record) : Bool := record.level.stream = stream

/-- The calls on one stream end as they would end alone, and leave its sink as they would leave it
alone, whatever the other sink does.

Induct over the calls. A call on the stream finds the same state of its sink in both runs, and so
leaves the same; one on the other stream leaves that sink alone. -/
theorem handAll_goesTo (stream : Stream) (records : List Record) {states others : sinks.States}
    (agree : states stream = others stream) :
    (handAll sinks states records).1.filter (fun result => goesTo stream result.1) =
        (handAll sinks others (records.filter (goesTo stream))).1 ∧
      (handAll sinks states records).2 stream =
        (handAll sinks others (records.filter (goesTo stream))).2 stream := by
  induction records generalizing states others with
  | nil => exact ⟨rfl, agree⟩
  | cons record later inductionHypothesis =>
    by_cases own : record.level.stream = stream
    · have goes : goesTo stream record = true := decide_eq_true own
      subst own
      obtain ⟨result, left⟩ := hand_congr agree
      obtain ⟨results, final⟩ := inductionHypothesis left
      simp only [handAll_cons, List.filter_cons, goes, if_true, result, results, true_and]
      exact final
    · have stays : goesTo stream record = false := decide_eq_false own
      have left := (hand_handed states record).aside stream (Ne.symm own)
      obtain ⟨results, final⟩ := inductionHypothesis (left.trans agree)
      simp only [handAll_cons, List.filter_cons, stays, Bool.false_eq_true, if_false]
      exact ⟨results, final⟩

/-- Calls on one stream leave the sink of the other as it was. -/
theorem handAll_aside {stream other : Stream} (differs : other ≠ stream) (records : List Record)
    (states : sinks.States) :
    (handAll sinks states (records.filter (goesTo stream))).2 other = states other := by
  have none : (records.filter (goesTo stream)).filter (goesTo other) = [] := by
    rw [List.filter_filter, List.filter_eq_nil_iff]
    intro record _ both
    simp only [goesTo, Bool.and_eq_true, decide_eq_true_eq] at both
    exact differs (both.1.symm.trans both.2)
  have alone := (handAll_goesTo other (records.filter (goesTo stream))
    (rfl : states other = states other)).2
  rwa [none] at alone

/-- A call of a host's logger hands the record to the host's sinks. -/
theorem call_hand (host : Host) (record : Record) :
    (call host record).1 = (hand .ofHosts host.sink record).1 ∧
      (call host record).2.sink = (hand .ofHosts host.sink record).2 := by
  have sink : { host with clock := record.clock }.sink = host.sink := by
    funext stream
    cases stream <;> rfl
  have written : call host record =
      (((host.sink record.level.stream).writeLine record.line).1.mapError .io,
        { host with clock := record.clock }.withSink record.level.stream
          ((host.sink record.level.stream).writeLine record.line).2) := by
    rw [← sink]
    rfl
  have handed : Handed .ofHosts host.sink record (hand .ofHosts host.sink record) :=
    @hand_handed .ofHosts host.sink record
  rw [written]
  refine ⟨rfl, ?_⟩
  funext stream
  by_cases own : stream = record.level.stream
  · subst own
    rw [handed.asked]
    exact Host.sink_withSink_same ..
  · rw [handed.aside stream own, Host.sink_withSink_other _ _ _ _ (Ne.symm own), sink]

/-- The result of a call. -/
def LogCall.result (call : LogCall) : Record × Outcome AgentError Unit :=
  (call.record, call.outcome)

/-- A run of a host's logger hands the records to the host's sinks. -/
theorem run_handAll (host : Host) (records : List Record) :
    (run host records).1.map LogCall.result = (handAll .ofHosts host.sink records).1 ∧
      (run host records).2.sink = (handAll .ofHosts host.sink records).2 := by
  induction records generalizing host with
  | nil => exact ⟨rfl, rfl⟩
  | cons record later inductionHypothesis =>
    obtain ⟨outcome, sink⟩ := call_hand host record
    obtain ⟨results, final⟩ := inductionHypothesis (call host record).2
    rw [run_cons, handAll_cons, ← sink, ← outcome]
    exact ⟨congrArg (_ :: ·) results, final⟩

/-- Only errors go to the error stream. -/
theorem goesTo_err : goesTo .err = fun record => decide (record.level = .error) := by
  funext record
  rw [goesTo, decide_eq_decide]
  cases record.level <;> decide

/-- Everything else goes to the output stream. -/
theorem goesTo_out : goesTo .out = fun record => decide (record.level ≠ .error) := by
  funext record
  rw [goesTo, decide_eq_decide]
  cases record.level <;> decide

/-- A record whose caller gives it another level to show. -/
def forged (record : Record) (value : Value) : Record :=
  { record with extras := record.extras ++ [("level", value)] }

/-- It shows that level. -/
theorem value?_forged (record : Record) (value : Value) :
    (forged record value).value? "level" = some value := by
  rw [Record.value?, forged, Fields.last?_concat]
  rfl

/-- Whatever the sinks are, calls with errors and other calls have no part in each other. The output
sink ends, and so does every call that is no error, as if the errors had been left out, and those
calls alone leave the error sink as it was. The same holds the other way round. Each call asks the
sink of its level and no other, fails exactly when that sink fails, and hands on its error; a level
that the caller gives as a field is shown by the record, but does not lead it elsewhere. The logger
of a host is such a run on the sinks of the host. -/
theorem streams_separate (sinks : Sinks) (states : sinks.States) (records : List Record) :
    let all := handAll sinks states records
    let errors := handAll sinks states (records.filter fun record => record.level = .error)
    let others := handAll sinks states (records.filter fun record => record.level ≠ .error)
    (all.2 .out = others.2 .out ∧ others.2 .err = states .err ∧
      (all.1.filter fun result => result.1.level ≠ .error) = others.1) ∧
    (all.2 .err = errors.2 .err ∧ errors.2 .out = states .out ∧
      (all.1.filter fun result => result.1.level = .error) = errors.1) ∧
    (∀ before record, Handed sinks before record (hand sinks before record)) ∧
    (∀ before record value, (forged record value).value? "level" = some value ∧
      ∀ stream, stream ≠ record.level.stream →
        (hand sinks before (forged record value)).2 stream = before stream) ∧
    ∀ host : Host, (run host records).1.map LogCall.result =
        (handAll .ofHosts host.sink records).1 ∧
      (run host records).2.sink = (handAll .ofHosts host.sink records).2 := by
  intro all errors others
  obtain ⟨outResults, outFinal⟩ := handAll_goesTo .out records (rfl : states .out = states .out)
  obtain ⟨errResults, errFinal⟩ := handAll_goesTo .err records (rfl : states .err = states .err)
  have outAside := handAll_aside (by decide : Stream.err ≠ .out) records states
  have errAside := handAll_aside (by decide : Stream.out ≠ .err) records states
  rw [goesTo_out] at outResults outFinal outAside
  rw [goesTo_err] at errResults errFinal errAside
  refine ⟨⟨outFinal, outAside, outResults⟩, ⟨errFinal, errAside, errResults⟩, ?_, ?_, ?_⟩
  · exact hand_handed
  · intro before record value
    exact ⟨value?_forged record value, (hand_handed before (forged record value)).aside⟩
  · exact fun host => run_handAll host records

end Logger

end AgentKit
