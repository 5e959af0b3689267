import AgentKit.Program.Greeter
import AgentKit.Proofs.FilterReading
import AgentKit.Proofs.RecordText
import AgentKit.Proofs.TaskStages

/-!
# Runs of the greeting program

The program ends as the stages of its task end. Its code says whether all of them are done, the
output stream holds a front of the four records, and the error stream holds the lines for developers
and, behind them, one record about the first stage that failed. What becomes of the error stream has
no part in the rest.

All of this is about programs that get to their work. A filter of diagnostics with a severed piece
lets no program begin, whatever its arguments are: it leaves its last words on the error stream, and
nothing else.
-/

namespace AgentKit.Program

/-- The host of a program that starts. -/
def startHost (environment : Environment) (files : Files) (out err : Descriptor) (clock : Clock)
    (filter : Filter) : Host where
  environment := environment
  files := files
  out := .descriptor out.atStart .nothing
  err := .descriptor err.atStart .nothing
  clock := clock
  diagnostics := .shown filter (looksOfDiagnostics environment)

namespace Greeter

open AgentKit.Task

/-- The stages of the task on a host. -/
def stagesOn (secret : String) (host : Host) : List Stage :=
  stages (Workspace.select .standard host) (wordsOn host secret) host.clock

/-- The performance of the stages on a host. -/
def performanceOn (secret : String) (host : Host) : Performance :=
  perform host.clock (stagesOn secret host) (.of host)

/-- The record about a task that failed. -/
def failureRecord (clock : Clock) (reason : String) : Record :=
  ⟨.error, "task failed", clock, [("error", .string reason)]⟩

/-- The record is read back with its four members. -/
theorem failureRecord_read (clock : Clock) (reason : String) :
    Json.flatMembers? (Utf8.encode (failureRecord clock reason).text) =
      some [("level", .string "error"), ("msg", .string "task failed"),
        ("ts", .string (String.ofList clock.text)), ("error", .string reason)] := by
  have members : (failureRecord clock reason).members =
      [("level", .string "error"), ("msg", .string "task failed"),
        ("ts", .string (String.ofList clock.text)), ("error", .string reason)] := by
    simp [Record.members, Record.reserved, failureRecord, Fields.merge, Fields.put, Level.name]
  rw [Record.text, Json.flatMembers_text, members]
  rfl

/-- The line of the record is written to the error stream, and nothing else happens. -/
theorem reportFailure_eq (error : TaskError) (host : Host) :
    reportFailure error host =
      { host with err := (host.err.writeLine (failureRecord host.clock error.message).line).2 } :=
  rfl

/-- The work of the program is the performance of the stages, and a report when one failed. -/
theorem work_performance (secret : String) (host : Host) :
    let performed := performanceOn secret host
    let left := performed.product.on host performed.events
    work secret host = match performed.outcome with
      | .done () => (succeeded, left)
      | .failed error => (failed, reportFailure error left)
      | .panicked _ => (abandoned, left) := by
  intro performed left
  obtain ⟨agree, after⟩ := run_perform .standard secret host.clock host
  change Outcome.Agree _ performed.outcome _ at agree
  change _ = left at after
  rcases taken : (Task.run .standard secret host.clock).run host with ⟨outcome, ended⟩
  rw [taken] at agree after
  obtain rfl : ended = left := after
  change Task.run .standard secret host.clock host = _ at taken
  generalize performed.outcome = performedOutcome at agree
  cases agree with
  | done agree => rw [work, taken]
  | failed error => rw [work, taken]
  | panicked text => rw [work, taken]

/-- The report of a failed stage: one record behind the lines for developers, which says what failed
and why. -/
structure Reported (stage : Stage) (cause : IoError) (events : List Event) (before after : Host) :
    Prop where
  written : ∃ record : Record,
    after.err = before.err.after (before.eventLines events ++ [record.line]) ∧
    (before.err.Writable → after.err.accepted =
      before.err.accepted ++ (before.eventLines events).flatten ++ record.line) ∧
    record.line = Utf8.encode record.text ++ [0x0A] ∧ 0x0A ∉ Utf8.encode record.text ∧
    Json.flatMembers? (Utf8.encode record.text) =
      some [("level", .string "error"), ("msg", .string "task failed"),
        ("ts", .string (String.ofList before.clock.text)),
        ("error", .string (stage.context ++ cause.message))]

/-- How the program ends on a host. -/
structure Ending (secret : String) (before : Host) (ended : Exit × Host) : Prop where
  /-- The code says whether all stages are done: the records were taken, the directories are made
  and the greeting file is written. -/
  code : (ended.1 = succeeded ↔
      ∃ final, Done before.clock (stagesOn secret before) (.of before) final) ∧
    (ended.1 = succeeded ∨ ended.1 = failed)
  /-- The task has an answer in the same cases. -/
  answer : ended.1 = succeeded ↔
    ∃ path, ((Task.run .standard secret before.clock).run before).1 = .done path
  /-- A run that went well leaves what the stages leave, and the error stream to the lines for
  developers. -/
  well : ended.1 = succeeded →
    Done before.clock (stagesOn secret before) (.of before) (.of ended.2) ∧
      ended.2.err = before.err.after (before.eventLines (eventsOn before .standard))
  /-- A run that failed stopped at a stage, and reports it. -/
  fault : ended.1 = failed → ∃ stage cause events,
    FailsAt before.clock (stagesOn secret before) (.of before) stage cause (.of ended.2) ∧
    events <+: eventsOn before .standard ∧ Reported stage cause events before ended.2
  /-- The output stream holds a front of the records, only whole ones if it takes whole lines only,
  and all of them when the run went well, unless it discards lines. -/
  records : ∃ held, ended.2.out.accepted = before.out.accepted ++ held ∧
    held <+: (linesOf before.clock (stagesOn secret before)).flatten ∧
    (before.out.AllOrNothing → ∃ first,
      first <+: linesOf before.clock (stagesOn secret before) ∧ held = first.flatten) ∧
    (ended.1 = succeeded → ¬ before.out.Discards →
      held = (linesOf before.clock (stagesOn secret before)).flatten)

/-- The error stream behind a performance holds the lines for developers. -/
theorem on_err (product : Product) (host : Host) (events : List Event) :
    (product.on host events).err = host.err.after (host.eventLines events) :=
  Host.foldl_emit_err events host

/-- Behind a report it holds one record more. -/
theorem reportFailure_err (error : TaskError) (product : Product) (host : Host)
    (events : List Event) :
    (reportFailure error (product.on host events)).err =
      host.err.after
        (host.eventLines events ++ [(failureRecord host.clock error.message).line]) := by
  rw [reportFailure_eq, Product.on_clock, on_err, Sink.after_append]
  rfl

/-- The report about a stage that failed is one record behind the lines for developers. -/
theorem reportFailure_reported (stage : Stage) (cause : IoError) (product : Product) (host : Host)
    (events : List Event) :
    Reported stage cause events host
      (reportFailure (stage.error cause) (product.on host events)) := by
  have err := reportFailure_err (stage.error cause) product host events
  rw [Stage.error_message] at err
  obtain ⟨ends, inside⟩ :=
    Record.line_single (failureRecord host.clock (stage.context ++ cause.message))
  refine ⟨_, err, fun writable => ?_, ends, inside, failureRecord_read _ _⟩
  rw [err, writable, List.flatten_append, List.append_assoc, List.flatten_singleton]

/-- The program ends as the stages of its task end. -/
theorem work_ending (secret : String) (host : Host) (calm : host.out.Calm) :
    Ending secret host (work secret host) := by
  have distinct : failed ≠ succeeded := by decide
  have answer := run_answer .standard secret host.clock host
  obtain ⟨told, all⟩ := perform_told host.clock (stagesOn secret host) (.of host)
  obtain ⟨held, takes, front, whole, full⟩ :=
    perform_held host.clock (stagesOn secret host) (.of host)
  rcases perform_ends (stagesOn secret host) (.of host) calm with
    ⟨done, stages⟩ | ⟨stage, cause, stopped, stops⟩
  · change (performanceOn secret host).outcome = _ at done
    have ended : work secret host = (succeeded,
        (performanceOn secret host).product.on host (performanceOn secret host).events) :=
      (work_performance secret host).trans (by rw [done])
    rw [ended]
    constructor
    case code => exact ⟨iff_of_true rfl ⟨_, stages⟩, .inl rfl⟩
    case answer => exact iff_of_true rfl (answer.mpr done)
    case well =>
      intro _
      refine ⟨stages, ?_⟩
      rw [on_err]
      exact congrArg (fun events => host.err.after (host.eventLines events)) (all done)
    case fault =>
      intro wrong
      exact absurd wrong.symm distinct
    case records => exact ⟨held, takes, front, whole, fun _ => full done⟩
  · change (performanceOn secret host).outcome = _ at stopped
    have ended : work secret host = (failed, reportFailure (stage.error cause)
        ((performanceOn secret host).product.on host (performanceOn secret host).events)) :=
      (work_performance secret host).trans (by rw [stopped])
    have undone : (performanceOn secret host).outcome ≠ .done () := by
      rw [stopped]
      nofun
    rw [ended]
    constructor
    case code =>
      refine ⟨iff_of_false distinct ?_, .inr rfl⟩
      rintro ⟨final, stages⟩
      exact undone stages.outcome
    case answer => exact iff_of_false distinct (undone <| answer.mp ·)
    case well =>
      intro wrong
      exact absurd wrong distinct
    case fault =>
      intro _
      exact ⟨stage, cause, _, stops, told, reportFailure_reported stage cause _ host _⟩
    case records => exact ⟨held, takes, front, whole, fun wrong => absurd wrong distinct⟩

/-- The code of a run does not depend on the error stream. -/
theorem work_err (secret : String) (host : Host) (err : Sink) :
    (work secret { host with err }).1 = (work secret host).1 := by
  have same : performanceOn secret { host with err } = performanceOn secret host := rfl
  rw [work_performance, work_performance, same]
  split <;> rfl

/-- A program whose arguments are read goes to work. -/
theorem run_parsed {arguments : List Bytes} {values : List (String × CommandLine.OptionValue)}
    (parsed : CommandLine.read about.rules arguments = .ok (.run values)) (host : Host) :
    program.run arguments host = work (textOf values secretOption Task.greetingSecret) host := by
  have taken : CommandLine.read program.about.rules arguments = .ok (.run values) := parsed
  rw [Program.run, taken]
  rfl

/-- A program with a filter of diagnostics and no obstacle runs on the host of its start. -/
theorem start_run {environment : Environment} {filter : Filter}
    (readable : filterOf? environment = some filter) (arguments : List Bytes) (files : Files)
    (out err : Descriptor) (clock : Clock) (lastWords : String) :
    program.start arguments environment files out err clock lastWords =
      program.run arguments (startHost environment files out err clock filter) := by
  rw [start, readable]
  rfl

/-- A program that panics before its work: its last words are on the error stream as far as that
takes them, the output stream holds nothing, and the files are what they were. -/
structure Abandoned (files : Files) (err : Descriptor) (lastWords : String) (ended : Exit × Host) :
    Prop where
  code : ended.1 = abandoned
  out : ended.2.out.accepted = []
  err : ended.2.err.accepted = err.atStart.takes [Utf8.ofString lastWords]
  files : ended.2.files = files

/-- Without a filter it panics before its work. -/
theorem start_abandoned {environment : Environment} (unreadable : filterOf? environment = none)
    (arguments : List Bytes) (files : Files) (out err : Descriptor) (clock : Clock)
    (lastWords : String) :
    Abandoned files err lastWords
      (program.start arguments environment files out err clock lastWords) := by
  have started : program.start arguments environment files out err clock lastWords =
      (abandoned, print .err lastWords (startHost environment files out err clock [])) := by
    rw [start, unreadable]
    rfl
  rw [started]
  exact ⟨rfl, rfl, Sink.descriptor_accepted err.atStart .nothing [Utf8.ofString lastWords], rfl⟩

/-- A program whose arguments are read runs its task on any host with an output stream that does not
panic, and ends as the stages of the task end, with a code that does not depend on the error stream.
A process starts as such a run if its environment gives a filter of diagnostics; its output stream
does not panic and takes whole lines only. Without a filter the program is abandoned: whatever its
last words are, they are all that it leaves behind. But there is a filter unless a piece of the
value begins with a blank. -/
theorem run_ends {arguments : List Bytes} {values : List (String × CommandLine.OptionValue)}
    (parsed : CommandLine.read about.rules arguments = .ok (.run values)) :
    let secret := textOf values secretOption Task.greetingSecret
    (∀ host : Host, host.out.Calm → Ending secret host (program.run arguments host) ∧
      ∀ err, (program.run arguments { host with err }).1 = (program.run arguments host).1) ∧
    ∀ environment files out err clock lastWords,
      (∀ filter, filterOf? environment = some filter →
        let host := startHost environment files out err clock filter
        program.start arguments environment files out err clock lastWords =
            program.run arguments host ∧
          host.out.Calm ∧ host.out.AllOrNothing) ∧
      (filterOf? environment = none → Abandoned files err lastWords
        (program.start arguments environment files out err clock lastWords)) ∧
      ((∀ text, (environment.octets? filterVariable).bind Utf8.toString? = some text →
        Filter.Solid text) → (filterOf? environment).isSome) := by
  intro secret
  have run (host : Host) : program.run arguments host = work secret host := run_parsed parsed host
  constructor
  · intro host calm
    constructor
    · rw [run]
      exact work_ending secret host calm
    · intro err
      rw [run, run]
      exact work_err secret host err
  · intro environment files out err clock lastWords
    refine ⟨?_, ?_, ?_⟩
    · intro filter readable
      refine ⟨start_run readable .., ?_, ?_⟩
      · exact Sink.descriptor_calm _ _
      · exact Sink.descriptor_allOrNothing _ _
    · intro unreadable
      exact start_abandoned unreadable ..
    · exact Filter.ofVariable?_isSome

/-- A process without arguments and variables runs the task for the default secret. -/
theorem run_ends_plain :
    CommandLine.read about.rules [] = .ok (.run []) ∧
    filterOf? (.process []) = some (.ofThreshold .warn) ∧
    Ending Task.greetingSecret
      (startHost (.process []) .fresh .file .file .masked (.ofThreshold .warn))
      (program.start [] (.process []) .fresh .file .file .masked "") ∧
    (startHost (.process []) .fresh .file .file .masked (.ofThreshold .warn)).err.Writable := by
  have parsed : CommandLine.read about.rules [] = .ok (.run []) := rfl
  have readable : filterOf? (.process []) = some (.ofThreshold .warn) := rfl
  obtain ⟨runs, starts⟩ := run_ends parsed
  obtain ⟨same, calm, _⟩ :=
    (starts (.process []) .fresh .file .file .masked "").1 (.ofThreshold .warn) readable
  refine ⟨parsed, readable, ?_, Sink.file_writable _⟩
  rw [same]
  exact (runs _ calm).1

/-- A process whose filter has a piece that ends inside a character. -/
def severedBlock : List Bytes :=
  [Utf8.ofString "AEGIS_WORKSPACE_PATH=r", Utf8.ofString "RUST_LOG= é=debug"]

/-- What a program says about such a piece. -/
def severedWords : String := "byte index 1 is not a char boundary\n"

/-- It has no filter, and the program neither succeeds nor fails. -/
theorem severed_abandons :
    CommandLine.read about.rules [] = .ok (.run []) ∧ filterOf? (.process severedBlock) = none ∧
    (program.start [] (.process severedBlock) .fresh .file .full .masked severedWords).1 =
      abandoned ∧
    abandoned ≠ succeeded ∧ abandoned ≠ failed := by
  have unreadable : filterOf? (.process severedBlock) = none := by decide +kernel
  exact ⟨rfl, unreadable, (start_abandoned unreadable ..).code, by decide, by decide⟩

end Greeter

end AgentKit.Program
