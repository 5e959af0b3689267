import AgentKit.Proofs.GreeterRun

/-!
# A change of the filter

What the filter of diagnostics has to do with a run of the greeting program: it decides which lines
for developers stand on the error stream, in front of what the program itself writes there, and
nothing else. Two processes whose environments differ in the filter alone are compared. Both have to
start, so both environments have to give a filter; and the secret must not be looked up under a name
that begins with the variable of the filter and an equals sign, because such a look-up reads the
filter.
-/

namespace AgentKit

namespace Environment

/-- No entry of a variable is found under a name. -/
def Apart (changed name : Bytes) : Prop := ¬ changed ++ [equals] <+: name ++ [equals]

instance (changed name : Bytes) : Decidable (Apart changed name) := inferInstanceAs (Decidable ¬ _)

/-- An entry has a value under a name exactly if it is the name, an equals sign and the value. -/
theorem valueIn?_eq_some {name entry value : Bytes} :
    valueIn? name entry = some value ↔ entry = name ++ equals :: value := by
  have shape : name ++ equals :: value = name ++ [equals] ++ value := by simp
  have behind (rest : Bytes) : (name ++ [equals] ++ rest).drop (name.length + 1) = rest :=
    List.drop_left' List.length_append
  rw [shape, valueIn?]
  constructor
  · intro found
    split at found
    next begins =>
      obtain ⟨rest, rfl⟩ := List.isPrefixOf_iff_prefix.mp begins
      rw [behind] at found
      rw [Option.some.inj found]
    next => cases found
  · rintro rfl
    rw [if_pos (List.isPrefixOf_iff_prefix.mpr (List.prefix_append _ _)), behind]

/-- An entry is found under a name only if it begins with the name and an equals sign. -/
theorem valueIn?_begins {name entry : Bytes} (found : valueIn? name entry ≠ none) :
    name ++ [equals] <+: entry := by
  obtain ⟨value, held⟩ := Option.ne_none_iff_exists'.mp found
  rw [valueIn?_eq_some.mp held]
  exact ⟨value, by simp⟩

/-- An entry of a variable is not found under a name that is apart from it. -/
theorem Apart.valueIn? {changed name : Bytes} (apart : Apart changed name)
    (plain : equals ∉ changed) {entry : Bytes}
    (held : Environment.valueIn? changed entry ≠ none) :
    Environment.valueIn? name entry = none := by
  by_contra found
  rcases List.prefix_or_prefix_of_prefix (valueIn?_begins held) (valueIn?_begins found) with
    long | short
  · exact apart long
  · rcases List.prefix_concat_iff.mp short with same | inside
    · exact apart (same ▸ List.prefix_rfl)
    · exact plain (inside.subset (by simp))

/-- Without the entries of a variable a block gives the same under a name apart from it. -/
theorem Apart.blockValue? {changed name : Bytes} (apart : Apart changed name)
    (plain : equals ∉ changed) (block : List Bytes) :
    Environment.blockValue?
        (block.filter fun entry => (Environment.valueIn? changed entry).isNone) name =
      Environment.blockValue? block name := by
  rw [Environment.blockValue?, Environment.blockValue?]
  split
  · rfl
  · induction block with
    | nil => rfl
    | cons entry later inductionHypothesis =>
      rw [List.filter_cons]
      split
      · rw [List.findSome?_cons, List.findSome?_cons, inductionHypothesis]
      next held =>
        rw [inductionHypothesis, List.findSome?_cons, apart.valueIn? plain (by simpa using held)]

/-- Two processes have the same environment but for the filter of diagnostics. -/
def DifferInFilter (first second : List Bytes) : Prop :=
  (Environment.process first).unset Program.filterVariable =
    (Environment.process second).unset Program.filterVariable

/-- They have the same values under names apart from the filter. -/
theorem DifferInFilter.octets? {first second : List Bytes} (differ : DifferInFilter first second)
    {name : String} (apart : Apart (Utf8.ofString Program.filterVariable) (Utf8.ofString name)) :
    (Environment.process first).octets? name = (Environment.process second).octets? name := by
  have plain : equals ∉ Utf8.ofString Program.filterVariable := by decide +kernel
  have unset (block : List Bytes) : (Environment.process block).unset Program.filterVariable =
      .process (block.filter fun entry =>
        (Environment.valueIn? (Utf8.ofString Program.filterVariable) entry).isNone) := by
    have settable : refusal? (Utf8.ofString Program.filterVariable) [] = none := by decide +kernel
    rw [Environment.unset, settable]
    rfl
  have same : Environment.process _ = Environment.process _ :=
    (unset first).symm.trans (differ.trans (unset second))
  change Environment.blockValue? first _ = Environment.blockValue? second _
  rw [← apart.blockValue? plain first, ← apart.blockValue? plain second,
    Environment.process.inj same]

end Environment

namespace Program.Greeter

open AgentKit.Environment
open AgentKit.Task

/-- Two hosts on which the program finds the same, but for diagnostics and the secret. -/
structure Peers (first second : Host) : Prop where
  files : first.files = second.files
  out : first.out = second.out
  err : first.err = second.err
  clock : first.clock = second.clock
  forced : isGiven first.environment forcedVariable = isGiven second.environment forcedVariable
  plain : isGiven first.environment plainVariable = isGiven second.environment plainVariable
  selection : Workspace.select .standard first = Workspace.select .standard second

/-- Two runs end alike: in all but the lines for developers, which are in front of the same other
lines on the error stream. -/
structure Alike (first second : Host) (one other : Exit × Host) : Prop where
  exit : one.1 = other.1
  out : one.2.out = other.2.out
  files : one.2.files = other.2.files
  err : ∃ events lines, one.2.err = first.err.after (first.eventLines events ++ lines) ∧
    other.2.err = second.err.after (second.eventLines events ++ lines)

variable {first second : Host}

/-- A text is printed alike, and developers are told nothing. -/
theorem print_alike (peers : Peers first second) (stream : Stream) (text : String) (exit : Exit) :
    Alike first second (exit, print stream text first) (exit, print stream text second) := by
  have none (host : Host) : host.eventLines [] = [] := by
    rw [Host.eventLines]
    split <;> rfl
  cases stream with
  | out =>
    refine ⟨rfl, ?_, peers.files, [], [], ?_⟩
    · exact congrArg (fun sink => (sink.writeLine (Utf8.ofString text)).2) peers.out
    · rw [none, none]
      exact ⟨rfl, rfl⟩
  | err =>
    refine ⟨rfl, peers.out, peers.files, [], [Utf8.ofString text], ?_⟩
    rw [none, none]
    exact ⟨rfl, rfl⟩

/-- So is a text with looks. -/
theorem say_alike (peers : Peers first second) (stream : Stream) (text : Styled) (exit : Exit) :
    Alike first second (exit, say stream text first) (exit, say stream text second) := by
  rw [say, say, peers.forced, peers.plain]
  split
  · exact print_alike peers stream text.marked exit
  · exact print_alike peers stream text.shown exit

/-- The work for a secret with one value is done alike. -/
theorem work_alike (peers : Peers first second) (secret : String)
    (words : wordsOn first secret = wordsOn second secret) :
    Alike first second (work secret first) (work secret second) := by
  have product : Product.of first = Product.of second := by
    rw [Product.of, Product.of, peers.out, peers.files]
  have same : performanceOn secret first = performanceOn secret second := by
    rw [performanceOn, performanceOn, stagesOn, stagesOn, peers.clock, peers.selection, words,
      product]
  rw [work_performance, work_performance, same]
  cases (performanceOn secret second).outcome with
  | done value =>
    refine ⟨rfl, rfl, rfl, (performanceOn secret second).events, [], ?_⟩
    rw [List.append_nil, List.append_nil]
    exact ⟨on_err .., on_err ..⟩
  | failed error =>
    refine ⟨rfl, rfl, rfl, (performanceOn secret second).events,
      [(failureRecord second.clock error.message).line], ?_, reportFailure_err ..⟩
    rw [← peers.clock]
    exact reportFailure_err ..
  | panicked text =>
    refine ⟨rfl, rfl, rfl, (performanceOn secret second).events, [], ?_⟩
    rw [List.append_nil, List.append_nil]
    exact ⟨on_err .., on_err ..⟩

/-- The program runs alike, if the secret has one value. -/
theorem run_alike (peers : Peers first second) (arguments : List Bytes)
    (words : ∀ values, CommandLine.read about.rules arguments = .ok (.run values) →
      wordsOn first (textOf values secretOption Task.greetingSecret) =
        wordsOn second (textOf values secretOption Task.greetingSecret)) :
    Alike first second (program.run arguments first) (program.run arguments second) := by
  have about : program.about = about := rfl
  rw [Program.run, Program.run, about]
  rcases parsed : CommandLine.read Greeter.about.rules arguments with error | (values | notice)
  · exact say_alike peers .err _ refused
  · exact work_alike peers _ (words values parsed)
  · exact say_alike peers .out _ succeeded

/-- Processes with the same environment but for the filter start as peers. -/
theorem startHost_peers {first second : List Bytes} (differ : DifferInFilter first second)
    (files : Files) (out err : Descriptor) (clock : Clock) (filter other : Filter) :
    Peers (startHost (.process first) files out err clock filter)
      (startHost (.process second) files out err clock other) := by
  have forced : (Environment.process first).octets? forcedVariable =
      (Environment.process second).octets? forcedVariable := differ.octets? (by decide +kernel)
  have plain : (Environment.process first).octets? plainVariable =
      (Environment.process second).octets? plainVariable := differ.octets? (by decide +kernel)
  have override : (Environment.process first).value? Layout.standard.overrideVariable =
      (Environment.process second).value? Layout.standard.overrideVariable :=
    congrArg (Option.map Utf8.toStringLossy) (differ.octets? (by decide +kernel))
  refine ⟨rfl, rfl, rfl, rfl, ?_, ?_, ?_⟩
  · simp only [startHost, isGiven, forced]
  · simp only [startHost, isGiven, plain]
  · simp only [startHost, Workspace.select, override]

/-- The filter that a process asks for with the word `off` admits nothing. -/
theorem off_admits {environment : Environment} {filter : Filter}
    (off : environment.octets? filterVariable = some (Utf8.ofString "off"))
    (readable : filterOf? environment = some filter) (event : Event) :
    filter.admits event = false := by
  have silent : Filter.ofVariable? (some (Utf8.ofString "off")) = some (.ofThreshold .off) := by
    decide +kernel
  rw [filterOf?, off, silent] at readable
  cases readable
  cases event <;> rfl

/-- Two processes whose environments differ in the filter alone, and that both start, run alike.
Their codes, what their output streams hold and their files are the same, and on the error stream
the lines of the same events, each process showing those that its filter admits, are in front of the
same other lines. With the filter `off` there are no lines in front, so the error stream of the one
process is the end of that of the other. -/
theorem filter_apart {first second : List Bytes} (differ : DifferInFilter first second)
    {filter other : Filter} (readable : filterOf? (.process first) = some filter)
    (alsoReadable : filterOf? (.process second) = some other) (arguments : List Bytes)
    (apart : ∀ values, CommandLine.read about.rules arguments = .ok (.run values) →
      Apart (Utf8.ofString filterVariable)
        (Utf8.ofString (textOf values secretOption Task.greetingSecret)))
    (files : Files) (out err : Descriptor) (clock : Clock) (lastWords : String) :
    let one := program.start arguments (.process first) files out err clock lastWords
    let two := program.start arguments (.process second) files out err clock lastWords
    one.1 = two.1 ∧ one.2.out = two.2.out ∧ one.2.files = two.2.files ∧
    (∃ events lines,
      one.2.err.accepted = err.atStart.takes
        ((startHost (.process first) files out err clock filter).eventLines events ++ lines) ∧
      two.2.err.accepted = err.atStart.takes
        ((startHost (.process second) files out err clock other).eventLines events ++ lines)) ∧
    ((Environment.process first).octets? filterVariable = some (Utf8.ofString "off") →
      one.2.err.accepted <:+ two.2.err.accepted) := by
  intro one two
  have peers := startHost_peers differ files out err clock filter other
  have alike := run_alike peers arguments fun values parsed => by
    rw [wordsOn, wordsOn]
    exact congrArg (fun value => (Option.map Utf8.toStringLossy value).getD defaultGreeting)
      (differ.octets? (apart values parsed))
  -- Both environments give a filter, so both processes are runs of the program.
  rw [← start_run readable, ← start_run alsoReadable] at alike
  obtain ⟨exit, outs, trees, events, lines, firstErr, secondErr⟩ := alike
  have taken (block : List Bytes) (shown : Filter) (lines : List Bytes) :
      ((startHost (.process block) files out err clock shown).err.after lines).accepted =
        err.atStart.takes lines :=
    Sink.descriptor_accepted err.atStart .nothing lines
  have held := (congrArg Sink.accepted firstErr).trans (taken first filter _)
  have otherHeld := (congrArg Sink.accepted secondErr).trans (taken second other _)
  refine ⟨exit, outs, trees, ⟨events, lines, held, otherHeld⟩, fun off => ?_⟩
  have silent : (startHost (.process first) files out err clock filter).eventLines events = [] := by
    simp [startHost, Host.eventLines, off_admits off readable]
  rw [held, otherHeld, silent, List.nil_append, Descriptor.takes_append]
  exact List.suffix_append _ _

/-- A process that shows no diagnostics. -/
def silentBlock : List Bytes :=
  [Utf8.ofString "AEGIS_WORKSPACE_PATH=r", Utf8.ofString "RUST_LOG=off"]

/-- The same process, but it shows all. -/
def loudBlock : List Bytes :=
  [Utf8.ofString "RUST_LOG=trace", Utf8.ofString "AEGIS_WORKSPACE_PATH=r"]

/-- The silent process writes the end of what the other one writes. -/
theorem filter_apart_loud :
    DifferInFilter silentBlock loudBlock ∧
    filterOf? (.process silentBlock) = some (.ofThreshold .off) ∧
    filterOf? (.process loudBlock) = some (.ofThreshold .trace) ∧
    CommandLine.read about.rules [] = .ok (.run []) ∧
    Apart (Utf8.ofString filterVariable) (Utf8.ofString Task.greetingSecret) ∧
    (program.start [] (.process silentBlock) .fresh .file .file .masked "").2.err.accepted <:+
      (program.start [] (.process loudBlock) .fresh .file .file .masked "").2.err.accepted := by
  have differ : DifferInFilter silentBlock loudBlock := by
    unfold DifferInFilter
    decide +kernel
  have readable : filterOf? (.process silentBlock) = some (.ofThreshold .off) := by decide +kernel
  have alsoReadable : filterOf? (.process loudBlock) = some (.ofThreshold .trace) := by
    decide +kernel
  have parsed : CommandLine.read about.rules [] = .ok (.run []) := rfl
  have apart : Apart (Utf8.ofString filterVariable) (Utf8.ofString Task.greetingSecret) := by
    decide +kernel
  have runs := filter_apart differ readable alsoReadable [] (fun values taken => by
    rw [parsed] at taken
    cases taken
    exact apart) .fresh .file .file .masked ""
  exact ⟨differ, readable, alsoReadable, parsed, apart, runs.2.2.2.2 (by decide +kernel)⟩

/-- Arguments that name the secret by the variable of the filter and an equals sign. -/
def disguisedArguments : List Bytes :=
  [Utf8.ofString "--greeting-secret", Utf8.ofString "RUST_LOG=off"]

/-- A process with a filter that a look-up of this name finds a part of. -/
def disguisedBlock : List Bytes :=
  [Utf8.ofString "AEGIS_WORKSPACE_PATH=r", Utf8.ofString "RUST_LOG=off=debug"]

/-- The name is not that of the filter, and both filters are read. Yet the two processes write
different records and different greetings. -/
theorem disguised_differs :
    DifferInFilter silentBlock disguisedBlock ∧
    (filterOf? (.process silentBlock)).isSome ∧ (filterOf? (.process disguisedBlock)).isSome ∧
    CommandLine.read about.rules disguisedArguments =
      .ok (.run [("greeting-secret", .text "RUST_LOG=off")]) ∧
    "RUST_LOG=off" ≠ filterVariable ∧
    let silent :=
      program.start disguisedArguments (.process silentBlock) .fresh .file .file .masked ""
    let disguised :=
      program.start disguisedArguments (.process disguisedBlock) .fresh .file .file .masked ""
    silent.2.out.accepted ≠ disguised.2.out.accepted ∧
      silent.2.files.contents? (.ofString "r/output/result.txt") ≠
        disguised.2.files.contents? (.ofString "r/output/result.txt") := by
  have differ : DifferInFilter silentBlock disguisedBlock := by
    unfold DifferInFilter
    decide +kernel
  have parsed : CommandLine.read about.rules disguisedArguments =
      .ok (.run [("greeting-secret", .text "RUST_LOG=off")]) := by with_unfolding_all rfl
  refine ⟨differ, by decide +kernel, by decide +kernel, parsed, by decide, ?_⟩
  constructor
  · decide +kernel
  · decide +kernel

end Program.Greeter

end AgentKit
