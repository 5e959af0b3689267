import AgentKit.Proofs.HostChange
import AgentKit.Proofs.WriterRun

/-!
# Lines on any sink

What a sink holds after lines, of whatever kind the sink is and whatever became of the lines. It has
taken a front of each of them, and the whole of a line that was done, unless it keeps nothing at
all. Lines that are told to developers are lines on the error stream like others: the filter decides
which events become lines, and the sink what becomes of those.
-/

namespace AgentKit

/-- What a descriptor takes of lines. -/
def Descriptor.takes (state : Descriptor) (lines : List Bytes) : Bytes :=
  if state.refusal? = none then (lines.map state.keep).flatten else []

/-- It takes some lines and then others. -/
theorem Descriptor.takes_append (state : Descriptor) (front back : List Bytes) :
    state.takes (front ++ back) = state.takes front ++ state.takes back := by
  rw [takes, takes, takes]
  split
  · rw [List.map_append, List.flatten_append]
  · rfl

namespace Sink

/-- A sink after lines, whatever became of each of them. -/
def after (sink : Sink) (lines : List Bytes) : Sink :=
  lines.foldl (fun sink line => (sink.writeLine line).2) sink

@[simp] theorem after_nil (sink : Sink) : sink.after [] = sink := rfl

@[simp] theorem after_cons (sink : Sink) (line : Bytes) (later : List Bytes) :
    sink.after (line :: later) = (sink.writeLine line).2.after later := rfl

/-- Some lines and then others. -/
theorem after_append (sink : Sink) (front back : List Bytes) :
    sink.after (front ++ back) = (sink.after front).after back :=
  List.foldl_append

/-- No line makes the sink panic, whatever lines came before it. -/
def Calm (sink : Sink) : Prop :=
  ∀ lines line text, ((sink.after lines).writeLine line).1 ≠ .panicked text

/-- Each line is taken as a whole or not at all, whatever lines came before it. -/
def AllOrNothing (sink : Sink) : Prop :=
  ∀ lines line, ((sink.after lines).writeLine line).2.accepted ∈
    [(sink.after lines).accepted, (sink.after lines).accepted ++ line]

/-- Every line is taken. -/
def Writable (sink : Sink) : Prop :=
  ∀ lines, (sink.after lines).accepted = sink.accepted ++ lines.flatten

/-- The sink takes lines and keeps none. -/
def Discards : Sink → Prop
  | .descriptor state _ => state = .null
  | .capture _ | .failing _ | .guarded _ => False

/-- A calm sink stays calm. -/
theorem Calm.after {sink : Sink} (calm : sink.Calm) (lines : List Bytes) :
    (sink.after lines).Calm := by
  intro later line text
  rw [← after_append]
  exact calm (lines ++ later) line text

/-- A sink that takes whole lines goes on doing so. -/
theorem AllOrNothing.after {sink : Sink} (whole : sink.AllOrNothing) (lines : List Bytes) :
    (sink.after lines).AllOrNothing := by
  intro later line
  rw [← after_append]
  exact whole (lines ++ later) line

/-- Lines do not change whether a sink discards. -/
theorem discards_writeLine {sink : Sink} {line : Bytes} :
    (sink.writeLine line).2.Discards ↔ sink.Discards := by
  cases sink with
  | capture held => exact Iff.rfl
  | failing kind => exact Iff.rfl
  | guarded lock => exact Iff.rfl
  | descriptor state held =>
    rw [writeLine]
    split <;> exact Iff.rfl

theorem discards_after {sink : Sink} {lines : List Bytes} :
    (sink.after lines).Discards ↔ sink.Discards := by
  induction lines generalizing sink with
  | nil => exact Iff.rfl
  | cons line later inductionHypothesis => exact inductionHypothesis.trans discards_writeLine

/-- A sink that discards lines has taken nothing of them. -/
theorem Discards.after {sink : Sink} (discards : sink.Discards) (lines : List Bytes) :
    (sink.after lines).accepted = sink.accepted := by
  induction lines generalizing sink with
  | nil => rfl
  | cons line later inductionHypothesis =>
    rw [after_cons, inductionHypothesis (discards_writeLine.mpr discards)]
    cases sink with
    | descriptor state held =>
      obtain rfl : state = .null := discards
      change (held.add []).octets = held.octets
      rw [Taken.octets_add, List.append_nil]
    | capture held => exact discards.elim
    | failing kind => exact discards.elim
    | guarded lock => exact discards.elim

/-- What becomes of one line: a front of it is taken, and all of it if the line is done, unless the
sink discards. -/
theorem writeLine_takes (sink : Sink) (line : Bytes) :
    ∃ held, (sink.writeLine line).2.accepted = sink.accepted ++ held ∧ held <+: line ∧
      ((sink.writeLine line).1 = .done () → ¬ sink.Discards → held = line) := by
  cases sink with
  | capture held => exact ⟨line, held.octets_add line, List.prefix_rfl, fun _ _ => rfl⟩
  | failing kind => exact ⟨[], rfl, List.nil_prefix, nofun⟩
  | guarded lock =>
    have exact := lock.writer.lineCall_exact line
    obtain ⟨outcome, writer⟩ := lock.writeLine_unguarded line
    refine ⟨(lock.writer.lineCall line).accepted, ?_, ?_, ?_⟩
    · change (lock.writeLine line).2.writer.taken.octets = _
      rw [writer]
      exact exact.stream
    · rcases exact.ended.part with whole | ⟨count, _, part⟩
      · rw [whole]
        exact List.prefix_rfl
      · rw [part]
        exact List.take_prefix count line
    · intro done _
      exact exact.ended.all_of_done (outcome.symm.trans done)
  | descriptor state held =>
    simp only [writeLine]
    cases refused : state.refusal? with
    | some errno => exact ⟨[], (List.append_nil _).symm, List.nil_prefix, nofun⟩
    | none =>
      refine ⟨state.keep line, held.octets_add _, ?_, ?_⟩
      · rw [Descriptor.keep]
        split
        · exact List.nil_prefix
        · exact List.prefix_rfl
      · intro _ keeps
        exact if_neg keeps

/-- Lines do not change the state of a descriptor. -/
theorem descriptor_after (state : Descriptor) (held : Taken) (lines : List Bytes) :
    ∃ later, (descriptor state held).after lines = descriptor state later := by
  induction lines generalizing held with
  | nil => exact ⟨held, rfl⟩
  | cons line later inductionHypothesis =>
    rw [after_cons, writeLine]
    split <;> exact inductionHypothesis _

/-- The descriptors of a process never panic. -/
theorem descriptor_calm (state : Descriptor) (held : Taken) : (descriptor state held).Calm := by
  intro lines line text
  obtain ⟨later, same⟩ := descriptor_after state held lines
  rw [same, writeLine]
  split <;> nofun

/-- They take whole lines. -/
theorem descriptor_allOrNothing (state : Descriptor) (held : Taken) :
    (descriptor state held).AllOrNothing := by
  intro lines line
  obtain ⟨later, same⟩ := descriptor_after state held lines
  rw [same, writeLine]
  split
  · simp only [accepted, taken, Taken.octets_add, Descriptor.keep]
    split <;> simp
  · exact List.mem_cons_self

/-- A descriptor adds what it takes of lines to what it held. -/
theorem descriptor_accepted (state : Descriptor) (held : Taken) (lines : List Bytes) :
    ((descriptor state held).after lines).accepted = held.octets ++ state.takes lines := by
  induction lines generalizing held with
  | nil => simp [accepted, taken, Descriptor.takes]
  | cons line later inductionHypothesis =>
    rw [after_cons, writeLine]
    cases refused : state.refusal? with
    | none =>
      rw [inductionHypothesis, Taken.octets_add]
      simp [Descriptor.takes, refused]
    | some errno =>
      rw [inductionHypothesis]
      simp [Descriptor.takes, refused]

/-- A descriptor that is open on a file takes every line. -/
theorem file_writable (held : Taken) : (descriptor .file held).Writable := by
  intro lines
  have keep : Descriptor.keep .file = id := by
    funext line
    rfl
  rw [descriptor_accepted, Descriptor.takes, keep, List.map_id]
  rfl

end Sink

namespace Host

/-- The line that developers see of an event. -/
def eventLine (clock : Clock) (looks : Bool) (event : Event) : Bytes :=
  let line := event.line clock
  Utf8.ofString (if looks then line.marked else line.bare)

/-- The lines that events become on the error stream. -/
def eventLines (host : Host) (events : List Event) : List Bytes :=
  match host.diagnostics with
  | .kept _ => []
  | .shown filter looks =>
    (events.filter fun event => filter.admits event).map (eventLine host.clock looks)

/-- However many events there are, the clock is left. -/
theorem foldl_emit_clock (events : List Event) (host : Host) :
    (events.foldl emit host).clock = host.clock := by
  induction events generalizing host with
  | nil => rfl
  | cons event later inductionHypothesis =>
    rw [List.foldl_cons, inductionHypothesis, emit_clock]

/-- Events are told by their lines. -/
theorem foldl_emit_err (events : List Event) (host : Host) :
    (events.foldl emit host).err = host.err.after (host.eventLines events) := by
  obtain ⟨environment, files, out, err, clock, diagnostics⟩ := host
  cases diagnostics with
  | kept held =>
    have tells : Tells ⟨environment, files, out, err, clock, .kept held⟩ events
        (events.foldl emit ⟨environment, files, out, err, clock, .kept held⟩) := rfl
    exact tells.quiet rfl
  | shown filter looks =>
    induction events generalizing err with
    | nil => rfl
    | cons event later inductionHypothesis =>
      rw [List.foldl_cons]
      simp only [emit, eventLines, List.filter_cons]
      split
      · exact inductionHypothesis _
      · exact inductionHypothesis _

end Host

end AgentKit
