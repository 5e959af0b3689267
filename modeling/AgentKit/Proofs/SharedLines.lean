import AgentKit.Proofs.LoggerRun
import AgentKit.Proofs.SharedWriter

/-!
# The stream of a shared writer

Every octet and every record of a shared writer is accounted for. The stream is made of the lines
whose calls are finished and a front of the holder's line. Each caller's finished records, the one
it is writing and the ones still to come are its list, in order. Every turn keeps the account, so
it holds after every schedule that the lock allows.

Turns are no more than the calls of a logger in small steps. Whenever the lock is free, the calls
that are finished have ended as calls of the logger that are made one after the other.
-/

namespace AgentKit.SharedWriter

variable {ι : Type}

/-- The front of the holder's line that is in the stream already. -/
inductive Fronts : Option (Holder ι) → Bytes → Prop where
  | free : Fronts none []
  | writing (caller : ι) (record : Record) (front left : Bytes)
      (whole : front ++ left = record.line) :
      Fronts (some ⟨caller, record, .writing left⟩) front
  | ended (caller : ι) (record : Record) (outcome : Outcome IoError Unit) :
      Fronts (some ⟨caller, record, .ended outcome⟩) record.line

/-- The calls that have ended so far, given back or not, are done. -/
def AllDone (shared : SharedWriter ι) : Prop :=
  (∀ call ∈ shared.finished, call.outcome = .done ()) ∧
    ∀ caller record outcome, shared.holder = some ⟨caller, record, .ended outcome⟩ →
      outcome = .done ()

/-- The finished calls as records with their callers. -/
def finishedRecords (shared : SharedWriter ι) : List (ι × Record) :=
  shared.finished.map fun call => (call.caller, call.record)

/-- The records whose lines are in the stream as a whole, with their callers: those of the finished
calls, and the one in hand when nothing of its line is left. -/
def written (shared : SharedWriter ι) : List (ι × Record) :=
  match shared.holder with
  | some ⟨caller, record, .writing []⟩ => shared.finishedRecords ++ [(caller, record)]
  | some ⟨caller, record, .ended _⟩ => shared.finishedRecords ++ [(caller, record)]
  | some ⟨_, _, .writing (_ :: _)⟩ | none => shared.finishedRecords

/-- The lines of records, one after the other. -/
def linesOf (entries : List (ι × Record)) : Bytes :=
  (entries.map fun entry => entry.2.line).flatten

/-- One record more is one line more. -/
theorem linesOf_concat (entries : List (ι × Record)) (entry : ι × Record) :
    linesOf (entries ++ [entry]) = linesOf entries ++ entry.2.line := by
  simp [linesOf]

variable [DecidableEq ι]

/-- The record that a caller is writing, if it holds the lock. -/
def heldBy (shared : SharedWriter ι) (caller : ι) : List Record :=
  match shared.holder with
  | some holder => if holder.caller = caller then [holder.record] else []
  | none => []

/-- The records of one caller among those of all. -/
def ofCaller (entries : List (ι × Record)) (caller : ι) : List Record :=
  (entries.filter fun entry => entry.1 = caller).map Prod.snd

/-- The account of a state that was reached from a writer and a list of records for each caller. -/
structure Sound (guarded : GuardedWriter) (programs : ι → List Record)
    (shared : SharedWriter ι) : Prop where
  goesOn : ∀ reply ∈ shared.guarded.writer.writeReplies, reply.GoesOn
  flushes : ∀ reply ∈ shared.guarded.writer.flushReplies, reply ∈ guarded.writer.flushReplies
  stream : ∃ front, Fronts shared.holder front ∧
    shared.octets = guarded.writer.taken.octets ++ linesOf shared.finishedRecords ++ front
  order : ∀ caller, ofCaller shared.finishedRecords caller ++
    (shared.heldBy caller ++ shared.pending caller) = programs caller
  done : (∀ reply ∈ guarded.writer.flushReplies, reply = .succeed) → shared.AllDone

variable {guarded : GuardedWriter} {programs : ι → List Record}

/-- The account holds before the first turn. -/
theorem start_sound (guarded : GuardedWriter) (programs : ι → List Record)
    (goesOn : ∀ reply ∈ guarded.writer.writeReplies, reply.GoesOn) :
    Sound guarded programs (start guarded programs) where
  goesOn := goesOn
  flushes := fun _ member => member
  stream := ⟨[], .free, by simp [octets, start, finishedRecords, linesOf]⟩
  order := fun _ => rfl
  done := fun _ => ⟨fun _ member => (nomatch member), fun _ _ _ held => (nomatch held)⟩

/-- Taking the lock moves a record from those to come to the one in hand. -/
theorem take_sound (shared : SharedWriter ι) (sound : Sound guarded programs shared)
    (free : shared.holder = none) (caller : ι) (record : Record) (later : List Record)
    (list : shared.pending caller = record :: later) :
    Sound guarded programs (shared.take caller record later) where
  goesOn := sound.goesOn
  flushes := sound.flushes
  stream := by
    obtain ⟨front, fronts, split⟩ := sound.stream
    rw [free] at fronts
    cases fronts
    exact ⟨[], .writing caller record [] record.line rfl, split⟩
  order := by
    intro other
    have before := sound.order other
    by_cases same : other = caller
    · subst same
      rw [heldBy, free, list] at before
      simpa [take, finishedRecords, heldBy] using before
    · rw [heldBy, free] at before
      simpa [take, finishedRecords, heldBy, same, Ne.symm same] using before
  done := by
    intro flushes
    refine ⟨(sound.done flushes).1, ?_⟩
    intro _ _ _ held
    cases held

/-- With the lock taken, the record in hand stands between the finished ones of its caller and those
to come. -/
theorem held_order (shared : SharedWriter ι) (sound : Sound guarded programs shared)
    (caller : ι) (record : Record) (phase : Phase)
    (held : shared.holder = some ⟨caller, record, phase⟩) (other : ι) :
    ofCaller shared.finishedRecords other ++
      ((if caller = other then [record] else []) ++ shared.pending other) = programs other := by
  have order := sound.order other
  rwa [heldBy, held] at order

/-- A flush behind the whole line leaves the stream alone, and is done unless the script has a
failure for it. -/
theorem flush_sound (shared : SharedWriter ι) (sound : Sound guarded programs shared)
    (caller : ι) (record : Record)
    (held : shared.holder = some ⟨caller, record, .writing []⟩) :
    Sound guarded programs (shared.advance ⟨caller, record, .writing []⟩) := by
  obtain ⟨front, fronts, split⟩ := sound.stream
  rw [held] at fronts
  cases fronts with
  | writing _ _ _ _ whole =>
    rw [List.append_nil] at whole
    subst whole
    have counted := shared.guarded.writer.flush_counted
    have step : (Phase.writing []).advance shared.guarded.writer =
        (.ended (.ofExcept shared.guarded.writer.flush.1), shared.guarded.writer.flush.2) := rfl
    rw [advance_eq shared caller record _ _ _ step]
    refine ⟨?_, ?_, ⟨_, .ended caller record _, ?_⟩, ?_, ?_⟩
    · rw [counted]
      exact sound.goesOn
    · rw [counted]
      intro reply member
      exact sound.flushes reply (List.mem_of_mem_drop member)
    · rw [octets, counted]
      exact split
    · exact held_order shared sound caller record _ held
    · intro succeed
      refine ⟨(sound.done succeed).1, ?_⟩
      rintro _ _ _ ⟨⟩
      rcases shared.guarded.writer.flush_reply with ⟨flushed, _⟩ | ⟨kind, _, next⟩
      · rw [flushed]
        rfl
      · have member := sound.flushes _ (List.mem_of_head? next)
        exact nomatch succeed _ member

/-- A call on what is left of the holder's line moves octets from there to the stream. -/
theorem offer_sound (shared : SharedWriter ι) (sound : Sound guarded programs shared)
    (caller : ι) (record : Record) (left : Bytes) (nonempty : left ≠ [])
    (held : shared.holder = some ⟨caller, record, .writing left⟩) :
    Sound guarded programs (shared.advance ⟨caller, record, .writing left⟩) := by
  obtain ⟨front, fronts, split⟩ := sound.stream
  rw [held] at fronts
  cases fronts with
  | writing _ _ _ _ whole =>
    obtain ⟨count, after, step, took⟩ :=
      Phase.advance_goesOn shared.guarded.writer left nonempty sound.goesOn
    rw [advance_eq shared caller record _ _ _ step]
    refine ⟨?_, ?_, ⟨front ++ left.take count, .writing caller record _ (left.drop count) ?_, ?_⟩,
      ?_, ?_⟩
    · rw [took.replies]
      intro reply member
      exact sound.goesOn reply (List.mem_of_mem_drop member)
    · rw [took.flushReplies]
      exact sound.flushes
    · rw [List.append_assoc, List.take_append_drop, whole]
    · rw [octets, took.taken, ← List.append_assoc]
      exact congrArg (· ++ left.take count) split
    · exact held_order shared sound caller record _ held
    · intro succeed
      refine ⟨(sound.done succeed).1, ?_⟩
      rintro _ _ _ ⟨⟩

/-- Giving the lock back moves the record in hand to the finished ones. -/
theorem release_sound (shared : SharedWriter ι) (sound : Sound guarded programs shared)
    (caller : ι) (record : Record) (outcome : Outcome IoError Unit)
    (held : shared.holder = some ⟨caller, record, .ended outcome⟩) :
    Sound guarded programs (shared.release ⟨caller, record, .ended outcome⟩ outcome) := by
  have writer := shared.release_writer ⟨caller, record, .ended outcome⟩ outcome
  refine ⟨?_, ?_, ⟨[], .free, ?_⟩, ?_, ?_⟩
  · rw [writer]
    exact sound.goesOn
  · rw [writer]
    exact sound.flushes
  · obtain ⟨front, fronts, split⟩ := sound.stream
    rw [held] at fronts
    cases fronts
    rw [octets, writer, finishedRecords, release_finished, List.map_append, List.map_singleton,
      linesOf_concat, List.append_nil, ← List.append_assoc]
    exact split
  · intro other
    have before := held_order shared sound caller record _ held other
    by_cases own : caller = other <;>
      simpa [release, finishedRecords, ofCaller, heldBy, own] using before
  · intro succeed
    obtain ⟨finished, last⟩ := sound.done succeed
    refine ⟨?_, fun _ _ _ held => (nomatch held)⟩
    intro call member
    rcases List.mem_append.mp member with member | member
    · exact finished call member
    · rw [List.mem_singleton.mp member]
      exact last caller record outcome held

/-- Every turn keeps the account. -/
theorem turn_sound (shared next : SharedWriter ι) (caller : ι)
    (sound : Sound guarded programs shared) (turned : shared.turn? caller = some next) :
    Sound guarded programs next := by
  rcases turn_cases shared next caller turned with
    ⟨record, later, free, list, rfl⟩ | ⟨record, left, held, rfl⟩ | ⟨record, outcome, held, rfl⟩
  · exact take_sound shared sound free caller record later list
  · by_cases empty : left = []
    · subst empty
      exact flush_sound shared sound caller record held
    · exact offer_sound shared sound caller record left empty held
  · exact release_sound shared sound caller record outcome held

/-- With the line in hand among the whole ones, its record comes behind the finished ones of its
caller and is still a front of the caller's list. -/
theorem ofCaller_held (shared : SharedWriter ι) (sound : Sound guarded programs shared)
    (caller other : ι) (record : Record) (phase : Phase)
    (held : shared.holder = some ⟨caller, record, phase⟩) :
    ofCaller (shared.finishedRecords ++ [(caller, record)]) other <+: programs other := by
  refine ⟨shared.pending other, ?_⟩
  rw [← held_order shared sound caller record phase held other]
  by_cases own : caller = other <;> simp [ofCaller, own]

/-- The stream of a state with a sound account: whole lines, each caller's in its order, and at most
one proper front of a line, which is the holder's. -/
theorem sound_written (shared : SharedWriter ι) (sound : Sound guarded programs shared) :
    (∀ caller, ofCaller shared.written caller <+: programs caller) ∧
    ∃ part, shared.octets = guarded.writer.taken.octets ++ linesOf shared.written ++ part ∧
      (part = [] ∨ ∃ caller record left, shared.holder = some ⟨caller, record, .writing left⟩ ∧
        left ≠ [] ∧ part ++ left = record.line) := by
  obtain ⟨front, fronts, split⟩ := sound.stream
  have finishedFront : ∀ caller, ofCaller shared.finishedRecords caller <+: programs caller := by
    intro caller
    rw [← sound.order caller]
    exact List.prefix_append _ _
  generalize held : shared.holder = holder at fronts
  cases fronts with
  | free =>
    rw [written, held]
    exact ⟨finishedFront, [], split, Or.inl rfl⟩
  | writing caller record _ left whole =>
    cases left with
    | nil =>
      rw [List.append_nil] at whole
      rw [written, held, linesOf_concat, ← whole]
      refine ⟨fun other => ofCaller_held shared sound caller other record _ held, [], ?_,
        Or.inl rfl⟩
      rw [List.append_nil, ← List.append_assoc]
      exact split
    | cons octet later =>
      rw [written, held]
      exact ⟨finishedFront, front, split,
        Or.inr ⟨caller, record, octet :: later, rfl, List.cons_ne_nil _ _, whole⟩⟩
  | ended caller record outcome =>
    rw [written, held, linesOf_concat]
    refine ⟨fun other => ofCaller_held shared sound caller other record _ held, [], ?_,
        Or.inl rfl⟩
    rw [List.append_nil, ← List.append_assoc]
    exact split

/-- With nobody at the lock, the state is that of calls made one after the other, in the order in
which they gave the lock back, on the guarded writer itself or through a logger. -/
structure Sequential (guarded : GuardedWriter) (shared : SharedWriter ι) : Prop where
  /-- The writer is as the lines of the finished calls leave it. -/
  writer : shared.guarded = (guarded.run shared.finishedLines).2
  /-- Each call has ended as writing its line has. -/
  outcomes : shared.finished.map FinishedCall.outcome =
    (guarded.run shared.finishedLines).1.map LineCall.outcome
  /-- A logger with the guarded writer behind a stream leaves the same writer, and its calls end with
  the same outcomes, when it is called with the records of the finished calls and these all go to
  that stream. -/
  logged : ∀ (host : Host) (stream : Stream), host.sink stream = .guarded guarded →
    (∀ call ∈ shared.finished, call.record.level.stream = stream) →
    let ended := Logger.run host (shared.finished.map FinishedCall.record)
    ended.2.sink stream = .guarded shared.guarded ∧
      ended.1.map Logger.LogCall.outcome =
        shared.finished.map fun call => call.outcome.mapError .io
  /-- Turns of one caller alone are, together, one line more. -/
  next : ∀ caller record later, shared.pending caller = record :: later →
    ∃ count, shared.run? (List.replicate count caller) = some
      ⟨(shared.guarded.writeLine record.line).2, none,
        fun other => if other = caller then later else shared.pending other,
        shared.finished ++ [⟨caller, record, (shared.guarded.writeLine record.line).1⟩]⟩

/-- After every schedule, with the lock free, the calls so far are calls one after the other. -/
theorem run_sequential (guarded : GuardedWriter) (programs : ι → List Record) (schedule : List ι)
    (shared : SharedWriter ι) (reached : (start guarded programs).run? schedule = some shared)
    (free : shared.holder = none) : Sequential guarded shared := by
  obtain ⟨writer, outcomes⟩ := run_serial guarded programs schedule shared reached free
  refine ⟨writer, outcomes, ?_, alone_writeLine shared free⟩
  intro host stream sink same ended
  have records : ∀ record ∈ shared.finished.map FinishedCall.record,
      record.level.stream = stream := by
    intro record member
    obtain ⟨call, held, rfl⟩ := List.mem_map.mp member
    exact same call held
  have lines : (shared.finished.map FinishedCall.record).map Record.line = shared.finishedLines :=
    List.map_map
  obtain ⟨last, ends⟩ := Logger.run_guarded host stream guarded sink _ records
  rw [lines] at last ends
  constructor
  · rw [writer]
    exact last
  · have both := congrArg (List.map (Outcome.mapError AgentError.io)) outcomes
    rw [List.map_map, List.map_map] at both
    exact ends.trans both.symm

/-- Callers share a writer whose replies let lines go on. After every schedule that the lock allows,
the stream is made of whole lines, each caller's in its order, and at most one proper front of a
line, which is the holder's. When all have finished, the stream is made of exactly the lines of all
calls, and every call is done if no flush fails. A state without a turn is one where all have
finished. Whenever the lock is free, the finished calls are calls on the guarded writer, one after
the other. A line is the text of its record and a newline, which is its only one. -/
theorem shared_lines_whole (guarded : GuardedWriter) (programs : ι → List Record)
    (goesOn : ∀ reply ∈ guarded.writer.writeReplies, reply.GoesOn) (schedule : List ι)
    (shared : SharedWriter ι) (reached : (start guarded programs).run? schedule = some shared) :
    ((∀ caller, ofCaller shared.written caller <+: programs caller) ∧
      ∃ part, shared.octets = guarded.writer.taken.octets ++ linesOf shared.written ++ part ∧
        (part = [] ∨ ∃ caller record left, shared.holder = some ⟨caller, record, .writing left⟩ ∧
          left ≠ [] ∧ part ++ left = record.line)) ∧
    (shared.AllFinished →
      shared.octets = guarded.writer.taken.octets ++ linesOf shared.finishedRecords ∧
      (∀ caller, ofCaller shared.finishedRecords caller = programs caller) ∧
      ((∀ reply ∈ guarded.writer.flushReplies, reply = .succeed) →
        ∀ call ∈ shared.finished, call.outcome = .done ())) ∧
    ((∀ caller, shared.turn? caller = none) → shared.AllFinished) ∧
    (shared.holder = none → Sequential guarded shared) ∧
    ∀ record : Record, record.line = Utf8.encode record.text ++ [0x0A] ∧
      0x0A ∉ Utf8.encode record.text := by
  have sound : Sound guarded programs shared :=
    run_keeps turn_sound _ shared schedule (start_sound guarded programs goesOn) reached
  refine ⟨sound_written shared sound, ?_, stuck_finished shared,
    run_sequential guarded programs schedule shared reached, Record.line_single⟩
  rintro ⟨free, empty⟩
  refine ⟨?_, ?_, fun succeed => (sound.done succeed).1⟩
  · obtain ⟨front, fronts, split⟩ := sound.stream
    rw [free] at fronts
    cases fronts
    rw [split, List.append_nil]
  · intro caller
    have order := sound.order caller
    rw [heldBy, free, empty caller] at order
    simpa using order

/-- A writer that takes five octets, is interrupted, and then takes everything. -/
def splitting : GuardedWriter := ⟨.ofScript [.accept 5, .fail .interrupted] [], false⟩

/-- Two callers with one record each. -/
def twoPrograms (caller : Bool) : List Record :=
  [⟨.info, if caller then "first" else "second", .masked, []⟩]

/-- The first caller's turns and then the second's: one writes its line in three calls, the other in
one. -/
theorem splitting_two_callers :
    (∀ reply ∈ splitting.writer.writeReplies, reply.GoesOn) ∧
    ∃ shared, (start splitting twoPrograms).run?
        (List.replicate 6 true ++ List.replicate 4 false) = some shared ∧
      shared.AllFinished ∧
      shared.octets = splitting.writer.taken.octets ++ linesOf shared.finishedRecords ∧
      (∀ caller, ofCaller shared.finishedRecords caller = twoPrograms caller) ∧
      shared.guarded = (splitting.run shared.finishedLines).2 ∧
      shared.finished.map FinishedCall.outcome =
        (splitting.run shared.finishedLines).1.map LineCall.outcome := by
  have goesOn : ∀ reply ∈ splitting.writer.writeReplies, reply.GoesOn := by
    intro reply member
    rcases List.mem_cons.mp member with rfl | member
    · exact Nat.succ_ne_zero 4
    · rw [List.mem_singleton.mp member]
      rfl
  have ran : ((start splitting twoPrograms).run?
      (List.replicate 6 true ++ List.replicate 4 false)).any (fun shared =>
        shared.holder.isNone && (shared.pending true).isEmpty &&
          (shared.pending false).isEmpty) = true := by
    decide +kernel
  obtain ⟨shared, reached, left⟩ := (Option.any_eq_true _ _).mp ran
  obtain ⟨both, second⟩ := Bool.and_eq_true_iff.mp left
  obtain ⟨free, first⟩ := Bool.and_eq_true_iff.mp both
  have finished : shared.AllFinished := by
    refine ⟨Option.isNone_iff_eq_none.mp free, ?_⟩
    intro caller
    cases caller
    · exact List.isEmpty_iff.mp second
    · exact List.isEmpty_iff.mp first
  obtain ⟨_, whole, _, sequential, _⟩ :=
    shared_lines_whole splitting twoPrograms goesOn _ shared reached
  obtain ⟨stream, order, _⟩ := whole finished
  obtain ⟨writer, outcomes, _, _⟩ := sequential finished.1
  exact ⟨goesOn, shared, reached, finished, stream, order, writer, outcomes⟩

end AgentKit.SharedWriter
