import AgentKit.Proofs.LinePhases
import AgentKit.Record

/-!
# Callers that share a writer

Any number of callers, each with a list of records of its own, write to one writer behind a lock. A
turn is one step of one caller: it takes the free lock for its next record, or, holding the lock,
offers what is left of its line, flushes, or gives the lock back with the outcome. A caller that
finds the lock taken has no turn. A schedule is any list of callers; it says whose turn it is.

The turns of a caller that is not disturbed are, together, one call on the writer behind the lock.
-/

namespace AgentKit

/-- The caller that holds the lock, the record it writes, and what it has to do next. -/
structure Holder (ι : Type) where
  caller : ι
  record : Record
  phase : Phase

/-- A finished call. -/
structure FinishedCall (ι : Type) where
  caller : ι
  record : Record
  outcome : Outcome IoError Unit

/-- A writer that callers share: the lock with its holder, the records that each caller has still to
write, and the finished calls in the order in which they gave the lock back. -/
structure SharedWriter (ι : Type) where
  guarded : GuardedWriter
  holder : Option (Holder ι)
  pending : ι → List Record
  finished : List (FinishedCall ι)

namespace SharedWriter

variable {ι : Type}

/-- No caller holds the lock, and every caller has all of its records to write. -/
def start (guarded : GuardedWriter) (programs : ι → List Record) : SharedWriter ι :=
  ⟨guarded, none, programs, []⟩

/-- The octets that the writer has taken. -/
def octets (shared : SharedWriter ι) : Bytes := shared.guarded.writer.taken.octets

/-- Nobody holds the lock, and nobody has a record left. -/
def AllFinished (shared : SharedWriter ι) : Prop :=
  shared.holder = none ∧ ∀ caller, shared.pending caller = []

/-- The holder makes a step on the writer. -/
def advance (shared : SharedWriter ι) (holder : Holder ι) : SharedWriter ι :=
  let (phase, writer) := holder.phase.advance shared.guarded.writer
  { shared with
    guarded := { shared.guarded with writer }
    holder := some { holder with phase } }

/-- A step of the holder changes the writer and what the holder has to do next, and nothing else. -/
theorem advance_eq (shared : SharedWriter ι) (caller : ι) (record : Record) (phase next : Phase)
    (writer : Writer) (step : phase.advance shared.guarded.writer = (next, writer)) :
    shared.advance ⟨caller, record, phase⟩ =
      { shared with
        guarded := { shared.guarded with writer }
        holder := some ⟨caller, record, next⟩ } := by
  simp only [advance, step]

/-- The holder gives the lock back. One that panics leaves it poisoned. -/
def release (shared : SharedWriter ι) (holder : Holder ι) (outcome : Outcome IoError Unit) :
    SharedWriter ι :=
  { shared with
    guarded := match outcome with
      | .panicked _ => { shared.guarded with poisoned := true }
      | .done _ | .failed _ => shared.guarded
    holder := none
    finished := shared.finished ++ [⟨holder.caller, holder.record, outcome⟩] }

/-- Giving the lock back leaves the writer alone. -/
theorem release_writer (shared : SharedWriter ι) (holder : Holder ι)
    (outcome : Outcome IoError Unit) :
    (shared.release holder outcome).guarded.writer = shared.guarded.writer := by
  cases outcome <;> rfl

/-- Giving the lock back adds the call to the finished ones. -/
theorem release_finished (shared : SharedWriter ι) (holder : Holder ι)
    (outcome : Outcome IoError Unit) :
    (shared.release holder outcome).finished =
      shared.finished ++ [⟨holder.caller, holder.record, outcome⟩] := rfl

/-- Where a call stands that began with one state of the lock and has come to another: what is left
of it is written to the same end. -/
inductive InCall : GuardedWriter → Option (Holder ι) → GuardedWriter → Prop where
  | free (guarded : GuardedWriter) : InCall guarded none guarded
  | writing (before now : GuardedWriter) (caller : ι) (record : Record) (left : Bytes)
      (same : before.writer.writeLine record.line = now.writer.writeLine left)
      (poisoned : now.poisoned = before.poisoned) :
      InCall before (some ⟨caller, record, .writing left⟩) now
  | ended (before now : GuardedWriter) (caller : ι) (record : Record)
      (outcome : Outcome IoError Unit)
      (same : before.writer.writeLine record.line = (outcome, now.writer))
      (poisoned : now.poisoned = before.poisoned) :
      InCall before (some ⟨caller, record, .ended outcome⟩) now

/-- The lines of the finished calls. -/
def finishedLines (shared : SharedWriter ι) : List Bytes :=
  shared.finished.map fun call => call.record.line

/-- With the lock free no call is under way. -/
theorem InCall.of_free {before now : GuardedWriter} (inCall : InCall (ι := ι) before none now) :
    before = now := by
  cases inCall
  rfl

/-- The finished calls have the outcomes that their lines have when they are written one after the
other, and the call in hand began where those lines lead. -/
structure Serial (guarded : GuardedWriter) (shared : SharedWriter ι) : Prop where
  outcomes : shared.finished.map FinishedCall.outcome =
    (guarded.run shared.finishedLines).1.map LineCall.outcome
  inCall : InCall (guarded.run shared.finishedLines).2 shared.holder shared.guarded

/-- A step of the holder goes on with the call in hand. -/
theorem advance_serial (guarded : GuardedWriter) (shared : SharedWriter ι)
    (serial : Serial guarded shared) (caller : ι) (record : Record) (left : Bytes)
    (held : shared.holder = some ⟨caller, record, .writing left⟩) :
    Serial guarded (shared.advance ⟨caller, record, .writing left⟩) := by
  obtain ⟨outcomes, inCall⟩ := serial
  rw [held] at inCall
  cases inCall with
  | writing _ _ _ _ same poisoned =>
    rcases Phase.advance_step shared.guarded.writer left with
      ended | ⟨rest, after, step, onward, _⟩
    · rw [advance_eq shared caller record _ _ _ ended]
      exact ⟨outcomes, .ended _ _ caller record _ same poisoned⟩
    · rw [advance_eq shared caller record _ _ _ step]
      exact ⟨outcomes, .writing _ _ caller record rest (same.trans onward) poisoned⟩

/-- Giving the lock back ends the call in hand as writing its line as a whole does. -/
theorem release_serial (guarded : GuardedWriter) (shared : SharedWriter ι)
    (serial : Serial guarded shared) (caller : ι) (record : Record)
    (outcome : Outcome IoError Unit)
    (held : shared.holder = some ⟨caller, record, .ended outcome⟩) :
    Serial guarded (shared.release ⟨caller, record, .ended outcome⟩ outcome) := by
  obtain ⟨outcomes, inCall⟩ := serial
  have lines : (shared.release ⟨caller, record, .ended outcome⟩ outcome).finishedLines =
      shared.finishedLines ++ [record.line] := by
    rw [finishedLines, release_finished, List.map_append]
    rfl
  rw [held] at inCall
  cases inCall with
  | ended _ _ _ _ same poisoned =>
    constructor
    · have last : ((guarded.run shared.finishedLines).2.writer.lineCall record.line).outcome =
          outcome := congrArg Prod.fst same
      rw [lines, GuardedWriter.run_concat, List.map_append, ← outcomes, List.map_singleton, last,
        release_finished, List.map_append]
      rfl
    · have after : (shared.release ⟨caller, record, .ended outcome⟩ outcome).guarded =
          ((guarded.run shared.finishedLines).2.writeLine record.line).2 := by
        rw [GuardedWriter.writeLine, same, ← poisoned]
        cases outcome <;> rfl
      rw [lines, GuardedWriter.run_concat, after]
      exact .free _

variable [DecidableEq ι]

/-- A caller takes the free lock for a record. -/
def take (shared : SharedWriter ι) (caller : ι) (record : Record) (later : List Record) :
    SharedWriter ι :=
  { shared with
    holder := some ⟨caller, record, .writing record.line⟩
    pending := fun other => if other = caller then later else shared.pending other }

/-- The turn of a caller, if it has one. The lock is taken whether or not it is poisoned. -/
def turn? (shared : SharedWriter ι) (caller : ι) : Option (SharedWriter ι) :=
  match shared.holder with
  | none =>
    match shared.pending caller with
    | [] => none
    | record :: later => some (shared.take caller record later)
  | some holder =>
    if holder.caller = caller then
      match holder.phase with
      | .writing _ => some (shared.advance holder)
      | .ended outcome => some (shared.release holder outcome)
    else none

/-- The turns of a schedule, if each of them can be made. -/
def run? (shared : SharedWriter ι) : List ι → Option (SharedWriter ι)
  | [] => some shared
  | caller :: later => (shared.turn? caller).bind fun next => next.run? later

/-- A turn takes the free lock, makes a step of the holder, or gives the lock back. -/
theorem turn_cases (shared next : SharedWriter ι) (caller : ι)
    (turned : shared.turn? caller = some next) :
    (∃ record later, shared.holder = none ∧ shared.pending caller = record :: later ∧
      next = shared.take caller record later) ∨
    (∃ record left, shared.holder = some ⟨caller, record, .writing left⟩ ∧
      next = shared.advance ⟨caller, record, .writing left⟩) ∨
    (∃ record outcome, shared.holder = some ⟨caller, record, .ended outcome⟩ ∧
      next = shared.release ⟨caller, record, .ended outcome⟩ outcome) := by
  cases held : shared.holder with
  | none =>
    cases list : shared.pending caller with
    | nil =>
      simp only [turn?, held, list] at turned
      cases turned
    | cons record later =>
      simp only [turn?, held, list] at turned
      exact Or.inl ⟨record, later, rfl, rfl, (Option.some.inj turned).symm⟩
  | some holder =>
    obtain ⟨owner, record, phase⟩ := holder
    by_cases own : owner = caller
    · subst own
      cases phase with
      | writing left =>
        simp only [turn?, held, if_true] at turned
        exact Or.inr (Or.inl ⟨record, left, rfl, (Option.some.inj turned).symm⟩)
      | ended outcome =>
        simp only [turn?, held, if_true] at turned
        exact Or.inr (Or.inr ⟨record, outcome, rfl, (Option.some.inj turned).symm⟩)
    · simp only [turn?, held, if_neg own] at turned
      cases turned

/-- Turns behind turns. -/
theorem run_append (shared : SharedWriter ι) (first second : List ι) :
    shared.run? (first ++ second) = (shared.run? first).bind fun next => next.run? second := by
  induction first generalizing shared with
  | nil => rfl
  | cons caller later inductionHypothesis =>
    rw [List.cons_append, run?, run?, Option.bind_assoc]
    exact congrArg _ (funext fun next => inductionHypothesis next)

/-- What every turn keeps, every schedule keeps. -/
theorem run_keeps {Property : SharedWriter ι → Prop}
    (turn : ∀ shared next caller, Property shared → shared.turn? caller = some next →
      Property next)
    (shared final : SharedWriter ι) (schedule : List ι) (holds : Property shared)
    (reached : shared.run? schedule = some final) : Property final := by
  induction schedule generalizing shared with
  | nil =>
    cases reached
    exact holds
  | cons caller later inductionHypothesis =>
    obtain ⟨next, turned, rest⟩ := Option.bind_eq_some_iff.mp reached
    exact inductionHypothesis next (turn shared next caller holds turned) rest

/-- The turns of a holder lead to the end of its line, as writing what is left as a whole does.

Induct over what is left to do on the line. -/
theorem holder_writeLine (shared : SharedWriter ι) (caller : ι) (record : Record) (left : Bytes)
    (held : shared.holder = some ⟨caller, record, .writing left⟩) :
    ∃ count, shared.run? (List.replicate count caller) = some { shared with
      guarded := { shared.guarded with writer := (shared.guarded.writer.writeLine left).2 }
      holder := some ⟨caller, record, .ended (shared.guarded.writer.writeLine left).1⟩ } := by
  generalize size : shared.guarded.writer.measure left = work
  induction work using Nat.strongRecOn generalizing shared left with
  | ind work inductionHypothesis =>
    have turn : shared.turn? caller = some (shared.advance ⟨caller, record, .writing left⟩) := by
      simp only [turn?, held, if_true]
    rcases Phase.advance_step shared.guarded.writer left with
      ended | ⟨rest, after, step, same, less⟩
    · rw [advance_eq shared caller record _ _ _ ended] at turn
      refine ⟨1, ?_⟩
      rw [List.replicate_one, run?, turn]
      rfl
    · rw [advance_eq shared caller record _ _ _ step] at turn
      obtain ⟨count, final⟩ := inductionHypothesis _ (size ▸ less)
        { shared with
          guarded := { shared.guarded with writer := after }
          holder := some ⟨caller, record, .writing rest⟩ } rest rfl rfl
      refine ⟨count + 1, ?_⟩
      rw [List.replicate_succ, run?, turn, same]
      exact final

/-- A caller that has the lock to itself writes its next line as a whole: the turns of taking the
lock, writing, flushing and giving the lock back are one call on the guarded writer. -/
theorem alone_writeLine (shared : SharedWriter ι) (free : shared.holder = none) (caller : ι)
    (record : Record) (later : List Record) (list : shared.pending caller = record :: later) :
    ∃ count, shared.run? (List.replicate count caller) = some
      ⟨(shared.guarded.writeLine record.line).2, none,
        fun other => if other = caller then later else shared.pending other,
        shared.finished ++ [⟨caller, record, (shared.guarded.writeLine record.line).1⟩]⟩ := by
  have turn : shared.turn? caller = some (shared.take caller record later) := by
    simp only [turn?, free, list]
  obtain ⟨count, ended⟩ :=
    holder_writeLine (shared.take caller record later) caller record record.line rfl
  refine ⟨count + 1 + 1, ?_⟩
  rw [List.replicate_succ, run?, turn, Option.bind_some, List.replicate_succ', run_append, ended,
    Option.bind_some, run?]
  have under : (shared.take caller record later).guarded = shared.guarded := rfl
  rw [under, GuardedWriter.writeLine]
  rcases shared.guarded.writer.writeLine record.line with ⟨value | error | text, after⟩
  all_goals
    simp only [turn?, if_true]
    rfl

/-- Every turn keeps the calls in line with writing one line after the other. -/
theorem turn_serial (guarded : GuardedWriter) (shared next : SharedWriter ι) (caller : ι)
    (serial : Serial guarded shared) (turned : shared.turn? caller = some next) :
    Serial guarded next := by
  rcases turn_cases shared next caller turned with
    ⟨record, later, free, _, rfl⟩ | ⟨record, left, held, rfl⟩ | ⟨record, outcome, held, rfl⟩
  · obtain ⟨outcomes, inCall⟩ := serial
    rw [free] at inCall
    have begun : (guarded.run shared.finishedLines).2 = shared.guarded := inCall.of_free
    refine ⟨outcomes, .writing _ _ caller record record.line ?_ ?_⟩
    · exact congrArg (fun lock => lock.writer.writeLine record.line) begun
    · exact congrArg GuardedWriter.poisoned begun.symm
  · exact advance_serial guarded shared serial caller record left held
  · exact release_serial guarded shared serial caller record outcome held

/-- Every schedule that the lock allows is one line after another: whenever the lock is free, the
writer and the outcomes are those of the finished lines written one after the other, in the order in
which their calls gave the lock back. -/
theorem run_serial (guarded : GuardedWriter) (programs : ι → List Record) (schedule : List ι)
    (shared : SharedWriter ι) (reached : (start guarded programs).run? schedule = some shared)
    (free : shared.holder = none) :
    shared.guarded = (guarded.run shared.finishedLines).2 ∧
      shared.finished.map FinishedCall.outcome =
        (guarded.run shared.finishedLines).1.map LineCall.outcome := by
  have begin : Serial guarded (start guarded programs) := ⟨rfl, .free guarded⟩
  obtain ⟨outcomes, inCall⟩ := run_keeps (turn_serial guarded) _ shared schedule begin reached
  rw [free] at inCall
  exact ⟨inCall.of_free.symm, outcomes⟩

/-- As long as something is left to do, some caller has a turn. -/
theorem stuck_finished (shared : SharedWriter ι) (stuck : ∀ caller, shared.turn? caller = none) :
    shared.AllFinished := by
  cases held : shared.holder with
  | none =>
    refine ⟨held, ?_⟩
    intro caller
    have none := stuck caller
    cases list : shared.pending caller with
    | nil => rfl
    | cons record later =>
      simp only [turn?, held, list] at none
      cases none
  | some holder =>
    have none := stuck holder.caller
    obtain ⟨caller, record, phase⟩ := holder
    cases phase <;> simp only [turn?, held, if_true] at none <;> cases none

end SharedWriter

end AgentKit
