import AgentKit.Proofs.LineWriting

/-!
# Runs of lines on one writer

Lines are handed to a writer behind a lock one after the other. The script of the writer goes on
from one line to the next, through failures and panics, and what each call left in the stream stays
there: the stream is the concatenation of what the calls were taken, in their order.

A call is judged by what can be seen of it: the line, its outcome, and the writer before and behind
it. The lock plays no part, poisoned or not.
-/

namespace AgentKit

/-- One line handed to a writer. -/
structure LineCall where
  line : Bytes
  outcome : Outcome IoError Unit
  before : Writer
  after : Writer

namespace LineCall

/-- The octets that the writer took during the call. -/
def accepted (call : LineCall) : Bytes := call.before.taken.since call.after.taken

/-- How many pieces were offered. -/
def writeCalls (call : LineCall) : Nat := call.after.writeCalls - call.before.writeCalls

/-- How often the writer was flushed. -/
def flushCalls (call : LineCall) : Nat := call.after.flushCalls - call.before.flushCalls

/-- The replies of the script to the pieces. -/
def replies (call : LineCall) : List WriteReply := call.before.writeReplies.take call.writeCalls

/-- The three ways in which a call ends: the line is taken and flushed, or taken and not flushed, or
a reply ends it inside. A flush is made exactly behind a whole line, and is made once. -/
inductive Ended (call : LineCall) : Prop where
  | whole (goesOn : ∀ reply ∈ call.replies, reply.GoesOn) (all : call.accepted = call.line)
      (once : call.flushCalls = 1)
      (succeeds : ∀ kind, call.before.flushReplies.head? ≠ some (.fail kind))
      (done : call.outcome = .done ())
  | unflushed (goesOn : ∀ reply ∈ call.replies, reply.GoesOn) (all : call.accepted = call.line)
      (once : call.flushCalls = 1) (kind : ErrorKind)
      (fails : call.before.flushReplies.head? = some (.fail kind))
      (failed : call.outcome = .failed (Writer.fault kind))
  | torn (earlier : List WriteReply) (last : WriteReply)
      (replies : call.replies = earlier ++ [last]) (goesOn : ∀ reply ∈ earlier, reply.GoesOn)
      (ends : last.Ends call.outcome)
      (part : call.accepted = call.line.take (WriteReply.limits earlier))
      (proper : WriteReply.limits earlier < call.line.length) (never : call.flushCalls = 0)

/-- A call adds what it was taken to the stream, asks no more often than the script answers and once
behind it, uses up one reply for each time it asked, and ends in one of the three ways. -/
structure Exact (call : LineCall) : Prop where
  stream : call.after.taken.octets = call.before.taken.octets ++ call.accepted
  bounded : call.writeCalls ≤ call.before.writeReplies.length + 1
  writeScript : call.after.writeReplies = call.before.writeReplies.drop call.writeCalls
  flushScript : call.after.flushReplies = call.before.flushReplies.drop call.flushCalls
  ended : call.Ended

/-- A call is taken its whole line or a proper front of it. -/
theorem Ended.part {call : LineCall} (ended : call.Ended) : call.accepted = call.line ∨
    ∃ count, count < call.line.length ∧ call.accepted = call.line.take count := by
  cases ended with
  | whole _ all => exact Or.inl all
  | unflushed _ all => exact Or.inl all
  | torn earlier _ _ _ _ part proper => exact Or.inr ⟨_, proper, part⟩

/-- A call that is done was taken its whole line. -/
theorem Ended.all_of_done {call : LineCall} (ended : call.Ended) (done : call.outcome = .done ()) :
    call.accepted = call.line := by
  cases ended with
  | whole _ all => exact all
  | unflushed _ all => exact all
  | torn _ _ _ _ ends =>
    rw [done] at ends
    cases ends

end LineCall

/-- Calls that lead from one state of a writer to another, each starting where the one before it
stopped. -/
inductive LinkedCalls : Writer → List LineCall → Writer → Prop where
  | none (writer : Writer) : LinkedCalls writer [] writer
  | next (call : LineCall) (later : List LineCall) (final : Writer)
      (rest : LinkedCalls call.after later final) : LinkedCalls call.before (call :: later) final

/-- Calls that follow one another add to the stream what each was taken, in order. -/
theorem LinkedCalls.octets {before after : Writer} {calls : List LineCall}
    (linked : LinkedCalls before calls after) (exact : ∀ call ∈ calls, call.Exact) :
    after.taken.octets = before.taken.octets ++ (calls.map LineCall.accepted).flatten := by
  induction linked with
  | none writer => simp
  | next call later final rest inductionHypothesis =>
    have behind := inductionHypothesis fun other member =>
      exact other (List.mem_cons_of_mem _ member)
    rw [behind, (exact call List.mem_cons_self).stream, List.map_cons, List.flatten_cons,
      List.append_assoc]

namespace Writer

/-- One line, as a call. -/
def lineCall (writer : Writer) (line : Bytes) : LineCall where
  line := line
  outcome := (writer.writeLine line).1
  before := writer
  after := (writer.writeLine line).2

/-- A flush counts once, uses up its reply, and leaves the octets and the other replies alone. -/
theorem flush_counted (writer : Writer) :
    writer.flush.2 = { writer with
      flushCalls := writer.flushCalls + 1
      flushReplies := writer.flushReplies.drop 1 } := by
  rw [flush]
  split <;> rename_i script <;> simp [script]

/-- A flush fails exactly with the failure that the script has next. -/
theorem flush_reply (writer : Writer) :
    (writer.flush.1 = .ok () ∧ ∀ kind, writer.flushReplies.head? ≠ some (.fail kind)) ∨
      ∃ kind, writer.flush.1 = .error (fault kind) ∧
        writer.flushReplies.head? = some (.fail kind) := by
  rw [flush]
  split <;> rename_i script
  · exact Or.inl ⟨rfl, by simp [script]⟩
  · exact Or.inl ⟨rfl, by simp [script]⟩
  · rename_i kind later
    exact Or.inr ⟨kind, rfl, by simp [script]⟩

/-- A whole line is flushed, and the outcome is that of the flush. -/
theorem writeLine_whole (writer written : Writer) (line : Bytes)
    (whole : writer.writeAll line = (.done (), written)) :
    writer.writeLine line = (.ofExcept written.flush.1, written.flush.2) := by
  simp only [writeLine, whole]

/-- A line that a reply ended has the outcome of that reply and is not flushed. -/
theorem writeLine_torn (writer written : Writer) (line : Bytes) (last : WriteReply)
    (outcome : Outcome IoError Unit) (ends : last.Ends outcome)
    (torn : writer.writeAll line = (outcome, written)) :
    writer.writeLine line = (outcome, written) := by
  cases ends <;> simp only [writeLine, torn]

/-- A whole line with its flush is an exact call. -/
theorem exact_whole (writer written : Writer) (line : Bytes) (calls : Nat)
    (bounded : calls ≤ writer.writeReplies.length + 1) (took : writer.Took line calls written)
    (goesOn : ∀ reply ∈ writer.writeReplies.take calls, reply.GoesOn) :
    LineCall.Exact ⟨line, .ofExcept written.flush.1, writer, written.flush.2⟩ := by
  have asked : written.flush.2.writeCalls - writer.writeCalls = calls := by
    rw [flush_counted]
    change written.writeCalls - writer.writeCalls = calls
    rw [took.counted, Nat.add_sub_cancel_left]
  have once : written.flush.2.flushCalls - writer.flushCalls = 1 := by
    rw [flush_counted]
    change written.flushCalls + 1 - writer.flushCalls = 1
    rw [took.flushCalls, Nat.add_sub_cancel_left]
  have taken : written.flush.2.taken = written.taken := by rw [flush_counted]
  have all : writer.taken.since written.flush.2.taken = line := by rw [taken, took.since]
  have allGoOn : ∀ reply ∈ writer.writeReplies.take
      (written.flush.2.writeCalls - writer.writeCalls), reply.GoesOn := by rwa [asked]
  refine ⟨?_, ?_, ?_, ?_, ?_⟩
  · change written.flush.2.taken.octets =
      writer.taken.octets ++ writer.taken.since written.flush.2.taken
    rw [all, taken, took.taken]
  · change written.flush.2.writeCalls - writer.writeCalls ≤ _
    rwa [asked]
  · change written.flush.2.writeReplies =
      writer.writeReplies.drop (written.flush.2.writeCalls - writer.writeCalls)
    rw [asked, flush_counted, ← took.replies]
  · change written.flush.2.flushReplies =
      writer.flushReplies.drop (written.flush.2.flushCalls - writer.flushCalls)
    rw [once, flush_counted, ← took.flushReplies]
  · rcases flush_reply written with ⟨succeeded, script⟩ | ⟨kind, failed, script⟩
    · rw [took.flushReplies] at script
      exact .whole allGoOn all once script (congrArg Outcome.ofExcept succeeded)
    · rw [took.flushReplies] at script
      exact .unflushed allGoOn all once kind script (congrArg Outcome.ofExcept failed)

/-- A line that a reply ended is an exact call. -/
theorem exact_torn (writer written : Writer) (line : Bytes) (calls : Nat)
    (bounded : calls ≤ writer.writeReplies.length + 1) (earlier : List WriteReply)
    (last : WriteReply) (outcome : Outcome IoError Unit)
    (replies : writer.writeReplies.take calls = earlier ++ [last])
    (goesOn : ∀ reply ∈ earlier, reply.GoesOn) (ends : last.Ends outcome)
    (took : writer.Took (line.take (WriteReply.limits earlier)) calls written)
    (short : WriteReply.limits earlier < line.length) :
    LineCall.Exact ⟨line, outcome, writer, written⟩ := by
  have asked : written.writeCalls - writer.writeCalls = calls := by
    rw [took.counted, Nat.add_sub_cancel_left]
  have never : written.flushCalls - writer.flushCalls = 0 := by
    rw [took.flushCalls, Nat.sub_self]
  refine ⟨?_, ?_, ?_, ?_, ?_⟩
  · change written.taken.octets = writer.taken.octets ++ writer.taken.since written.taken
    rw [took.since, took.taken]
  · change written.writeCalls - writer.writeCalls ≤ _
    rwa [asked]
  · change written.writeReplies =
      writer.writeReplies.drop (written.writeCalls - writer.writeCalls)
    rw [asked, took.replies]
  · change written.flushReplies = writer.flushReplies.drop (written.flushCalls - writer.flushCalls)
    rw [never, took.flushReplies, List.drop_zero]
  · refine .torn earlier last ?_ goesOn ends took.since short never
    change writer.writeReplies.take (written.writeCalls - writer.writeCalls) = _
    rw [asked, replies]

/-- Every line is written exactly, whatever the script holds. -/
theorem lineCall_exact (writer : Writer) (line : Bytes) : (writer.lineCall line).Exact := by
  have wrote := writeAll_wrote writer line
  generalize called : writer.writeAll line = result at wrote
  obtain ⟨outcome, written⟩ := result
  cases wrote with
  | whole calls _ bounded took goesOn =>
    rw [lineCall, writeLine_whole writer written line called]
    exact exact_whole writer written line calls bounded took goesOn
  | torn calls _ bounded earlier last _ replies goesOn ends took short =>
    rw [lineCall, writeLine_torn writer written line last outcome ends called]
    exact exact_torn writer written line calls bounded earlier last outcome replies goesOn ends
      took short

end Writer

namespace GuardedWriter

/-- Hand lines to the writer, one call after the other. -/
def run (guarded : GuardedWriter) : List Bytes → List LineCall × GuardedWriter
  | [] => ([], guarded)
  | line :: later =>
    let (outcome, after) := guarded.writeLine line
    let (calls, final) := after.run later
    (⟨line, outcome, guarded.writer, after.writer⟩ :: calls, final)

/-- The lock hands the line to its writer and hands back the outcome, whether or not it is
poisoned. -/
theorem writeLine_unguarded (guarded : GuardedWriter) (line : Bytes) :
    (guarded.writeLine line).1 = (guarded.writer.writeLine line).1 ∧
      (guarded.writeLine line).2.writer = (guarded.writer.writeLine line).2 := by
  rw [writeLine]
  split <;> rename_i result <;> rw [result] <;> exact ⟨rfl, rfl⟩

/-- The first call of a run is that of its writer, and the others follow. -/
theorem run_cons (guarded : GuardedWriter) (line : Bytes) (later : List Bytes) :
    guarded.run (line :: later) =
      (guarded.writer.lineCall line :: ((guarded.writeLine line).2.run later).1,
        ((guarded.writeLine line).2.run later).2) := by
  obtain ⟨outcome, after⟩ := writeLine_unguarded guarded line
  rw [run, Writer.lineCall, ← outcome, ← after]

/-- One line more is one call more. -/
theorem run_concat (guarded : GuardedWriter) (lines : List Bytes) (line : Bytes) :
    guarded.run (lines ++ [line]) =
      ((guarded.run lines).1 ++ [(guarded.run lines).2.writer.lineCall line],
        ((guarded.run lines).2.writeLine line).2) := by
  induction lines generalizing guarded with
  | nil =>
    rw [List.nil_append, run_cons]
    rfl
  | cons first later inductionHypothesis =>
    rw [List.cons_append, run_cons, run_cons, inductionHypothesis]
    rfl

/-- The lock plays no part: calls depend on the writer behind it only. -/
theorem run_writer (left right : GuardedWriter) (same : left.writer = right.writer)
    (lines : List Bytes) : (left.run lines).1 = (right.run lines).1 := by
  induction lines generalizing left right with
  | nil => rfl
  | cons line later inductionHypothesis =>
    have after : (left.writeLine line).2.writer = (right.writeLine line).2.writer := by
      rw [(writeLine_unguarded left line).2, (writeLine_unguarded right line).2, same]
    rw [run_cons, run_cons, same, inductionHypothesis _ _ after]

/-- The calls of a run follow one another, are those of the lines, and are exact. -/
theorem run_linked (guarded : GuardedWriter) (lines : List Bytes) :
    (guarded.run lines).1.map LineCall.line = lines ∧
    LinkedCalls guarded.writer (guarded.run lines).1 (guarded.run lines).2.writer ∧
    ∀ call ∈ (guarded.run lines).1, call.Exact := by
  induction lines generalizing guarded with
  | nil => exact ⟨rfl, .none guarded.writer, fun _ member => nomatch member⟩
  | cons line later inductionHypothesis =>
    obtain ⟨order, linked, exact⟩ := inductionHypothesis (guarded.writeLine line).2
    rw [(writeLine_unguarded guarded line).2] at linked
    rw [run_cons]
    refine ⟨congrArg (line :: ·) order, .next (guarded.writer.lineCall line) _ _ linked, ?_⟩
    intro call member
    rcases List.mem_cons.mp member with rfl | member
    · exact Writer.lineCall_exact guarded.writer line
    · exact exact call member

/-- Whatever a scripted writer does, a run of lines makes one call for each line, the calls follow
one another, and each is exact; so the stream is what the calls were taken, in their order. The
state of the lock changes none of them. -/
theorem run_exact (guarded : GuardedWriter) (lines : List Bytes) :
    (guarded.run lines).1.map LineCall.line = lines ∧
    LinkedCalls guarded.writer (guarded.run lines).1 (guarded.run lines).2.writer ∧
    (guarded.run lines).2.writer.taken.octets =
      guarded.writer.taken.octets ++ ((guarded.run lines).1.map LineCall.accepted).flatten ∧
    (∀ call ∈ (guarded.run lines).1, call.Exact) ∧
    ∀ poisoned, (run ⟨guarded.writer, poisoned⟩ lines).1 = (guarded.run lines).1 := by
  obtain ⟨order, linked, exact⟩ := run_linked guarded lines
  refine ⟨order, linked, linked.octets exact, exact, ?_⟩
  intro poisoned
  exact run_writer ⟨guarded.writer, poisoned⟩ guarded rfl lines

end GuardedWriter

end AgentKit
