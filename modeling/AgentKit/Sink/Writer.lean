import AgentKit.Fault.Basic
import AgentKit.Outcome
import AgentKit.Sink.Taken
/-!
# Scripted writers

A writer takes octets piece by piece. How much it takes of each piece, and when it fails, is fixed
in advance by a script with one reply for each call; past its end every piece is taken whole and
every flush succeeds.

A line is written by calls on what is left of it until nothing is left. An interrupted call takes
nothing and is repeated. A call that takes nothing otherwise, any other failure and a panic end the
line where it stands. A flush follows only behind a whole line, and is not repeated.
-/
namespace AgentKit

/-- A writer's reply to one piece. -/
inductive WriteReply where
  /-- At most so many octets are taken. -/
  | accept (limit : Nat)
  | fail (kind : ErrorKind)
  | panic
deriving DecidableEq, Repr

/-- A writer's reply to one flush. -/
inductive FlushReply where
  | succeed
  | fail (kind : ErrorKind)
deriving DecidableEq, Repr

/-- A writer: the replies to come, what it has taken, and how often it was called. -/
structure Writer where
  writeReplies : List WriteReply
  flushReplies : List FlushReply
  taken : Taken
  writeCalls : Nat
  flushCalls : Nat
deriving DecidableEq, Repr

/-- How one call on a piece ends. -/
inductive WriteResult where
  | took (count : Nat)
  | failed (error : IoError)
  | panicked
deriving DecidableEq, Repr

namespace Writer

/-- A writer at the beginning of its script. -/
def ofScript (writeReplies : List WriteReply) (flushReplies : List FlushReply) : Writer :=
  ⟨writeReplies, flushReplies, .nothing, 0, 0⟩

/-- The message of every scripted failure. -/
def fault (kind : ErrorKind) : IoError := .custom kind "fault"

/-- What a panicking writer says. -/
def panicText : String := "sink panic"

/-- A call has taken the first octets of a piece. -/
def take (writer : Writer) (piece : Bytes) (count : Nat) (replies : List WriteReply) : Writer :=
  { writer with
    writeReplies := replies
    taken := writer.taken.add (piece.take count)
    writeCalls := writer.writeCalls + 1 }

/-- One call on a piece. -/
def write (writer : Writer) (piece : Bytes) : WriteResult × Writer :=
  match writer.writeReplies with
  | [] => (.took piece.length, writer.take piece piece.length [])
  | .accept limit :: later =>
    (.took (piece.take limit).length, writer.take piece limit later)
  | .fail kind :: later => (.failed (fault kind), writer.take piece 0 later)
  | .panic :: later => (.panicked, writer.take piece 0 later)

/-- One flush. -/
def flush (writer : Writer) : Except IoError Unit × Writer :=
  let called := { writer with flushCalls := writer.flushCalls + 1 }
  match writer.flushReplies with
  | [] => (.ok (), called)
  | .succeed :: later => (.ok (), { called with flushReplies := later })
  | .fail kind :: later => (.error (fault kind), { called with flushReplies := later })

/-- What is left to do on a line: replies of the script, and then one call. -/
def measure (writer : Writer) (line : Bytes) : Nat :=
  writer.writeReplies.length + (if line = [] then 0 else 1)

/-- A call that takes nothing uses up a reply of the script. -/
theorem measure_write_nothing {writer after : Writer} {line : Bytes} {result : WriteResult}
    (called : writer.write line = (result, after))
    (nothing : result ≠ .took line.length) : after.measure line < writer.measure line := by
  unfold write at called
  split at called <;> cases called
  · exact absurd rfl nothing
  all_goals
    rename_i replies
    simp [measure, take, replies]

/-- A call that takes something leaves less to do. -/
theorem measure_write_some {writer after : Writer} {line : Bytes} {count : Nat}
    (called : writer.write line = (.took count, after)) (left : line ≠ []) :
    after.measure (line.drop count) < writer.measure line := by
  unfold write at called
  split at called <;> cases called
  · rename_i replies
    simp [measure, take, replies, left]
  · rename_i limit later replies
    simp only [measure, take, replies, left, if_false, List.length_cons]
    split <;> omega

/-- Write a line piece by piece. -/
def writeAll (writer : Writer) (line : Bytes) : Outcome IoError Unit × Writer :=
  if _left : line = [] then (.done (), writer)
  else
    match _called : writer.write line with
    | (.took count, after) =>
      if count = 0 then (.failed .nothingWritten, after)
      else after.writeAll (line.drop count)
    | (.failed error, after) =>
      if error.kind = .interrupted then after.writeAll line else (.failed error, after)
    | (.panicked, after) => (.panicked panicText, after)
termination_by writer.measure line
decreasing_by
  · exact measure_write_some _called _left
  · exact measure_write_nothing _called (by simp)

/-- Write a line and flush. -/
def writeLine (writer : Writer) (line : Bytes) : Outcome IoError Unit × Writer :=
  match writer.writeAll line with
  | (.done (), written) =>
    let (result, flushed) := written.flush
    (.ofExcept result, flushed)
  | (.failed error, written) => (.failed error, written)
  | (.panicked text, written) => (.panicked text, written)

end Writer

/-- A writer behind a lock. A panic while the lock is held poisons it. -/
structure GuardedWriter where
  writer : Writer
  poisoned : Bool
deriving DecidableEq, Repr

namespace GuardedWriter

/-- Write a line under the lock. A poisoned lock is taken like any other. -/
def writeLine (guarded : GuardedWriter) (line : Bytes) : Outcome IoError Unit × GuardedWriter :=
  match guarded.writer.writeLine line with
  | (.panicked text, after) => (.panicked text, ⟨after, true⟩)
  | (outcome, after) => (outcome, ⟨after, guarded.poisoned⟩)

end GuardedWriter

end AgentKit
