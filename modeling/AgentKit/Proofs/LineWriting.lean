import AgentKit.Sink.Writer

/-!
# Writing one line

The loop that writes a line asks a scripted writer piece by piece. What a call did is told by the
writer before and behind it: the octets it took, the replies of the script it used up, and the
calls it counted. Each step of the loop takes what its reply allows from the front of what is left,
so that nothing is lost and nothing is written twice, however replies and interruptions alternate.

A line ends in one of two ways. Either it is taken whole, and every reply on the way let it go on;
or a last reply ended it, and what was taken is as long as the replies before that one allowed,
which is less than the line.
-/

namespace AgentKit

namespace WriteReply

/-- How many octets a reply takes at most. -/
def limit : WriteReply → Nat
  | .accept limit => limit
  | .fail _ | .panic => 0

/-- The octets that replies take at most, together. -/
def limits : List WriteReply → Nat
  | [] => 0
  | reply :: later => reply.limit + limits later

/-- A reply after which a line goes on: something is taken, or the call is interrupted. -/
def GoesOn : WriteReply → Prop
  | .accept limit => limit ≠ 0
  | .fail kind => kind = .interrupted
  | .panic => False

/-- A reply that ends a line, and the outcome of the line. -/
inductive Ends : WriteReply → Outcome IoError Unit → Prop where
  | refused (kind : ErrorKind) (final : kind ≠ .interrupted) :
      Ends (.fail kind) (.failed (Writer.fault kind))
  | nothingTaken (zero : IoError.nothingWritten.kind = .writeZero) :
      Ends (.accept 0) (.failed .nothingWritten)
  | panicked : Ends .panic (.panicked Writer.panicText)

end WriteReply

namespace Writer

/-- Calls on pieces lead from one state of a writer to another and take octets. The replies that
they use up are the next ones of the script; flushes are left alone. -/
structure Took (before : Writer) (octets : Bytes) (calls : Nat) (after : Writer) : Prop where
  replies : after.writeReplies = before.writeReplies.drop calls
  counted : after.writeCalls = before.writeCalls + calls
  flushReplies : after.flushReplies = before.flushReplies
  flushCalls : after.flushCalls = before.flushCalls
  grown : before.taken.pieces <:+ after.taken.pieces
  taken : after.taken.octets = before.taken.octets ++ octets

/-- No calls take nothing. -/
theorem Took.none (writer : Writer) : writer.Took [] 0 writer where
  replies := rfl
  counted := rfl
  flushReplies := rfl
  flushCalls := rfl
  grown := List.suffix_rfl
  taken := (List.append_nil _).symm

/-- Calls behind calls take octets behind octets. -/
theorem Took.trans {before middle after : Writer} {first second : Bytes} {calls more : Nat}
    (front : before.Took first calls middle) (back : middle.Took second more after) :
    before.Took (first ++ second) (calls + more) after where
  replies := by rw [back.replies, front.replies, List.drop_drop]
  counted := by rw [back.counted, front.counted, Nat.add_assoc]
  flushReplies := back.flushReplies.trans front.flushReplies
  flushCalls := back.flushCalls.trans front.flushCalls
  grown := front.grown.trans back.grown
  taken := by rw [back.taken, front.taken, List.append_assoc]

/-- What came behind an earlier state is what was taken since. -/
theorem Took.since {before after : Writer} {octets : Bytes} {calls : Nat}
    (took : before.Took octets calls after) : before.taken.since after.taken = octets := by
  have split := Taken.octets_append_since took.grown
  rw [took.taken] at split
  exact List.append_cancel_left split

/-- A call that takes the front of a piece uses up one reply. -/
theorem take_took (writer : Writer) (piece : Bytes) (count : Nat) (later : List WriteReply)
    (next : writer.writeReplies.drop 1 = later) :
    writer.Took (piece.take count) 1 (writer.take piece count later) where
  replies := next.symm
  counted := rfl
  flushReplies := rfl
  flushCalls := rfl
  grown := List.suffix_cons _ _
  taken := Taken.octets_add _ _

/-- One call past the end of the script takes the piece whole. -/
theorem write_pastEnd (writer : Writer) (piece : Bytes) (exhausted : writer.writeReplies = []) :
    ∃ after, writer.write piece = (.took piece.length, after) ∧ writer.Took piece 1 after := by
  refine ⟨writer.take piece piece.length [], by simp only [write, exhausted], ?_⟩
  have took := take_took writer piece piece.length [] (by rw [exhausted]; rfl)
  rwa [List.take_length] at took

/-- One call inside the script takes what its reply allows and uses the reply up. -/
theorem write_reply (writer : Writer) (piece : Bytes) (reply : WriteReply)
    (later : List WriteReply) (next : writer.writeReplies = reply :: later) :
    ∃ after, writer.Took (piece.take reply.limit) 1 after ∧ after.writeReplies = later ∧
      writer.write piece = (match reply with
        | .accept limit => .took (piece.take limit).length
        | .fail kind => .failed (fault kind)
        | .panic => .panicked, after) := by
  have drop : writer.writeReplies.drop 1 = later := by rw [next]; rfl
  refine ⟨writer.take piece reply.limit later, take_took writer piece _ later drop, rfl, ?_⟩
  cases reply <;> simp only [write, next, WriteReply.limit]

/-- What writing a line leads to: it is taken whole while every reply lets it go on, or a reply ends
it before that. There is at most one call more than the script has replies. -/
inductive Wrote (before : Writer) (line : Bytes) : Outcome IoError Unit → Writer → Prop where
  | whole (calls : Nat) (after : Writer) (bounded : calls ≤ before.writeReplies.length + 1)
      (took : before.Took line calls after)
      (goesOn : ∀ reply ∈ before.writeReplies.take calls, reply.GoesOn) :
      Wrote before line (.done ()) after
  | torn (calls : Nat) (after : Writer) (bounded : calls ≤ before.writeReplies.length + 1)
      (earlier : List WriteReply) (last : WriteReply) (outcome : Outcome IoError Unit)
      (replies : before.writeReplies.take calls = earlier ++ [last])
      (goesOn : ∀ reply ∈ earlier, reply.GoesOn) (ends : last.Ends outcome)
      (took : before.Took (line.take (WriteReply.limits earlier)) calls after)
      (short : WriteReply.limits earlier < line.length) :
      Wrote before line outcome after

/-- A call whose reply lets the line go on is the first of those that write the line. -/
theorem Wrote.step {before middle after : Writer} {line : Bytes}
    {outcome : Outcome IoError Unit} (reply : WriteReply) (later : List WriteReply)
    (next : before.writeReplies = reply :: later) (goesOn : reply.GoesOn)
    (took : before.Took (line.take reply.limit) 1 middle)
    (rest : Wrote middle (line.drop reply.limit) outcome after) :
    Wrote before line outcome after := by
  have replies : middle.writeReplies = later := by rw [took.replies, next]; rfl
  have consumed : ∀ calls, before.writeReplies.take (1 + calls) =
      reply :: middle.writeReplies.take calls := by
    intro calls
    rw [next, replies, Nat.add_comm, List.take_succ_cons]
  have longer : before.writeReplies.length = middle.writeReplies.length + 1 := by
    rw [next, replies, List.length_cons]
  cases rest with
  | whole calls after bounded behind allGoOn =>
    have together := took.trans behind
    rw [List.take_append_drop] at together
    refine .whole (1 + calls) after (by omega) together ?_
    intro other member
    rw [consumed, List.mem_cons] at member
    rcases member with rfl | member
    · exact goesOn
    · exact allGoOn other member
  | torn calls after bounded earlier last outcome behind allGoOn ends tookRest short =>
    have together := took.trans tookRest
    have total : WriteReply.limits (reply :: earlier) = reply.limit + WriteReply.limits earlier :=
      rfl
    rw [← List.take_add, ← total] at together
    refine .torn (1 + calls) after (by omega) (reply :: earlier) last outcome ?_ ?_ ends together ?_
    · rw [consumed, behind, List.cons_append]
    · intro other member
      rcases List.mem_cons.mp member with rfl | member
      · exact goesOn
      · exact allGoOn other member
    · rw [List.length_drop] at short
      omega

/-- The loop follows the result of one call. -/
theorem writeAll_left (writer : Writer) (line : Bytes) (left : line ≠ []) :
    writer.writeAll line = match writer.write line with
      | (.took count, after) =>
        if count = 0 then (.failed .nothingWritten, after) else after.writeAll (line.drop count)
      | (.failed error, after) =>
        if error.kind = .interrupted then after.writeAll line else (.failed error, after)
      | (.panicked, after) => (.panicked panicText, after) := by
  rw [writeAll, dif_neg left]
  split <;> rename_i called <;> rw [called]

/-- The octets of a piece that a reply allows are none exactly when it allows none. -/
theorem length_take_limit (line : Bytes) (left : line ≠ []) (limit : Nat) :
    (line.take limit).length = 0 ↔ limit = 0 := by
  have some : line.length ≠ 0 := fun none => left (List.eq_nil_of_length_eq_zero none)
  rw [List.length_take]
  omega

/-- What a reply leaves of a piece. -/
theorem drop_taken (line : Bytes) (limit : Nat) :
    line.drop (line.take limit).length = line.drop limit := by
  rw [List.length_take]
  by_cases inside : limit ≤ line.length
  · rw [Nat.min_eq_left inside]
  · rw [Nat.min_eq_right (by omega), List.drop_length, List.drop_eq_nil_of_le (by omega)]

/-- Writing a line ends, and leads to one of the two.

Induct over the replies to come. Past the end of the script the first call takes everything that is
left. Inside it, a reply is the last one or lets the loop go on with what it did not take. -/
theorem writeAll_wrote (writer : Writer) (line : Bytes) :
    writer.Wrote line (writer.writeAll line).1 (writer.writeAll line).2 := by
  generalize script : writer.writeReplies = replies
  induction replies generalizing writer line with
  | nil =>
    by_cases left : line = []
    · rw [left, writeAll, dif_pos rfl]
      exact .whole 0 writer (Nat.zero_le _) (Took.none writer) (by simp)
    · obtain ⟨after, called, took⟩ := write_pastEnd writer line script
      have some : line.length ≠ 0 := fun none => left (List.eq_nil_of_length_eq_zero none)
      rw [writeAll_left writer line left, called]
      simp only [if_neg some, List.drop_length]
      rw [writeAll, dif_pos rfl]
      exact .whole 1 after (by omega) took (by simp [script])
  | cons reply later inductionHypothesis =>
    by_cases left : line = []
    · rw [left, writeAll, dif_pos rfl]
      exact .whole 0 writer (Nat.zero_le _) (Took.none writer) (by simp)
    obtain ⟨after, took, replies, called⟩ := write_reply writer line reply later script
    have some : line.length ≠ 0 := fun none => left (List.eq_nil_of_length_eq_zero none)
    have last : ∀ outcome, reply.Ends outcome → reply.limit = 0 →
        writer.Wrote line outcome after := by
      intro outcome ends none
      rw [none] at took
      refine .torn 1 after (by omega) [] reply outcome ?_ ?_ ends took ?_
      · rw [script]
        rfl
      · exact fun _ member => nomatch member
      · exact Nat.pos_of_ne_zero some
    rw [writeAll_left writer line left, called]
    cases reply with
    | accept limit =>
      simp only [length_take_limit line left, drop_taken]
      split
      · rename_i zero
        exact last _ (zero ▸ .nothingTaken rfl) zero
      · rename_i positive
        exact .step (.accept limit) later script positive took
          (inductionHypothesis after (line.drop limit) replies)
    | fail kind =>
      dsimp only
      split
      · rename_i interrupted
        exact .step (.fail kind) later script interrupted took
          (inductionHypothesis after line replies)
      · rename_i final
        exact last _ (.refused kind final) rfl
    | panic => exact last _ .panicked rfl

end Writer

end AgentKit
