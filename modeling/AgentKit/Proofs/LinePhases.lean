import AgentKit.Proofs.WriterRun

/-!
# The steps of one line

A caller that holds the lock of a writer does one thing at a time: it offers what is left of its
line to the writer, or, with nothing left, flushes once. Between two steps the lock stays with the
caller, and the phase tells what the caller has to do next. Followed to the end, the steps are the
writing of a line as a whole.
-/

namespace AgentKit

/-- What the holder of the lock has to do next: offer what is left of its line, or nothing any
more. -/
inductive Phase where
  | writing (left : Bytes)
  | ended (outcome : Outcome IoError Unit)

namespace Phase

/-- One step of the holder: a call on what is left, or the flush when nothing is. -/
def advance (writer : Writer) : Phase → Phase × Writer
  | .writing left =>
    if left = [] then
      let (result, after) := writer.flush
      (.ended (.ofExcept result), after)
    else
      match writer.write left with
      | (.took count, after) =>
        if count = 0 then (.ended (.failed .nothingWritten), after)
        else (.writing (left.drop count), after)
      | (.failed error, after) =>
        if error.kind = .interrupted then (.writing left, after)
        else (.ended (.failed error), after)
      | (.panicked, after) => (.ended (.panicked Writer.panicText), after)
  | .ended outcome => (.ended outcome, writer)

/-- One step ends the line as writing it as a whole does, or leaves a line that is written as a
whole to the same end, with less to do. -/
theorem advance_step (writer : Writer) (line : Bytes) :
    advance writer (.writing line) =
        (.ended (writer.writeLine line).1, (writer.writeLine line).2) ∨
      ∃ left after, advance writer (.writing line) = (.writing left, after) ∧
        writer.writeLine line = after.writeLine left ∧
        after.measure left < writer.measure line := by
  by_cases empty : line = []
  · left
    have whole : writer.writeAll line = (.done (), writer) := by rw [Writer.writeAll, dif_pos empty]
    rw [Writer.writeLine_whole writer writer line whole, empty]
    rfl
  have loop := Writer.writeAll_left writer line empty
  generalize called : writer.write line = result at loop
  rcases result with ⟨count | error | _, after⟩
  · by_cases zero : count = 0
    · left
      simp only [advance, if_neg empty, called, Writer.writeLine, loop, if_pos zero]
    · right
      refine ⟨line.drop count, after, ?_, ?_, Writer.measure_write_some called empty⟩
      · simp only [advance, if_neg empty, called, if_neg zero]
      · simp only [Writer.writeLine, loop, if_neg zero]
  · by_cases interrupted : error.kind = .interrupted
    · right
      refine ⟨line, after, ?_, ?_, Writer.measure_write_nothing called (by simp)⟩
      · simp only [advance, if_neg empty, called, if_pos interrupted]
      · simp only [Writer.writeLine, loop, if_pos interrupted]
    · left
      simp only [advance, if_neg empty, called, Writer.writeLine, loop, if_neg interrupted]
  · left
    simp only [advance, if_neg empty, called, Writer.writeLine, loop]

/-- While the replies let lines go on, a step with something left takes a front of it and leaves the
rest. -/
theorem advance_goesOn (writer : Writer) (line : Bytes) (left : line ≠ [])
    (goesOn : ∀ reply ∈ writer.writeReplies, reply.GoesOn) :
    ∃ count after, advance writer (.writing line) = (.writing (line.drop count), after) ∧
      writer.Took (line.take count) 1 after := by
  cases script : writer.writeReplies with
  | nil =>
    obtain ⟨after, called, took⟩ := writer.write_pastEnd line script
    have some : line.length ≠ 0 := fun none => left (List.eq_nil_of_length_eq_zero none)
    refine ⟨line.length, after, ?_, by rwa [List.take_length]⟩
    simp only [advance, if_neg left, called, if_neg some]
  | cons reply later =>
    obtain ⟨after, took, _, called⟩ := writer.write_reply line reply later script
    have next : reply.GoesOn := goesOn reply (script ▸ List.mem_cons_self)
    refine ⟨reply.limit, after, ?_, took⟩
    cases reply with
    | accept limit =>
      have some : (line.take limit).length ≠ 0 :=
        fun none => next ((Writer.length_take_limit line left limit).mp none)
      simp only [advance, if_neg left, called, if_neg some, Writer.drop_taken]
      rfl
    | fail kind =>
      have interrupted : (Writer.fault kind).kind = .interrupted := next
      simp only [advance, if_neg left, called, if_pos interrupted]
      rfl
    | panic => exact next.elim

end Phase

end AgentKit
