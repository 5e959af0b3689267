import AgentKit.Greeting
import AgentKit.Proofs.TimestampText
import AgentKit.Proofs.Utf8

/-!
# Reading a greeting file back

The words of a greeting are written as they are, so they may hold newlines and lines that look like
the last one. A result is therefore read from its end: its last line is the one behind which no
newline stands but the one that ends the text. The line that the writer puts there has no newline of
its own, since the text of a timestamp is made of digits and marks. Thus a result ends in one line
only, and everything in front of that line is the words.

The last line tells the instant to the microsecond, so equal files have equal words and instants
that agree to the microsecond.
-/

namespace AgentKit

namespace Timestamp

end Timestamp

namespace Greeting

/-- A text ends in a line: behind what stands before it come a newline, the line, and the newline
that ends the text. -/
structure EndsInLine (text before line : List Char) : Prop where
  whole : text = before ++ '\n' :: line ++ ['\n']
  single : '\n' ∉ line

/-- What stands behind a mark, without another one, ends what stands behind any such mark. -/
theorem suffix_of_mark {mark : Char} {front other back rest : List Char} (plain : mark ∉ back)
    (same : front ++ mark :: back = other ++ mark :: rest) : back <:+ rest := by
  rcases List.append_eq_append_iff.mp same with ⟨between, _, behind⟩ | ⟨between, _, behind⟩
  · cases between with
    | nil => exact (List.cons.inj behind).2 ▸ List.suffix_refl back
    | cons first later =>
      rw [(List.cons.inj behind).2] at plain
      exact absurd (List.mem_append_right later List.mem_cons_self) plain
  · cases between with
    | nil => exact (List.cons.inj behind).2 ▸ List.suffix_refl back
    | cons first later =>
      rw [(List.cons.inj behind).2]
      exact (List.suffix_cons mark back).trans (List.suffix_append later _)

/-- A text ends in one line at most. -/
theorem EndsInLine.unique {text before line otherBefore otherLine : List Char}
    (one : EndsInLine text before line) (other : EndsInLine text otherBefore otherLine) :
    otherBefore = before ∧ otherLine = line := by
  obtain ⟨rfl, single⟩ := one
  obtain ⟨whole, alsoSingle⟩ := other
  have same := List.append_cancel_right whole
  have shorter := suffix_of_mark single same
  have longer := suffix_of_mark alsoSingle same.symm
  obtain rfl := shorter.eq_of_length_le longer.length_le
  exact ⟨(List.append_cancel_right same).symm, rfl⟩

end Greeting

end AgentKit
