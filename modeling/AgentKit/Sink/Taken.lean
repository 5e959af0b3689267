import AgentKit.Text.Utf8
/-!
# What a stream has taken

A stream takes octets piece by piece and gives none of them back. The pieces are kept with the last
one in front: one more piece leaves the others as they are, and what came behind an earlier state is
in front of it.
-/
namespace AgentKit

/-- The pieces that a stream has taken, the last one first. -/
structure Taken where
  pieces : List Bytes
deriving DecidableEq, Repr

namespace Taken

/-- A stream at its beginning. -/
def nothing : Taken := ⟨[]⟩

/-- The stream with one more piece. -/
def add (taken : Taken) (piece : Bytes) : Taken := ⟨piece :: taken.pieces⟩

/-- All octets, in the order in which they came. -/
def octets (taken : Taken) : Bytes := taken.pieces.reverse.flatten

/-- The octets that came behind an earlier state of the stream. -/
def since (before after : Taken) : Bytes :=
  octets ⟨after.pieces.take (after.pieces.length - before.pieces.length)⟩

@[simp] theorem octets_add (taken : Taken) (piece : Bytes) :
    (taken.add piece).octets = taken.octets ++ piece := by
  simp [add, octets]

/-- Behind an earlier state comes what the later one holds more. The pieces of the earlier state are
the last ones of the later, so the pieces in front are cut off by their number. -/
theorem octets_append_since {before after : Taken} (grown : before.pieces <:+ after.pieces) :
    before.octets ++ before.since after = after.octets := by
  obtain ⟨front, whole⟩ := grown
  have cut : after.pieces.take (after.pieces.length - before.pieces.length) = front := by
    rw [← whole]
    simp
  rw [since, cut, octets, octets, octets, ← whole]
  simp

end Taken

end AgentKit
