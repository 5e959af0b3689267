/-!
# Sets of characters

A set of characters is a list of closed ranges of their numbers, ascending and apart.
-/
namespace AgentKit.Text

/-- Closed ranges of the numbers of characters. -/
abbrev Ranges := List (Nat × Nat)

/-- A character whose number lies in one of the ranges. -/
def Ranges.holds (ranges : Ranges) (character : Char) : Bool :=
  ranges.any fun range => range.1 ≤ character.toNat && character.toNat ≤ range.2

end AgentKit.Text
