import AgentKit.Record
import AgentKit.Text.Numeral
/-!
# Thresholds of diagnostics

A threshold admits events from one severity on. It is written as a word in any case or as a number
from zero, which admits nothing, to five, which admits everything.
-/
namespace AgentKit

/-- How much a directive admits. -/
inductive Threshold where
  | off
  | error
  | warn
  | info
  | debug
  | trace
deriving DecidableEq, Repr

namespace Threshold

/-- The place in the order from nothing to everything. -/
def rank : Threshold → Nat
  | .off => 0
  | .error => 1
  | .warn => 2
  | .info => 3
  | .debug => 4
  | .trace => 5

/-- All thresholds with their words. -/
def words : List (String × Threshold) :=
  [("off", .off), ("error", .error), ("warn", .warn), ("info", .info), ("debug", .debug),
    ("trace", .trace)]

/-- The threshold of a number from zero to five, or of a word in any case. -/
def ofText? (text : List Char) : Option Threshold :=
  match Numeral.word? text with
  | some number => words.findSome? fun word => if word.2.rank = number then some word.2 else none
  | none => words.lookup (String.ofList (text.map Char.toLower))

/-- An event of a level is admitted. -/
def admits (threshold : Threshold) (level : Level) : Bool :=
  match level with
  | .error => 1 ≤ threshold.rank
  | .warn => 2 ≤ threshold.rank
  | .info => 3 ≤ threshold.rank
  | .debug => 4 ≤ threshold.rank

end Threshold

end AgentKit
