import AgentKit.Text.Utf8
import AgentKit.Time.Timestamp
/-!
# The greeting file

The result of the greeting task is a text: the greeting, and on a last line of its own the time at
which the text was made. The greeting is not escaped; the last line is what tells it from the rest.
-/
namespace AgentKit

/-- The result of the greeting task. -/
structure Greeting where
  words : String
  clock : Clock

namespace Greeting

/-- The label in front of the time. -/
def label : List Char := "Generated at: ".toList

/-- The text of a result. -/
def text (greeting : Greeting) : List Char :=
  greeting.words.toList ++ '\n' :: label ++ greeting.clock.text ++ ['\n']

/-- The octets of a result. -/
def octets (greeting : Greeting) : Bytes := Utf8.encode greeting.text

end Greeting

end AgentKit
