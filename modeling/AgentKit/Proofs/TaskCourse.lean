import AgentKit.Proofs.RecordText
import AgentKit.Proofs.TaskStages

/-!
# The course of the greeting task

What a run of the task comes to, told at once: the steps it takes and the first one that it stops
at, the lines that its records are, and what the two streams and the files hold behind it.
-/

namespace AgentKit.Task

open AgentKit.Action

variable (layout : Layout) (clock : Clock) (host : Host)

end AgentKit.Task
