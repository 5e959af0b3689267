import AgentKit.Proofs.ActionSequence
import AgentKit.Proofs.FileWriting
import AgentKit.Proofs.WorkspaceCreation
import AgentKit.Task
/-!
# A run of the greeting task

The task takes six steps in their order: two records, the directories, the greeting file, two more
records. The first step that is not done ends it. The records change what the output stream holds,
the directories and the file change the files, and apart from that developers are told about three
events. So the files tell how far a run came, and the error stream holds nothing of the task itself.
-/

namespace AgentKit.Task

open AgentKit.Action

/-- The records in front of all other work. -/
def opening (words : String) : List (Action TaskError Unit) :=
  [report "agent starting" [], report "greeting loaded" [("greeting", .string words)]]

/-- Make the directories of the workspace. -/
def making (layout : Layout) : Action TaskError Unit :=
  ((Workspace.ensureDirectories layout).mapError .directories).andThen fun _ => done ()

/-- Write the greeting file. -/
def writing (path : Path) (greeting : Greeting) : Action TaskError Unit :=
  (emit (.writingResult path)).andThen fun _ => writeResult path greeting

/-- The records behind all other work. -/
def closing (path : Path) : List (Action TaskError Unit) :=
  [report "output written" [("path", .string path.display)], report "agent finished" []]

/-- The six steps of the task. -/
def steps (layout : Layout) (words : String) (clock : Clock) (path : Path) :
    List (Action TaskError Unit) :=
  opening words ++ making layout :: writing path ⟨words, clock⟩ :: closing path

/-- The greeting of a host. -/
def wordsOn (host : Host) (secret : String) : String :=
  (host.environment.value? secret).getD defaultGreeting

/-- The greeting file of a host. -/
def pathOn (host : Host) (layout : Layout) : Path :=
  resultPath (.ofRoot (Workspace.select layout host).root)

/-- The events that the task tells developers about, in their order. -/
def eventsOn (host : Host) (layout : Layout) : List Event :=
  let selection := Workspace.select layout host
  [.rootResolved selection.root selection.source, .directoriesReady selection.root,
    .writingResult (pathOn host layout)]

/-- The run of the six steps, with the path as the answer. -/
def attempt (layout : Layout) (words : String) (clock : Clock) (path : Path) (host : Host) :
    Outcome TaskError Path × Host :=
  ((inOrder (steps layout words clock path)).andThen fun _ => done path).run host

/-- What is selected does not depend on what the output stream holds. -/
theorem select_onlyOut {before after : Host} (only : before.OnlyOut after) (layout : Layout) :
    Workspace.select layout after = Workspace.select layout before := by
  rw [only]
  rfl

/-- A record changes what the output stream holds and nothing else. -/
theorem report_onlyOut {message : String} {extras : Fields} {host after : Host}
    {outcome : Outcome TaskError Unit}
    (taken : (report message extras).run host = (outcome, after)) : host.OnlyOut after := by
  obtain rfl := congrArg Prod.snd taken
  rfl

/-- The task is its six steps, with the words and the path that the host decides at the start. -/
theorem run_eq (layout : Layout) (secret : String) (clock : Clock) (host : Host) :
    (run layout secret clock).run host =
      attempt layout (wordsOn host secret) clock (pathOn host layout) host := by
  have task : run layout secret clock =
      (report "agent starting" []).andThen fun _ =>
        (Secrets.get secret).andThen fun value =>
          (report "greeting loaded" [("greeting", .string (value.getD defaultGreeting))]).andThen
            fun _ =>
              ((Workspace.ensureDirectories layout).mapError .directories).andThen fun paths =>
                (inOrder (writing (resultPath paths) ⟨value.getD defaultGreeting, clock⟩ ::
                  closing (resultPath paths))).andThen fun _ => done (resultPath paths) := by
    simp only [inOrder, writing, closing, andThen_assoc]
    rfl
  rw [task]
  simp only [attempt, steps, opening, making, List.cons_append, List.nil_append, inOrder,
    andThen_assoc]
  refine andThen_congr fun _ begun first => ?_
  have only := report_onlyOut first
  have read : (Secrets.get secret : Action TaskError (Option String)).run begun =
      (.done (host.environment.value? secret), begun) := by
    rw [← only.environment]
    rfl
  rw [andThen_done _ read, wordsOn]
  refine andThen_congr fun _ greeted second => ?_
  have later := report_onlyOut second
  refine andThen_congr fun found ready third => ?_
  obtain ⟨rfl, _⟩ := Workspace.ensureDirectories_done (mapError_done third)
  rw [select_onlyOut (only.trans later)]
  rfl

theorem opening_reports (words : String) :
    ∀ step ∈ opening words, ∃ message extras, step = report message extras := by
  simp [opening]

/-- Records change what the output stream holds and nothing else, however far they come. -/
theorem inOrder_onlyOut {records : List (Action TaskError Unit)}
    (reports : ∀ step ∈ records, ∃ message extras, step = report message extras) (host : Host) :
    host.OnlyOut ((inOrder records).run host).2 := by
  have itself : ∀ host : Host, host.OnlyOut host := fun _ => rfl
  have each : ∀ step ∈ records, ∀ host : Host, host.OnlyOut (step.run host).2 := by
    intro step member host
    obtain ⟨message, extras, rfl⟩ := reports step member
    exact report_onlyOut rfl
  exact inOrder_keeps itself (fun _ _ _ => Host.OnlyOut.trans) each host

variable (layout : Layout) (words : String) (clock : Clock) (path : Path) (host : Host)

end AgentKit.Task
