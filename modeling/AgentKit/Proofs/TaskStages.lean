import AgentKit.Proofs.SinkLines
import AgentKit.Proofs.TaskRun
import AgentKit.Proofs.TwoRuns

/-!
# The stages of the greeting task

The steps of the task, told by what they do to the output stream and the files alone. A stage writes
a record, makes directories or writes the greeting file; the first one that is not done ends the
task. Developers are told about stages, but a stage neither reads the error stream nor asks for the
filter, so a run of the task is its stages on the output stream and the files, and beside them the
events that it tells.
-/

namespace AgentKit.Task

open AgentKit.Action

/-- What is done on a host is followed by the same. -/
theorem andThen_run_congr {ε α β : Type} {first other : Action ε α} {host : Host}
    (same : first.run host = other.run host) (next : α → Action ε β) :
    (first.andThen next).run host = (other.andThen next).run host := by
  change first host = other host at same
  rw [Action.run, Action.run, andThen, andThen, same]

/-- What the task works on. -/
structure Product where
  out : Sink
  files : Files

/-- A step of the task with all that it is to write. -/
inductive Stage where
  | record (message : String) (extras : Fields)
  | directories (selection : RootSelection)
  | result (path : Path) (greeting : Greeting)

namespace Stage

/-- The line of a record at a time. -/
def recordLine (clock : Clock) (message : String) (extras : Fields) : Bytes :=
  Record.line ⟨.info, message, clock, extras⟩

/-- The lines that a stage writes to the output stream. -/
def lines (clock : Clock) : Stage → List Bytes
  | .record message extras => [recordLine clock message extras]
  | .directories _ | .result _ _ => []

/-- What a stage does. -/
def perform (clock : Clock) (product : Product) : Stage → Outcome IoError Unit × Product
  | .record message extras =>
    let (outcome, out) := product.out.writeLine (recordLine clock message extras)
    (outcome, { product with out })
  | .directories selection =>
    let (made, files) :=
      Workspace.makeAll (WorkspacePaths.ofRoot selection.root).subdirectories product.files
    (.ofExcept made, { product with files })
  | .result path greeting =>
    match product.files.writeFile path greeting.octets with
    | .ok files => (.done (), { product with files })
    | .error error => (.failed error, product)

/-- What developers are told about a stage that ended with an outcome. -/
def told : Stage → Outcome IoError Unit → List Event
  | .record _ _, _ => []
  | .directories selection, outcome =>
    .rootResolved selection.root selection.source ::
      if outcome = .done () then [.directoriesReady selection.root] else []
  | .result path _, _ => [.writingResult path]

/-- The error of the task when a stage failed. -/
def error : Stage → IoError → TaskError
  | .record _ _, cause => .record (.io cause)
  | .directories _, cause => .directories (.io cause)
  | .result path _, cause => .result path cause

/-- What is put in front of the message of the failure. -/
def context : Stage → String
  | .record _ _ => ""
  | .directories _ => "create workspace directories: "
  | .result path _ => "write " ++ path.display ++ ": "

/-- A failure is told once, behind the context of its stage. -/
theorem error_message (stage : Stage) (cause : IoError) :
    (stage.error cause).message = stage.context ++ cause.message := by
  cases stage with
  | record message extras => exact String.empty_append.symm
  | directories selection => rfl
  | result path greeting => rfl

/-- The action of a stage. -/
def act : Stage → Action TaskError Unit
  | .record message extras => report message extras
  | .directories selection =>
    (emit (.rootResolved selection.root selection.source)).andThen fun _ =>
      ((changeFiles (Workspace.makeAll
        (WorkspacePaths.ofRoot selection.root).subdirectories)).mapError
          fun cause => .directories (.io cause)).andThen fun _ =>
        emit (.directoriesReady selection.root)
  | .result path greeting => writing path greeting

end Stage

/-- A host on which developers were told about events and the product is another one. -/
def Product.on (product : Product) (host : Host) (events : List Event) : Host :=
  { events.foldl Host.emit host with out := product.out, files := product.files }

/-- The product of a host. -/
def Product.of (host : Host) : Product := ⟨host.out, host.files⟩

theorem Product.on_clock (product : Product) (host : Host) (events : List Event) :
    (product.on host events).clock = host.clock :=
  Host.foldl_emit_clock events host

/-- What is told later is told behind what was told first, whatever the product was in between. -/
theorem Product.on_on (product between : Product) (host : Host) (front back : List Event) :
    product.on (between.on host front) back = product.on host (front ++ back) := by
  rw [on, on, on, Host.foldl_emit_with, List.foldl_append]

namespace Stage

/-- A stage and its action end alike on a host: the action leaves the product of the stage, and
developers were told about it. -/
def Follows (stage : Stage) (host : Host) : Prop :=
  stage.act.run host =
    ((stage.perform host.clock (.of host)).1.mapError stage.error,
      (stage.perform host.clock (.of host)).2.on host
        (stage.told (stage.perform host.clock (.of host)).1))

theorem record_follows (message : String) (extras : Fields) (host : Host) :
    (record message extras).Follows host := by
  have written : (report message extras).run host =
      (((host.out.writeLine (recordLine host.clock message extras)).1.mapError .io).mapError
          .record,
        { host with out := (host.out.writeLine (recordLine host.clock message extras)).2 }) := rfl
  rw [Follows, act, written]
  simp only [perform, Product.of]
  rcases host.out.writeLine (recordLine host.clock message extras) with ⟨_ | _ | _, out⟩ <;> rfl

theorem directories_follows (selection : RootSelection) (host : Host) :
    (directories selection).Follows host := by
  have shown : (emit (.rootResolved selection.root selection.source) :
      Action TaskError Unit).run host =
        (.done (), host.emit (.rootResolved selection.root selection.source)) := rfl
  rw [Follows, act, andThen_done _ shown]
  simp only [perform, Product.of, Product.on, told,
    ← Host.emit_files host (.rootResolved selection.root selection.source),
    ← Host.emit_out host (.rootResolved selection.root selection.source), List.foldl_cons]
  generalize host.emit (.rootResolved selection.root selection.source) = resolved
  have changed : (changeFiles (Workspace.makeAll
      (WorkspacePaths.ofRoot selection.root).subdirectories)).run resolved =
        (.ofExcept (Workspace.makeAll (WorkspacePaths.ofRoot selection.root).subdirectories
            resolved.files).1,
          { resolved with files := (Workspace.makeAll
            (WorkspacePaths.ofRoot selection.root).subdirectories resolved.files).2 }) := rfl
  rcases made : Workspace.makeAll (WorkspacePaths.ofRoot selection.root).subdirectories
    resolved.files with ⟨error | value, files⟩
  · rw [made] at changed
    exact andThen_failed _ (run_mapError _ changed)
  · rw [made] at changed
    rw [andThen_done _ (run_mapError _ changed)]
    exact congrArg (Prod.mk _) (Host.emit_with resolved resolved.out files _)

theorem result_follows (path : Path) (greeting : Greeting) (host : Host) :
    (result path greeting).Follows host := by
  have shown : (emit (.writingResult path) : Action TaskError Unit).run host =
      (.done (), host.emit (.writingResult path)) := rfl
  rw [Follows, act, writing, andThen_done _ shown]
  simp only [perform, Product.of, Product.on, told, ← Host.emit_files host (.writingResult path),
    ← Host.emit_out host (.writingResult path), List.foldl_cons, List.foldl_nil]
  generalize host.emit (.writingResult path) = between
  have changed : (writeResult path greeting).run between =
      (let (wrote, files) :=
        (match between.files.writeFile path greeting.octets with
          | .ok changed => (.ok (), changed)
          | .error error => (.error error, between.files) : Except IoError Unit × Files)
       ((Outcome.ofExcept wrote).mapError (.result path), { between with files })) := rfl
  rw [changed]
  rcases between.files.writeFile path greeting.octets with error | files <;> rfl

/-- The action of a stage does what the stage does, and tells developers about it. -/
theorem act_follows (stage : Stage) (host : Host) : stage.Follows host := by
  cases stage with
  | record message extras => exact record_follows message extras host
  | directories selection => exact directories_follows selection host
  | result path greeting => exact result_follows path greeting host

end Stage

/-- How stages end that were taken one after the other, and what developers were told. -/
structure Performance where
  outcome : Outcome TaskError Unit
  product : Product
  events : List Event

/-- Take stages in order, up to the first that is not done. -/
def perform (clock : Clock) : List Stage → Product → Performance
  | [], product => ⟨.done (), product, []⟩
  | stage :: later, product =>
    match stage.perform clock product with
    | (.done (), between) =>
      let rest := perform clock later between
      { rest with events := stage.told (.done ()) ++ rest.events }
    | (outcome, left) => ⟨outcome.mapError stage.error, left, stage.told outcome⟩

/-- Stages are all done. -/
inductive Done (clock : Clock) : List Stage → Product → Product → Prop where
  | nothing (product : Product) : Done clock [] product product
  | next {stage : Stage} {later : List Stage} {before between after : Product}
      (performed : stage.perform clock before = (.done (), between))
      (rest : Done clock later between after) : Done clock (stage :: later) before after

/-- A stage fails behind stages that are done. -/
inductive FailsAt (clock : Clock) (stages : List Stage) (before : Product) (stage : Stage)
    (cause : IoError) (left : Product) : Prop where
  | behind {earlier later : List Stage} {between : Product}
      (order : stages = earlier ++ stage :: later) (front : Done clock earlier before between)
      (performed : stage.perform clock between = (.failed cause, left))

/-- The six stages of the task. -/
def stages (selection : RootSelection) (words : String) (clock : Clock) : List Stage :=
  let path := resultPath (.ofRoot selection.root)
  [.record "agent starting" [], .record "greeting loaded" [("greeting", .string words)],
    .directories selection, .result path ⟨words, clock⟩,
    .record "output written" [("path", .string path.display)], .record "agent finished" []]

variable {clock : Clock} {stage : Stage} {later : List Stage} {product between left : Product}

/-- A stage that is done is followed by the others. -/
theorem perform_done (performed : stage.perform clock product = (.done (), between)) :
    perform clock (stage :: later) product =
      { perform clock later between with
        events := stage.told (.done ()) ++ (perform clock later between).events } := by
  rw [perform, performed]

/-- A stage that is not done is followed by nothing. -/
theorem perform_undone {outcome : Outcome IoError Unit}
    (performed : stage.perform clock product = (outcome, left)) (undone : outcome ≠ .done ()) :
    perform clock (stage :: later) product =
      ⟨outcome.mapError stage.error, left, stage.told outcome⟩ := by
  rw [perform, performed]
  cases outcome with
  | done value => exact absurd rfl undone
  | failed cause => rfl
  | panicked text => rfl

/-- Stages whose first one is not done are not all done. -/
theorem perform_undone_ne {outcome : Outcome IoError Unit}
    (performed : stage.perform clock product = (outcome, left)) (undone : outcome ≠ .done ()) :
    (perform clock (stage :: later) product).outcome ≠ .done () := by
  rw [perform_undone performed undone]
  cases outcome with
  | done value => exact absurd rfl undone
  | failed cause => nofun
  | panicked text => nofun

/-- The actions of stages, taken in order, do what the stages do, and tell what they tell.

Induct over the stages. The host between is the product of the first stage on the old host, so what
is told behind it is told in the end as if the product had not changed in between. -/
theorem inOrder_perform (stages : List Stage) (host : Host) :
    (inOrder (stages.map Stage.act)).run host =
      ((perform host.clock stages (.of host)).outcome,
        (perform host.clock stages (.of host)).product.on host
          (perform host.clock stages (.of host)).events) := by
  induction stages generalizing host with
  | nil => rfl
  | cons stage later inductionHypothesis =>
    have first := Stage.act_follows stage host
    rw [Stage.Follows] at first
    rw [List.map_cons, inOrder]
    rcases performed : stage.perform host.clock (.of host) with ⟨_ | cause | text, between⟩
    · rw [performed] at first
      rw [andThen_done _ first, inductionHypothesis, perform_done performed, Product.on_on,
        Product.on_clock]
      rfl
    · rw [performed] at first
      rw [andThen_failed _ first, perform_undone performed (by simp)]
      rfl
    · rw [performed] at first
      rw [andThen_panicked _ first, perform_undone performed (by simp)]
      rfl

/-- Making the directories is the stage of the root that is selected on the host. -/
theorem making_run (layout : Layout) (host : Host) :
    (making layout).run host =
      (Stage.act (.directories (Workspace.select layout host))).run host := by
  have run := Workspace.ensureDirectories_run layout host
  have shown : (emit (.rootResolved (Workspace.select layout host).root
      (Workspace.select layout host).source) : Action TaskError Unit).run host =
        (.done (), host.emit (.rootResolved (Workspace.select layout host).root
          (Workspace.select layout host).source)) := rfl
  dsimp only at run
  rw [Stage.act, making, andThen_done _ shown]
  generalize Workspace.select layout host = selection at run ⊢
  have changed : (changeFiles (Workspace.makeAll
      (WorkspacePaths.ofRoot selection.root).subdirectories)).run
        (host.emit (.rootResolved selection.root selection.source)) =
      (.ofExcept (Workspace.makeAll (WorkspacePaths.ofRoot selection.root).subdirectories
          host.files).1,
        { host.emit (.rootResolved selection.root selection.source) with
          files := (Workspace.makeAll (WorkspacePaths.ofRoot selection.root).subdirectories
            host.files).2 }) := by
    rw [← Host.emit_files host (.rootResolved selection.root selection.source)]
    rfl
  generalize Workspace.makeAll _ host.files = made at run changed
  obtain ⟨error | value, files⟩ := made
  · rw [andThen_failed _ (run_mapError _ run), andThen_failed _ (run_mapError _ changed)]
  · rw [andThen_done _ (run_mapError _ run), andThen_done _ (run_mapError _ changed)]
    rfl

/-- The run of the task is its stages, for the root and the words of the host at the start. -/
theorem attempt_stages (layout : Layout) (words : String) (clock : Clock) (host : Host) :
    attempt layout words clock (pathOn host layout) host =
      ((inOrder ((stages (Workspace.select layout host) words clock).map Stage.act)).andThen
        fun _ => Action.done (pathOn host layout)).run host := by
  have actions : (stages (Workspace.select layout host) words clock).map Stage.act =
      opening words ++ Stage.act (.directories (Workspace.select layout host)) ::
        writing (pathOn host layout) ⟨words, clock⟩ :: closing (pathOn host layout) := rfl
  rw [attempt, steps, actions, inOrder_append, inOrder_append, andThen_assoc, andThen_assoc]
  refine andThen_congr fun _ begun opened => ?_
  have only := inOrder_onlyOut (opening_reports words) host
  rw [opened] at only
  have made := making_run layout begun
  rw [select_onlyOut only] at made
  simp only [inOrder, andThen_assoc]
  exact andThen_run_congr made _

/-- A run of the task ends as its stages do, on the output stream and the files of the host, and
developers were told what the stages tell. -/
theorem run_perform (layout : Layout) (secret : String) (clock : Clock) (host : Host) :
    let performed := perform host.clock
      (stages (Workspace.select layout host) (wordsOn host secret) clock) (.of host)
    let ended := (run layout secret clock).run host
    Outcome.Agree (fun _ path => path = pathOn host layout) performed.outcome ended.1 ∧
      ended.2 = performed.product.on host performed.events := by
  intro performed ended
  have taken := inOrder_perform
    (stages (Workspace.select layout host) (wordsOn host secret) clock) host
  have same : ended = _ :=
    (run_eq layout secret clock host).trans (attempt_stages layout (wordsOn host secret) clock host)
  rw [same]
  change _ = (performed.outcome, performed.product.on host performed.events) at taken
  cases outcome : performed.outcome with
  | done value =>
    rw [outcome] at taken
    rw [andThen_done _ taken]
    exact ⟨.done rfl, rfl⟩
  | failed error =>
    rw [outcome] at taken
    rw [andThen_failed _ taken]
    exact ⟨.failed error, rfl⟩
  | panicked text =>
    rw [outcome] at taken
    rw [andThen_panicked _ taken]
    exact ⟨.panicked text, rfl⟩

/-- The task has an answer exactly when the stages are all done. -/
theorem run_answer (layout : Layout) (secret : String) (clock : Clock) (host : Host) :
    (∃ path, ((run layout secret clock).run host).1 = .done path) ↔
      (perform host.clock (stages (Workspace.select layout host) (wordsOn host secret) clock)
        (.of host)).outcome = .done () := by
  have agree := (run_perform layout secret clock host).1
  generalize (perform host.clock _ (.of host)).outcome = outcome at agree ⊢
  generalize ((run layout secret clock).run host).1 = ended at agree ⊢
  cases agree with
  | done same => exact iff_of_true ⟨_, rfl⟩ rfl
  | failed error => exact iff_of_false (by simp) nofun
  | panicked text => exact iff_of_false (by simp) nofun

/-! ## What stages leave -/

/-- The lines of stages, in order. -/
def linesOf (clock : Clock) (stages : List Stage) : List Bytes := stages.flatMap (Stage.lines clock)

/-- A stage leaves the output stream as its lines do, if there are any. -/
theorem Stage.perform_out (clock : Clock) (product : Product) (stage : Stage) :
    (stage.perform clock product).2.out = product.out.after (stage.lines clock) := by
  cases stage with
  | record message extras => rfl
  | directories selection => rfl
  | result path greeting =>
    rw [perform]
    split <;> rfl

/-- A stage does not panic if the output stream does not. -/
theorem Stage.perform_calm {clock : Clock} {product : Product} (calm : product.out.Calm)
    (stage : Stage) (text : String) : (stage.perform clock product).1 ≠ .panicked text := by
  cases stage with
  | record message extras => exact calm [] _ text
  | directories selection =>
    rw [perform]
    rcases Workspace.makeAll _ product.files with ⟨_ | _, files⟩ <;> simp [Outcome.ofExcept]
  | result path greeting =>
    rw [perform]
    split <;> simp

/-- What the output stream takes of the lines of one stage: a front of them, and all of them when
the stage is done, unless it discards lines. -/
theorem Stage.perform_takes (clock : Clock) (product : Product) (stage : Stage) :
    ∃ held, (stage.perform clock product).2.out.accepted = product.out.accepted ++ held ∧
      held <+: (stage.lines clock).flatten ∧
      (product.out.AllOrNothing → ∃ first, first <+: stage.lines clock ∧ held = first.flatten) ∧
      ((stage.perform clock product).1 = .done () → ¬ product.out.Discards →
        held = (stage.lines clock).flatten) := by
  rw [perform_out]
  cases stage with
  | record message extras =>
    obtain ⟨held, takes, front, all⟩ :=
      product.out.writeLine_takes (recordLine clock message extras)
    have alone : (lines clock (record message extras)).flatten =
        recordLine clock message extras := List.append_nil _
    rw [alone]
    refine ⟨held, takes, front, ?_, all⟩
    intro whole
    have part := whole [] (recordLine clock message extras)
    rw [Sink.after_nil, takes, List.mem_pair] at part
    rcases part with none | same
    · exact ⟨[], List.nil_prefix, List.append_right_eq_self.mp none⟩
    · exact ⟨_, List.prefix_rfl, (List.append_cancel_left same).trans alone.symm⟩
  | directories selection =>
    exact ⟨[], (List.append_nil _).symm, List.nil_prefix, fun _ => ⟨[], List.nil_prefix, rfl⟩,
      fun _ _ => rfl⟩
  | result path greeting =>
    exact ⟨[], (List.append_nil _).symm, List.nil_prefix, fun _ => ⟨[], List.nil_prefix, rfl⟩,
      fun _ _ => rfl⟩

/-- Stages on a calm output stream end with all of them done, or with one that fails. -/
theorem perform_ends (stages : List Stage) (before : Product) (calm : before.out.Calm) :
    let performed := perform clock stages before
    (performed.outcome = .done () ∧ Done clock stages before performed.product) ∨
      ∃ stage cause, performed.outcome = .failed (stage.error cause) ∧
        FailsAt clock stages before stage cause performed.product := by
  induction stages generalizing before with
  | nil => exact .inl ⟨rfl, .nothing before⟩
  | cons stage later inductionHypothesis =>
    have out := Stage.perform_out clock before stage
    rcases performed : stage.perform clock before with ⟨_ | cause | text, between⟩
    · rw [performed] at out
      rw [perform_done performed]
      rcases inductionHypothesis between (out ▸ calm.after _) with
        ⟨done, all⟩ | ⟨failing, cause, failed, order, front, last⟩
      · exact .inl ⟨done, .next performed all⟩
      · exact .inr ⟨failing, cause, failed, .behind (congrArg (stage :: ·) order)
          (.next performed front) last⟩
    · rw [perform_undone performed (by simp)]
      exact .inr ⟨stage, cause, rfl, .behind rfl (.nothing before) performed⟩
    · exact absurd (congrArg Prod.fst performed) (Stage.perform_calm calm stage text)

/-- Stages that are all done end in that way only. -/
theorem Done.outcome {stages : List Stage} {before after : Product}
    (all : Done clock stages before after) : (perform clock stages before).outcome = .done () := by
  induction all with
  | nothing product => rfl
  | next performed rest inductionHypothesis =>
    rw [perform_done performed]
    exact inductionHypothesis

/-- What the output stream takes of the lines of stages: a front of them, and all of them when all
stages are done, unless it discards lines. If it takes whole lines only, it takes some first ones.

Induct over the stages. A stage that is done has added all of its lines, and behind one that is not
there are no others. -/
theorem perform_takes (clock : Clock) (stages : List Stage) (before : Product)
    (keeps : ¬ before.out.Discards) :
    ∃ held,
      (perform clock stages before).product.out.accepted = before.out.accepted ++ held ∧
      held <+: (linesOf clock stages).flatten ∧
      (before.out.AllOrNothing → ∃ first, first <+: linesOf clock stages ∧ held = first.flatten) ∧
      ((perform clock stages before).outcome = .done () →
        held = (linesOf clock stages).flatten) := by
  induction stages generalizing before with
  | nil =>
    exact ⟨[], (List.append_nil _).symm, List.nil_prefix, fun _ => ⟨[], List.nil_prefix, rfl⟩,
      fun _ => rfl⟩
  | cons stage later inductionHypothesis =>
    obtain ⟨held, takes, front, first, all⟩ := Stage.perform_takes clock before stage
    have out := Stage.perform_out clock before stage
    have lines : linesOf clock (stage :: later) = stage.lines clock ++ linesOf clock later :=
      List.flatMap_cons
    rw [lines, List.flatten_append]
    rcases performed : stage.perform clock before with ⟨outcome, between⟩
    rw [performed] at takes out all
    by_cases done : outcome = .done ()
    · subst done
      obtain rfl := all rfl keeps
      have still : ¬ between.out.Discards := by
        rw [out, Sink.discards_after]
        exact keeps
      obtain ⟨rest, grows, behind, others, whole⟩ := inductionHypothesis between still
      rw [perform_done performed]
      refine ⟨(stage.lines clock).flatten ++ rest, ?_, ?_, ?_, ?_⟩
      · exact grows.trans (by rw [takes, List.append_assoc])
      · exact (List.prefix_append_right_inj _).mpr behind
      · intro pieces
        obtain ⟨some, begins, same⟩ := others (out ▸ pieces.after _)
        refine ⟨stage.lines clock ++ some, (List.prefix_append_right_inj _).mpr begins, ?_⟩
        rw [same, List.flatten_append]
      · intro done
        rw [whole done]
    · refine ⟨held, ?_, front.trans (List.prefix_append _ _), ?_, ?_⟩
      · rw [perform_undone performed done]
        exact takes
      · intro pieces
        obtain ⟨some, begins, same⟩ := first pieces
        exact ⟨some, begins.trans (List.prefix_append _ _), same⟩
      · intro all
        exact absurd all (perform_undone_ne performed done)

/-- Stages leave the output stream behind some lines. -/
theorem perform_out (clock : Clock) (stages : List Stage) (before : Product) :
    ∃ lines, (perform clock stages before).product.out = before.out.after lines := by
  induction stages generalizing before with
  | nil => exact ⟨[], rfl⟩
  | cons stage later inductionHypothesis =>
    have out := Stage.perform_out clock before stage
    rcases performed : stage.perform clock before with ⟨outcome, between⟩
    rw [performed] at out
    by_cases done : outcome = .done ()
    · subst done
      obtain ⟨lines, rest⟩ := inductionHypothesis between
      rw [perform_done performed]
      exact ⟨stage.lines clock ++ lines, rest.trans (by rw [out, Sink.after_append])⟩
    · rw [perform_undone performed done]
      exact ⟨stage.lines clock, out⟩

/-- What the output stream takes of the lines of stages, whether it keeps lines or not. -/
theorem perform_held (clock : Clock) (stages : List Stage) (before : Product) :
    ∃ held, (perform clock stages before).product.out.accepted = before.out.accepted ++ held ∧
      held <+: (linesOf clock stages).flatten ∧
      (before.out.AllOrNothing → ∃ first, first <+: linesOf clock stages ∧ held = first.flatten) ∧
      ((perform clock stages before).outcome = .done () → ¬ before.out.Discards →
        held = (linesOf clock stages).flatten) := by
  by_cases discards : before.out.Discards
  · obtain ⟨lines, out⟩ := perform_out clock stages before
    refine ⟨[], ?_, List.nil_prefix, fun _ => ⟨[], List.nil_prefix, rfl⟩, ?_⟩
    · rw [out, List.append_nil]
      exact discards.after lines
    · exact fun _ keeps => absurd discards keeps
  · obtain ⟨held, takes, front, whole, all⟩ := perform_takes clock stages before discards
    exact ⟨held, takes, front, whole, fun done _ => all done⟩

/-- About a stage that is not done no more is told than about one that is. -/
theorem Stage.told_prefix (stage : Stage) (outcome : Outcome IoError Unit) :
    stage.told outcome <+: stage.told (.done ()) := by
  cases stage with
  | record message extras => exact List.prefix_rfl
  | directories selection =>
    rw [told, told]
    split
    · exact List.prefix_rfl
    · exact (List.prefix_append_right_inj [_]).mpr List.nil_prefix
  | result path greeting => exact List.prefix_rfl

/-- Developers are told the first of the events of all stages, and all of them when all stages are
done. -/
theorem perform_told (clock : Clock) (stages : List Stage) (before : Product) :
    (perform clock stages before).events <+: stages.flatMap (Stage.told · (.done ())) ∧
      ((perform clock stages before).outcome = .done () →
        (perform clock stages before).events = stages.flatMap (Stage.told · (.done ()))) := by
  induction stages generalizing before with
  | nil => exact ⟨List.prefix_rfl, fun _ => rfl⟩
  | cons stage later inductionHypothesis =>
    rw [List.flatMap_cons]
    rcases performed : stage.perform clock before with ⟨outcome, between⟩
    by_cases done : outcome = .done ()
    · subst done
      obtain ⟨first, all⟩ := inductionHypothesis between
      rw [perform_done performed]
      exact ⟨(List.prefix_append_right_inj _).mpr first, fun done => congrArg _ (all done)⟩
    · refine ⟨?_, fun all => absurd all (perform_undone_ne performed done)⟩
      rw [perform_undone performed done]
      exact (stage.told_prefix outcome).trans (List.prefix_append _ _)

end AgentKit.Task
