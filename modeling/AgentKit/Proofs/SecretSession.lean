import AgentKit.Proofs.TwoRuns
import AgentKit.Proofs.WorkspaceRepetition
import AgentKit.Session.Run

/-!
# What a secret shows of itself

Two sessions start on hosts whose environments differ in the value of one secret. Every step of the
one session is compared with the same step of the other. The workspace asks for its own variable
only, the page asks whether a key is configured and not which, and the logger asks for nothing, so
the value shows in the answers of the steps that ask for it and nowhere else: not in another answer,
not in what is written to a stream or told to developers, and not in the files.
-/

namespace AgentKit

open AgentKit.Action (RunAlike Blind)

/-! ## Tables with one difference -/

namespace Environment

/-- What two tables have under a name: the same, or two texts when the name is that of the secret.
The key that the page reports on is then empty in both or in neither. -/
inductive Matches (secret name : String) : Option String → Option String → Prop where
  | same (value : Option String) : Matches secret name value value
  | differ {left right : String} (isSecret : name = secret)
      (key : name = Http.Server.keySecret → left.isEmpty = right.isEmpty) :
      Matches secret name (some left) (some right)

/-- Two tables that differ at most in the value of a secret. -/
def DifferIn (secret : String) (first second : List (String × String)) : Prop :=
  ∀ name, Matches secret name (first.lookup name) (second.lookup name)

/-- Environments that are tables and differ at most in the value of a secret. -/
inductive Kin (secret : String) : Environment → Environment → Prop where
  | tables {first second : List (String × String)} (differ : DifferIn secret first second) :
      Kin secret (.table first) (.table second)

/-- Without a name, a table has the other names as before. -/
theorem lookup_without (entries : List (String × String)) (name asked : String) :
    (entries.filter fun held => held.1 != name).lookup asked =
      if asked = name then none else entries.lookup asked := by
  induction entries with
  | nil => simp
  | cons held later inductionHypothesis =>
    by_cases gone : held.1 = name
    · rw [List.filter_cons_of_neg (by simpa using gone), inductionHypothesis, List.lookup_cons]
      by_cases asks : asked = name
      · rw [if_pos asks, if_pos asks]
      · rw [if_neg asks, if_neg asks, beq_false_of_ne (gone ▸ asks)]
    · rw [List.filter_cons_of_pos (by simpa using gone), List.lookup_cons, List.lookup_cons,
        inductionHypothesis]
      by_cases front : asked = held.1
      · have other : asked ≠ name := front ▸ gone
        rw [if_neg other, if_neg other]
      · rw [beq_false_of_ne front]

/-- A name that is put into a table has its new value, and the other names are as before. -/
theorem lookup_put (entries : List (String × String)) (name value asked : String) :
    ((name, value) :: entries.filter fun held => held.1 != name).lookup asked =
      if asked = name then some value else entries.lookup asked := by
  rw [List.lookup_cons, lookup_without]
  by_cases asks : asked = name
  · rw [if_pos asks, if_pos asks, asks, beq_self_eq_true]
  · rw [if_neg asks, if_neg asks, beq_false_of_ne asks]

variable {secret : String}

/-- The same variable set in both tables makes no difference. -/
theorem Kin.set {first second : Environment} (kin : Kin secret first second) (name : String)
    (value : Bytes) :
    ∃ left right, first.set name value = .ok left ∧ second.set name value = .ok right ∧
      Kin secret left right := by
  obtain ⟨differ⟩ := kin
  refine ⟨_, _, rfl, rfl, .tables fun asked => ?_⟩
  rw [lookup_put, lookup_put]
  by_cases asks : asked = name
  · rw [if_pos asks, if_pos asks]
    exact .same _
  · rw [if_neg asks, if_neg asks]
    exact differ asked

/-- Neither does the same variable removed from both. -/
theorem Kin.unset {first second : Environment} (kin : Kin secret first second) (name : String) :
    Kin secret (first.unset name) (second.unset name) := by
  obtain ⟨differ⟩ := kin
  refine .tables fun asked => ?_
  rw [lookup_without, lookup_without]
  by_cases asks : asked = name
  · rw [if_pos asks, if_pos asks]
    exact .same _
  · rw [if_neg asks, if_neg asks]
    exact differ asked

/-- What is found under a name matches. -/
theorem Kin.value {first second : Environment} (kin : Kin secret first second) (name : String) :
    Matches secret name (first.value? name) (second.value? name) := by
  obtain ⟨differ⟩ := kin
  exact differ name

/-- Under any other name, the same is found. -/
theorem Matches.eq {name : String} {left right : Option String}
    (found : Matches secret name left right) (other : name ≠ secret) : left = right := by
  cases found with
  | same value => rfl
  | differ isSecret key => exact absurd isSecret other

end Environment

open Environment (Kin Matches)

/-! ## Actions on twins -/

variable {ε : Type} {secret : String}

/-- The workspace asks for its own variable. -/
theorem Workspace.resolveRoot_alike {layout : Layout} (free : secret ≠ layout.overrideVariable) :
    RunAlike (ε := ε) (Kin secret) Eq (resolveRoot layout) (resolveRoot layout) := by
  have selected : RunAlike (ε := ε) (Kin secret) Eq (Action.inspect (select layout))
      (Action.inspect (select layout)) := by
    apply RunAlike.inspect
    rintro first _ ⟨related⟩
    have found := (related.value layout.overrideVariable).eq (Ne.symm free)
    simp only [select, found]
  apply selected.bindEq
  intro selection
  apply (Blind.emit _).runAlike.bindEq
  intro _
  exact .done rfl

/-- So the directories are found and made alike. -/
theorem Workspace.paths_alike {layout : Layout} (free : secret ≠ layout.overrideVariable) :
    RunAlike (ε := ε) (Kin secret) Eq (paths layout) (paths layout) :=
  (resolveRoot_alike free).bindEq fun _ => .done rfl

theorem Workspace.ensureDirectories_alike {layout : Layout}
    (free : secret ≠ layout.overrideVariable) :
    RunAlike (Kin secret) Eq (ensureDirectories layout) (ensureDirectories layout) := by
  apply (paths_alike free).bindEq
  intro found
  apply ((Blind.changeFiles _).mapError AgentError.io).runAlike.bindEq
  intro _
  apply (Blind.emit _).runAlike.bindEq
  intro _
  exact .done rfl

/-- Writing a line asks for nothing. -/
theorem Logger.write_blind (stream : Stream) (line : Bytes) : (write stream line).Blind := by
  intro host environment
  cases stream <;> rfl

/-- A record is made from the call and the clock. -/
theorem Logger.log_blind (level : Level) (message : String) (extras : Fields) :
    (log level message extras).Blind := by
  apply Blind.bind
  · exact Blind.inspect fun _ _ => rfl
  · intro record
    exact write_blind _ _

/-- A secret that matches is got. -/
theorem Secrets.get_alike (name : String) :
    RunAlike (ε := ε) (Kin secret) (Matches secret name) (get name) (get name) := by
  apply RunAlike.inspect
  rintro first _ ⟨related⟩
  exact related.value name

/-- A secret that has to be there is missing alike. -/
theorem Secrets.require_alike (name : String) :
    RunAlike (Kin secret) (fun left right => Matches secret name (some left) (some right))
      (require name) (require name) := by
  apply (get_alike name).bind
  intro left right found
  cases found with
  | same =>
    cases left with
    | none =>
      apply (Blind.emit _).runAlike.bindEq
      intro _
      exact .fail _ _
    | some text => exact .done (.same _)
  | differ isSecret key => exact .done (.differ isSecret key)

/-- A record about a request is written, or its loss is told, without a look at the environment. -/
theorem Http.Server.logRequest_blind (method : Http.Method) (target : Http.Target) :
    (logRequest method target : Action ε Unit).Blind := by
  apply Blind.bind (Logger.log_blind _ _ _).attempt
  intro result
  cases result with
  | ok value => exact Blind.done ()
  | error error => exact Blind.emit _

/-- The page tells whether the key is configured, and nothing else about it. -/
theorem Http.Server.servePage_alike {layout : Layout} (free : secret ≠ layout.overrideVariable)
    (method : Http.Method) (target : Http.Target) :
    RunAlike (ε := ε) (Kin secret) Eq (servePage layout method target)
      (servePage layout method target) := by
  apply (Secrets.get_alike keySecret).bind
  intro key other found
  apply (Workspace.resolveRoot_alike free).bindEq
  intro root
  have seen : RunAlike (ε := ε) (Kin secret) Eq (Action.inspect (currentPage root key))
      (Action.inspect (currentPage root other)) := by
    apply RunAlike.inspect
    rintro first _ ⟨_⟩
    cases found with
    | same => rfl
    | differ isSecret empty => simp [currentPage, empty rfl]
  apply seen.bindEq
  intro page
  apply (logRequest_blind method target).runAlike.bindEq
  intro _
  exact .done rfl

/-- Requests are answered alike. -/
theorem Http.Server.answer_alike {layout : Layout} (free : secret ≠ layout.overrideVariable)
    (method : Http.Method) (target : Http.Target) :
    RunAlike (ε := ε) (Kin secret) Eq (answer layout method target)
      (answer layout method target) := by
  unfold answer
  split
  · exact .done rfl
  split
  · exact .done rfl
  · exact (servePage_alike free method target).bindEq fun _ => .done rfl

/-- The task asks for its own greeting. -/
theorem Task.run_alike {layout : Layout} (free : secret ≠ layout.overrideVariable) {name : String}
    (other : name ≠ secret) (clock : Clock) :
    RunAlike (Kin secret) Eq (run layout name clock) (run layout name clock) := by
  have reported (message : String) (extras : Fields) :
      RunAlike (Kin secret) Eq (report message extras) (report message extras) :=
    ((Logger.log_blind .info message extras).mapError TaskError.record).runAlike
  apply (reported _ _).bindEq
  intro _
  apply (Secrets.get_alike name).bind
  intro greeting _ found
  obtain rfl := found.eq other
  apply (reported _ _).bindEq
  intro _
  apply ((Workspace.ensureDirectories_alike free).mapError TaskError.directories).bindEq
  intro paths
  apply (Blind.emit _).runAlike.bindEq
  intro _
  apply ((Blind.changeFiles _).mapError _).runAlike.bindEq
  intro _
  apply (reported _ _).bindEq
  intro _
  apply (reported _ _).bindEq
  intro _
  exact .done rfl

namespace Session

/-! ## Steps and sessions -/

/-- Two answers of the same step: the same, or two values of the secret that it asks for. -/
inductive Alike (secret : String) : Step → Answer → Answer → Prop where
  | same (step : Step) (answer : Answer) : Alike secret step answer answer
  | got (left right : String) :
      Alike secret (.getSecret secret) (.secret (some left)) (.secret (some right))
  | required (left right : String) :
      Alike secret (.requireSecret secret) (.required left) (.required right)

/-- A step whose action runs alike with equal values answers the same. -/
theorem answerWith_alike {δ α : Type} (failure : δ → Failure) (answer : α → Answer)
    {action : Action δ α} (alike : RunAlike (Kin secret) Eq action action) :
    RunAlike (Kin secret) Eq (answerWith failure answer action)
      (answerWith failure answer action) :=
  (alike.mapError failure).bindEq fun _ => .done rfl

/-- Logging quietly asks for nothing. -/
theorem logQuietly_blind (level : Level) (message : String) (extras : Fields) :
    (logQuietly level message extras).Blind := by
  apply Blind.bind (Logger.log_blind level message extras).attempt
  intro _
  exact Blind.done ()

/-- Neither does a worker. -/
theorem runWorker_blind (count : Nat) (level : Level) (message : String) (worker : Nat) :
    (runWorker count level message worker).Blind := by
  unfold runWorker
  generalize List.range count = indices
  induction indices with
  | nil => exact Blind.done ()
  | cons index later inductionHypothesis =>
    apply Blind.bind (logQuietly_blind _ _ _)
    intro _
    exact inductionHypothesis

/-- Nor do workers together. -/
theorem together_blind {workers : List (Action Empty Unit)}
    (each : ∀ worker ∈ workers, worker.Blind) : (together workers).Blind := by
  induction workers with
  | nil => exact Blind.done ()
  | cons worker others inductionHypothesis =>
    intro host environment
    have first := each worker List.mem_cons_self host environment
    have rest := inductionHypothesis fun other member => each other (List.mem_cons_of_mem _ member)
    have later := rest (worker.run host).2 environment
    simp only [Action.run] at first later ⊢
    simp only [together, first, later]
    rcases (worker host).1 with value | error | text
    · rfl
    · exact error.elim
    · rfl

/-- What workers add to the streams is seen alike. -/
theorem runWorkers_alike (workers count : Nat) (level : Level) (message : String) :
    RunAlike (Kin secret) Eq (runWorkers workers count level message)
      (runWorkers workers count level message) := by
  have whole : RunAlike (ε := Failure) (Kin secret) (Host.Twins (Kin secret))
      (Action.inspect id) (Action.inspect id) := RunAlike.inspect fun _ _ twins => twins
  apply whole.bind
  rintro before _ ⟨_⟩
  have blind : (together ((List.range workers).map (runWorker count level message))).Blind := by
    apply together_blind
    intro worker member
    obtain ⟨number, _, rfl⟩ := List.mem_map.mp member
    exact runWorker_blind count level message number
  apply (blind.mapError Empty.elim).runAlike.bindEq
  intro _
  apply RunAlike.inspect
  rintro after _ ⟨_⟩
  rfl

/-- Every step runs alike, unless it is the task with the secret as its greeting. -/
theorem Step.run_alike {layout : Layout} (free : secret ≠ layout.overrideVariable) (step : Step)
    (unread : ∀ timestamp, step ≠ .task secret timestamp) :
    RunAlike (Kin secret) (Alike secret step) (step.run layout) (step.run layout) := by
  have equal {action : Action Failure Answer} (alike : RunAlike (Kin secret) Eq action action) :
      RunAlike (Kin secret) (Alike secret step) action action :=
    alike.mono fun answer _ same => same ▸ .same step answer
  have seen {view : Host → Answer} (same : ∀ (host : Host) environment,
      view { host with environment } = view host) :
      RunAlike (Kin secret) (Alike secret step) (look view) (look view) :=
    equal (Blind.inspect same).runAlike
  cases step with
  | resolveRoot => exact equal ((Workspace.resolveRoot_alike free).bindEq fun _ => .done rfl)
  | dataPath =>
    exact equal (((Workspace.paths_alike free).bindEq fun _ => .done rfl).bindEq
      fun _ => .done rfl)
  | outputPath =>
    exact equal (((Workspace.paths_alike free).bindEq fun _ => .done rfl).bindEq
      fun _ => .done rfl)
  | cachePath =>
    exact equal (((Workspace.paths_alike free).bindEq fun _ => .done rfl).bindEq
      fun _ => .done rfl)
  | paths => exact equal ((Workspace.paths_alike free).bindEq fun _ => .done rfl)
  | ensureDirectories =>
    exact equal (answerWith_alike _ _ (Workspace.ensureDirectories_alike free))
  | getSecret name =>
    apply (Secrets.get_alike name).bind
    intro left right found
    cases found with
    | same => exact .done (.same _ _)
    | differ isSecret key =>
      subst isSecret
      exact .done (.got _ _)
  | requireSecret name =>
    apply ((Secrets.require_alike name).mapError Failure.agent).bind
    intro left right found
    cases found with
    | same => exact .done (.same _ _)
    | differ isSecret key =>
      subst isSecret
      exact .done (.required _ _)
  | setVariable name value =>
    have change := RunAlike.changeEnvironment (ε := Failure)
      fun first second (related : Kin secret first second) => related.set name value
    exact equal (change.bindEq fun _ => .done rfl)
  | unsetVariable name =>
    have change := RunAlike.changeEnvironment (ε := Failure)
      fun first second (related : Kin secret first second) =>
        ⟨_, _, rfl, rfl, related.unset name⟩
    exact equal (change.bindEq fun _ => .done rfl)
  | makeDirectories path => exact equal (answerWith_alike _ _ (Blind.changeFiles _).runAlike)
  | writeFile path contents => exact equal (answerWith_alike _ _ (Blind.changeFiles _).runAlike)
  | makeLink path target => exact equal (answerWith_alike _ _ (Blind.changeFiles _).runAlike)
  | remove path => exact equal (answerWith_alike _ _ (Blind.changeFiles _).runAlike)
  | list path => exact seen fun _ _ => rfl
  | tree => exact seen fun _ _ => rfl
  | log level message extras =>
    exact equal (answerWith_alike _ _ (Logger.log_blind level message extras).runAlike)
  | lines stream => exact seen fun _ _ => by cases stream <;> rfl
  | recordKeys stream => exact seen fun _ _ => by cases stream <;> rfl
  | concurrent workers count level message =>
    exact equal (runWorkers_alike workers count level message)
  | task name timestamp =>
    have other : name ≠ secret := by
      rintro rfl
      exact unread timestamp rfl
    exact equal (answerWith_alike _ _ (Task.run_alike free other _))
  | request method target =>
    apply equal
    change RunAlike (Kin secret) Eq (runRequest layout method target)
      (runRequest layout method target)
    unfold runRequest
    split
    · exact .fail Eq _
    split
    · exact .fail Eq _
    · exact (Http.Server.answer_alike free _ _).bindEq fun _ => .done rfl

/-- Two reports of the same step that differ in nothing but two values of the secret that the step
asks for. -/
structure ReportsAlike (secret : String) (step : Step) (first second : Report) : Prop where
  outcomes : Outcome.Agree (Alike secret step) first.outcome second.outcome
  rest : second = { first with outcome := second.outcome }

/-- The reports of two sessions, step by step. -/
inductive SessionsAlike (secret : String) : List Step → List Report → List Report → Prop where
  | ended : SessionsAlike secret [] [] []
  | step {step : Step} {later : List Step} {first second : Report} {rest others : List Report}
      (alike : ReportsAlike secret step first second)
      (behind : SessionsAlike secret later rest others) :
      SessionsAlike secret (step :: later) (first :: rest) (second :: others)

/-- Answers that differ in a secret only show the same of the streams. -/
theorem showsStreams_agree {step : Step} {first second : Outcome Failure Answer}
    (agree : Outcome.Agree (Alike secret step) first second) :
    showsStreams first = showsStreams second := by
  rcases agree with ⟨_ | _ | _⟩ | _ | _ <;> rfl

/-- A step is reported alike on twins and leaves twins. -/
theorem Step.report_alike {layout : Layout} (free : secret ≠ layout.overrideVariable) (step : Step)
    (unread : ∀ timestamp, step ≠ .task secret timestamp) {first second : Host}
    (twins : first.Twins (Kin secret) second) :
    ReportsAlike secret step (step.report layout first).1 (step.report layout second).1 ∧
      (step.report layout first).2.Twins (Kin secret) (step.report layout second).2 := by
  cases twins with
  | @differing environment related =>
    have start : Host.Twins (Kin secret) { first with diagnostics := .kept [] }
        { first with diagnostics := .kept [], environment } := .differing related
    obtain ⟨agree, after⟩ := step.run_alike free unread _ _ start
    unfold report
    dsimp only [Action.run] at agree after ⊢
    generalize step.run layout { first with diagnostics := .kept [] } = one at agree after ⊢
    generalize step.run layout { first with diagnostics := .kept [], environment } = other
      at agree after ⊢
    obtain ⟨outcome, left⟩ := one
    obtain ⟨ending, right⟩ := other
    cases after with
    | differing still =>
      refine ⟨⟨agree, ?_⟩, .differing still⟩
      rw [showsStreams_agree agree]
      rfl

/-- Sessions on twins are reported alike and leave twins. -/
theorem run_alike {layout : Layout} (free : secret ≠ layout.overrideVariable) (steps : List Step)
    (unread : ∀ timestamp, .task secret timestamp ∉ steps) {first second : Host}
    (twins : first.Twins (Kin secret) second) :
    SessionsAlike secret steps (run layout steps first).1 (run layout steps second).1 ∧
      (run layout steps first).2.Twins (Kin secret) (run layout steps second).2 := by
  induction steps generalizing first second with
  | nil => exact ⟨.ended, twins⟩
  | cons step later inductionHypothesis =>
    have here : ∀ timestamp, step ≠ .task secret timestamp := by
      rintro timestamp rfl
      exact unread timestamp List.mem_cons_self
    have behind : ∀ timestamp, .task secret timestamp ∉ later :=
      fun timestamp member => unread timestamp (List.mem_cons_of_mem _ member)
    obtain ⟨alike, after⟩ := step.report_alike free here twins
    obtain ⟨rest, final⟩ := inductionHypothesis behind after
    exact ⟨.step alike rest, final⟩

/-- The value of a secret shows in the answers of the steps that ask for it and nowhere else. Two
sessions take the same steps on one host, but for the value that a table has for a secret. The
workspace does not ask for it, no task takes it as its greeting, and it is not empty in one of them
if the page reports on it. Then the reports are the same step by step, up to the two values in the
answers of steps that get or require the secret, and after any number of steps the hosts differ in
their environments only: in no file, no stream and no diagnostics. -/
theorem secret_hidden (layout : Layout) (host : Host) (secret : String)
    (left right : List (String × String)) (steps : List Step)
    (others : ∀ name, name ≠ secret → left.lookup name = right.lookup name)
    (setLeft : left.lookup secret ≠ none) (setRight : right.lookup secret ≠ none)
    (free : secret ≠ layout.overrideVariable)
    (unread : ∀ timestamp, .task secret timestamp ∉ steps)
    (configured : secret = Http.Server.keySecret →
      left.lookup secret ≠ some "" ∧ right.lookup secret ≠ some "") :
    let first := { host with environment := .table left }
    let second := { host with environment := .table right }
    SessionsAlike secret steps (run layout steps first).1 (run layout steps second).1 ∧
      ∀ count, (run layout (steps.take count) second).2 =
        { (run layout (steps.take count) first).2 with
          environment := (run layout (steps.take count) second).2.environment } := by
  intro first second
  have twins : first.Twins (Kin secret) second := by
    refine .differing (.tables fun name => ?_)
    by_cases isSecret : name = secret
    · rw [isSecret]
      obtain ⟨one, found⟩ := Option.ne_none_iff_exists'.mp setLeft
      obtain ⟨other, held⟩ := Option.ne_none_iff_exists'.mp setRight
      rw [found, held] at configured ⊢
      refine .differ rfl fun key => ?_
      obtain ⟨oneFilled, otherFilled⟩ := configured key
      simp only [ne_eq, Option.some.injEq] at oneFilled otherFilled
      rw [Bool.eq_iff_iff, String.isEmpty_iff, String.isEmpty_iff]
      exact iff_of_false oneFilled otherFilled
    · rw [others name isSecret]
      exact .same _
  refine ⟨(run_alike free steps unread twins).1, fun count => ?_⟩
  have part : ∀ timestamp, .task secret timestamp ∉ steps.take count :=
    fun timestamp member => unread timestamp (List.mem_of_mem_take member)
  have after := (run_alike free (steps.take count) part twins).2
  generalize (run layout (steps.take count) first).2 = one at after
  generalize (run layout (steps.take count) second).2 = other at after
  cases after
  rfl

/-- A host on which the key has a given value. -/
def keyed (value : String) : Host :=
  { Workspace.bareHost with environment := .table [(Http.Server.keySecret, value)] }

/-- Two keys are told apart by the step that gets the key. A page and a record behind it are the
same. -/
theorem secret_hidden_key :
    let steps : List Step :=
      [.getSecret Http.Server.keySecret, .request "GET" "/", .log .warn "done" []]
    (((Step.getSecret Http.Server.keySecret).report .standard (keyed "one")).1.outcome =
        .done (.secret (some "one")) ∧
      ((Step.getSecret Http.Server.keySecret).report .standard (keyed "two")).1.outcome =
        .done (.secret (some "two"))) ∧
      SessionsAlike Http.Server.keySecret steps (run .standard steps (keyed "one")).1
        (run .standard steps (keyed "two")).1 ∧
      ∀ count, (run .standard (steps.take count) (keyed "two")).2 =
        { (run .standard (steps.take count) (keyed "one")).2 with
          environment := (run .standard (steps.take count) (keyed "two")).2.environment } := by
  intro steps
  refine ⟨⟨rfl, rfl⟩, ?_⟩
  apply secret_hidden .standard Workspace.bareHost Http.Server.keySecret
    [(Http.Server.keySecret, "one")] [(Http.Server.keySecret, "two")] steps
  · intro name other
    rw [List.lookup_cons, List.lookup_cons, beq_false_of_ne other]
  · decide
  · decide
  · decide
  · simp [steps]
  · decide

end Session

end AgentKit
