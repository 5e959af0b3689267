import AgentKit.Host.Action
/-!
# Steps one after the other

Steps that give no value are taken in order until one is not done. What such a run does is told by
the steps that were done, in order, and the one that was not: the run ends as that step ends, and
none behind it was tried. Whatever each step keeps, the run keeps, however it ends.
-/

namespace AgentKit.Action

variable {ε α : Type}

/-- Take steps in order, up to the first that is not done. -/
def inOrder : List (Action ε Unit) → Action ε Unit
  | [] => done ()
  | step :: later => step.andThen fun _ => inOrder later

/-- All of some steps are done, each on the host that the one in front of it left. -/
inductive Completes : List (Action ε Unit) → Host → Host → Prop where
  | nothing (host : Host) : Completes [] host host
  | next {step : Action ε Unit} {later : List (Action ε Unit)} {host between after : Host}
      (taken : step.run host = (.done (), between)) (rest : Completes later between after) :
      Completes (step :: later) host after

/-- Some first steps are done and the next one is not: it gives the outcome, and none behind it is
taken. -/
inductive StopsAt (steps : List (Action ε Unit)) (host : Host) : Outcome ε α × Host → Prop where
  | failed {earlier later : List (Action ε Unit)} {step : Action ε Unit} {between after : Host}
      {error : ε} (order : steps = earlier ++ step :: later)
      (completes : Completes earlier host between)
      (taken : step.run between = (.failed error, after)) :
      StopsAt steps host (.failed error, after)
  | panicked {earlier later : List (Action ε Unit)} {step : Action ε Unit} {between after : Host}
      {text : String} (order : steps = earlier ++ step :: later)
      (completes : Completes earlier host between)
      (taken : step.run between = (.panicked text, after)) :
      StopsAt steps host (.panicked text, after)

/-- An action that is done is followed by the next one. -/
theorem andThen_done {β : Type} {first : Action ε α} {host between : Host} {value : α}
    (next : α → Action ε β) (taken : first.run host = (.done value, between)) :
    (first.andThen next).run host = (next value).run between := by
  change first host = _ at taken
  rw [run, andThen, taken]
  rfl

/-- An action that fails is followed by nothing. -/
theorem andThen_failed {β : Type} {first : Action ε α} {host after : Host} {error : ε}
    (next : α → Action ε β) (taken : first.run host = (.failed error, after)) :
    (first.andThen next).run host = (.failed error, after) := by
  change first host = _ at taken
  rw [run, andThen, taken]

/-- Neither is one that panics. -/
theorem andThen_panicked {β : Type} {first : Action ε α} {host after : Host} {text : String}
    (next : α → Action ε β) (taken : first.run host = (.panicked text, after)) :
    (first.andThen next).run host = (.panicked text, after) := by
  change first host = _ at taken
  rw [run, andThen, taken]

/-- An action with other errors ends as it does, with its error changed. -/
theorem run_mapError {δ : Type} (change : ε → δ) {action : Action ε α} {host after : Host}
    {outcome : Outcome ε α} (taken : action.run host = (outcome, after)) :
    (action.mapError change).run host = (outcome.mapError change, after) :=
  congrArg (fun ended => (ended.1.mapError change, ended.2)) taken

/-- Errors of another type change nothing about an action that is done. -/
theorem mapError_done {δ : Type} {change : ε → δ} {action : Action ε α} {host after : Host}
    {value : α} (taken : (action.mapError change).run host = (.done value, after)) :
    action.run host = (.done value, after) := by
  cases ended : action.run host with
  | mk outcome left =>
    rw [run_mapError change ended] at taken
    cases outcome with
    | done answer =>
      cases taken
      rfl
    | failed error => cases taken
    | panicked text => cases taken

/-- An attempt that is done has the answer as its value. -/
theorem attempt_done {δ : Type} {action : Action ε α} {host after : Host} {value : α}
    (taken : action.run host = (.done value, after)) :
    (action.attempt : Action δ (Except ε α)).run host = (.done (.ok value), after) := by
  change action host = _ at taken
  rw [run, attempt, taken]

/-- One that fails is done with the failure as its value. -/
theorem attempt_failed {δ : Type} {action : Action ε α} {host after : Host} {error : ε}
    (taken : action.run host = (.failed error, after)) :
    (action.attempt : Action δ (Except ε α)).run host = (.done (.error error), after) := by
  change action host = _ at taken
  rw [run, attempt, taken]

/-- What comes behind an action matters only where the action leads. -/
theorem andThen_congr {β : Type} {first : Action ε α} {next other : α → Action ε β} {host : Host}
    (same : ∀ value between, first.run host = (.done value, between) →
      (next value).run between = (other value).run between) :
    (first.andThen next).run host = (first.andThen other).run host := by
  cases taken : first.run host with
  | mk outcome between =>
    cases outcome with
    | done value => rw [andThen_done _ taken, andThen_done _ taken, same value between taken]
    | failed error => rw [andThen_failed _ taken, andThen_failed _ taken]
    | panicked text => rw [andThen_panicked _ taken, andThen_panicked _ taken]

/-- Three actions, whichever two are taken together. -/
theorem andThen_assoc {β γ : Type} (first : Action ε α) (second : α → Action ε β)
    (third : β → Action ε γ) :
    (first.andThen second).andThen third =
      first.andThen fun value => (second value).andThen third := by
  funext host
  simp only [andThen]
  rcases first host with ⟨_ | _ | _, after⟩ <;> rfl

/-- Some steps and then others. -/
theorem inOrder_append (front back : List (Action ε Unit)) :
    inOrder (front ++ back) = (inOrder front).andThen fun _ => inOrder back := by
  induction front with
  | nil => rfl
  | cons step later inductionHypothesis =>
    rw [List.cons_append, inOrder, inductionHypothesis, ← andThen_assoc, inOrder]

/-- A step in front that is done moves the stop behind it. -/
theorem StopsAt.behind {step : Action ε Unit} {later : List (Action ε Unit)} {host between : Host}
    {ended : Outcome ε α × Host} (taken : step.run host = (.done (), between))
    (stops : StopsAt later between ended) : StopsAt (step :: later) host ended := by
  cases stops with
  | failed order completes last =>
    exact .failed (congrArg (step :: ·) order) (.next taken completes) last
  | panicked order completes last =>
    exact .panicked (congrArg (step :: ·) order) (.next taken completes) last

/-- A relation that each step keeps and that adds up is kept by the run. -/
theorem inOrder_keeps {keeps : Host → Host → Prop} (itself : ∀ host, keeps host host)
    (adds : ∀ first second third, keeps first second → keeps second third → keeps first third)
    {steps : List (Action ε Unit)} (each : ∀ step ∈ steps, ∀ host, keeps host (step.run host).2)
    (host : Host) : keeps host ((inOrder steps).run host).2 := by
  induction steps generalizing host with
  | nil => exact itself host
  | cons step later inductionHypothesis =>
    have first := each step List.mem_cons_self host
    have rest := inductionHypothesis fun other member => each other (List.mem_cons_of_mem _ member)
    cases taken : step.run host with
    | mk outcome between =>
      rw [taken] at first
      cases outcome with
      | done value =>
        rw [inOrder, andThen_done _ taken]
        exact adds _ _ _ first (rest between)
      | failed error =>
        rw [inOrder, andThen_failed _ taken]
        exact first
      | panicked text =>
        rw [inOrder, andThen_panicked _ taken]
        exact first

/-- Steps and then others that are done are all done. -/
theorem Completes.append {front back : List (Action ε Unit)} {host between after : Host}
    (first : Completes front host between) (rest : Completes back between after) :
    Completes (front ++ back) host after := by
  induction first with
  | nothing host => exact rest
  | next taken later inductionHypothesis => exact .next taken (inductionHypothesis rest)

end AgentKit.Action
