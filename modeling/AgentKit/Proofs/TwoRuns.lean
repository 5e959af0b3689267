import AgentKit.Proofs.ActionSequence

/-!
# Two runs side by side

Two hosts are twins when they have all in common but their environments, and the environments are
related in a way that is left open. Two actions run alike when they lead twins to twins and end in
outcomes that agree, where it is left open, too, which values agree. The relation is closed under
everything that actions are made of, so two runs of a whole program are compared part by part. The
parts that look at the environment are the only ones where the relation of environments matters: an
action that is blind to the environment runs alike with itself.
-/

namespace AgentKit

/-- Two hosts with related environments that have all else in common. -/
inductive Host.Twins (kin : Environment → Environment → Prop) (first : Host) : Host → Prop where
  | differing {environment : Environment} (related : kin first.environment environment) :
      Twins kin first { first with environment }

/-- Two outcomes of the same kind: values that agree, or the same failure, or the same panic. -/
inductive Outcome.Agree {ε α β : Type} (same : α → β → Prop) :
    Outcome ε α → Outcome ε β → Prop where
  | done {left : α} {right : β} (agree : same left right) : Agree same (.done left) (.done right)
  | failed (error : ε) : Agree same (.failed error) (.failed error)
  | panicked (text : String) : Agree same (.panicked text) (.panicked text)

/-- Outcomes with equal values are equal. -/
theorem Outcome.agree_eq {ε α : Type} {left right : Outcome ε α} :
    Outcome.Agree Eq left right ↔ left = right := by
  constructor
  · rintro (⟨⟨⟩⟩ | _ | _) <;> rfl
  · rintro rfl
    cases left with
    | done value => exact .done rfl
    | failed error => exact .failed error
    | panicked text => exact .panicked text

namespace Action

variable {ε δ α β γ ζ : Type} {kin : Environment → Environment → Prop}

/-- Two actions that lead twins to twins, with outcomes that agree. -/
def RunAlike (kin : Environment → Environment → Prop) (same : α → β → Prop) (left : Action ε α)
    (right : Action ε β) : Prop :=
  ∀ first second : Host, first.Twins kin second →
    Outcome.Agree same (left.run first).1 (right.run second).1 ∧
      (left.run first).2.Twins kin (right.run second).2

namespace RunAlike

/-- Values that agree are given alike. -/
theorem done {same : α → β → Prop} {left : α} {right : β} (agree : same left right) :
    RunAlike (ε := ε) kin same (Action.done left) (Action.done right) :=
  fun _ _ twins => ⟨.done agree, twins⟩

/-- The same failure is met alike. -/
theorem fail (same : α → β → Prop) (error : ε) :
    RunAlike kin same (Action.fail error) (Action.fail error) :=
  fun _ _ twins => ⟨.failed error, twins⟩

/-- Actions that run alike are followed by actions that run alike. -/
theorem bind {same : α → β → Prop} {also : γ → ζ → Prop} {left : Action ε α} {right : Action ε β}
    {next : α → Action ε γ} {other : β → Action ε ζ} (front : RunAlike kin same left right)
    (back : ∀ value answer, same value answer → RunAlike kin also (next value) (other answer)) :
    RunAlike kin also (left >>= next) (right >>= other) := by
  intro first second twins
  obtain ⟨agree, after⟩ := front first second twins
  change Outcome.Agree also ((left.andThen next).run first).1 ((right.andThen other).run second).1 ∧
    ((left.andThen next).run first).2.Twins kin ((right.andThen other).run second).2
  rcases taken : left.run first with ⟨outcome, between⟩
  rcases walked : right.run second with ⟨ending, middle⟩
  rw [taken, walked] at agree after
  cases agree with
  | done agree =>
    rw [andThen_done next taken, andThen_done other walked]
    exact back _ _ agree between middle after
  | failed error =>
    rw [andThen_failed next taken, andThen_failed other walked]
    exact ⟨.failed error, after⟩
  | panicked text =>
    rw [andThen_panicked next taken, andThen_panicked other walked]
    exact ⟨.panicked text, after⟩

/-- After equal values, what follows has to run alike for each value. -/
theorem bindEq {also : β → γ → Prop} {left right : Action ε α} {next : α → Action ε β}
    {other : α → Action ε γ} (front : RunAlike kin Eq left right)
    (back : ∀ value, RunAlike kin also (next value) (other value)) :
    RunAlike kin also (left >>= next) (right >>= other) := by
  apply front.bind
  rintro value _ rfl
  exact back value

/-- A change of errors keeps actions alike. -/
theorem mapError {same : α → β → Prop} {left : Action ε α} {right : Action ε β} (change : ε → δ)
    (alike : RunAlike kin same left right) :
    RunAlike kin same (left.mapError change) (right.mapError change) := by
  intro first second twins
  obtain ⟨agree, after⟩ := alike first second twins
  rcases taken : left.run first with ⟨outcome, between⟩
  rcases walked : right.run second with ⟨ending, middle⟩
  rw [taken, walked] at agree after
  rw [run_mapError change taken, run_mapError change walked]
  refine ⟨?_, after⟩
  cases agree with
  | done agree => exact .done agree
  | failed error => exact .failed (change error)
  | panicked text => exact .panicked text

/-- Looks that agree on twins are taken alike. -/
theorem inspect {same : α → β → Prop} {view : Host → α} {other : Host → β}
    (agree : ∀ first second, Host.Twins kin first second → same (view first) (other second)) :
    RunAlike (ε := ε) kin same (Action.inspect view) (Action.inspect other) :=
  fun first second twins => ⟨.done (agree first second twins), twins⟩

/-- A change that is never refused and keeps environments related is made alike. -/
theorem changeEnvironment {change : Environment → Except String Environment}
    (keeps : ∀ first second, kin first second →
      ∃ left right, change first = .ok left ∧ change second = .ok right ∧ kin left right) :
    RunAlike (ε := ε) kin Eq (Action.changeEnvironment change)
      (Action.changeEnvironment change) := by
  rintro first _ ⟨related⟩
  obtain ⟨left, right, changed, altered, still⟩ := keeps _ _ related
  simp only [run, Action.changeEnvironment, changed, altered]
  exact ⟨.done rfl, .differing still⟩

/-- Values that agree in one way may agree in a weaker one as well. -/
theorem mono {same also : α → β → Prop} {left : Action ε α} {right : Action ε β}
    (alike : RunAlike kin same left right)
    (weaker : ∀ value answer, same value answer → also value answer) :
    RunAlike kin also left right := by
  intro first second twins
  obtain ⟨agree, after⟩ := alike first second twins
  refine ⟨?_, after⟩
  generalize (left.run first).1 = outcome at agree ⊢
  generalize (right.run second).1 = ending at agree ⊢
  cases agree with
  | done agree => exact .done (weaker _ _ agree)
  | failed error => exact .failed error
  | panicked text => exact .panicked text

end RunAlike

/-! ## Actions that are blind to the environment -/

/-- The environment of the host changes nothing about an action, and the action nothing about the
environment. -/
def Blind (action : Action ε α) : Prop :=
  ∀ (host : Host) (environment : Environment), action.run { host with environment } =
    ((action.run host).1, { (action.run host).2 with environment })

namespace Blind

/-- A blind action leaves the environment. -/
theorem environment {action : Action ε α} (blind : action.Blind) (host : Host) :
    (action.run host).2.environment = host.environment :=
  congrArg (·.2.environment) (blind host host.environment)

/-- A blind action runs alike with itself. -/
theorem runAlike {action : Action ε α} (blind : action.Blind) :
    RunAlike kin Eq action action := by
  intro first second twins
  cases twins with
  | @differing environment related =>
    rw [← blind.environment first] at related
    rw [blind first environment]
    exact ⟨Outcome.agree_eq.mpr rfl, .differing related⟩

theorem done (value : α) : (Action.done value : Action ε α).Blind := fun _ _ => rfl

/-- Blind actions one after the other are blind together. -/
theorem bind {first : Action ε α} {next : α → Action ε β} (front : first.Blind)
    (back : ∀ value, (next value).Blind) : (first >>= next).Blind := by
  intro host environment
  change (first.andThen next).run _ =
    (((first.andThen next).run host).1, { ((first.andThen next).run host).2 with environment })
  have taken := front host environment
  rcases ended : first.run host with ⟨outcome, between⟩
  rw [ended] at taken
  cases outcome with
  | done value =>
    rw [andThen_done next taken, andThen_done next ended]
    exact back value between environment
  | failed error => rw [andThen_failed next taken, andThen_failed next ended]
  | panicked text => rw [andThen_panicked next taken, andThen_panicked next ended]

theorem mapError {action : Action ε α} (change : ε → δ) (blind : action.Blind) :
    (action.mapError change).Blind := fun host environment =>
  run_mapError change (blind host environment)

theorem attempt {action : Action ε α} (blind : action.Blind) :
    (action.attempt : Action δ (Except ε α)).Blind := by
  intro host environment
  have taken := blind host environment
  simp only [run] at taken ⊢
  unfold Action.attempt
  rw [taken]
  rcases action host with ⟨_ | _ | _, after⟩ <;> rfl

/-- A look that the environment does not change. -/
theorem inspect {view : Host → α}
    (same : ∀ (host : Host) environment, view { host with environment } = view host) :
    (Action.inspect view : Action ε α).Blind := fun host environment =>
  congrArg (fun value => (Outcome.done value, { host with environment })) (same host environment)

theorem changeFiles (change : Files → Except IoError Unit × Files) :
    (Action.changeFiles change).Blind := fun _ _ => rfl

/-- Developers are told the same in every environment. -/
theorem emit (event : Event) : (Action.emit event : Action ε Unit).Blind := by
  intro host environment
  have told : ({ host with environment } : Host).emit event =
      { host.emit event with environment } := by
    obtain ⟨_, files, out, err, clock, diagnostics⟩ := host
    cases diagnostics with
    | kept events => rfl
    | shown filter looks =>
      unfold Host.emit
      dsimp only
      split <;> rfl
  exact congrArg (Prod.mk (Outcome.done ())) told

end Blind

end Action

end AgentKit
