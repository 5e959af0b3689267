import AgentKit.Host.Action
/-!
# What changes on a host

Most actions change one part of a host. A record changes what its stream holds, and an event is told
to developers: it is kept, or it is a line on the error stream, and that depends on nothing but the
clock, the diagnostics and the error stream itself. So what developers are told can be counted apart
from what happens to the output stream and the files.
-/

namespace AgentKit.Host

/-- Telling developers about an event is the same whatever the output stream and the files hold. -/
theorem emit_with (host : Host) (out : Sink) (files : Files) (event : Event) :
    ({ host with out, files } : Host).emit event = { host.emit event with out, files } := by
  obtain ⟨environment, _, _, err, clock, diagnostics⟩ := host
  cases diagnostics with
  | kept events => rfl
  | shown filter looks =>
    unfold emit
    dsimp only
    split <;> rfl

theorem foldl_emit_with (events : List Event) (host : Host) (out : Sink) (files : Files) :
    events.foldl emit { host with out, files } =
      { events.foldl emit host with out, files } := by
  induction events generalizing host with
  | nil => rfl
  | cons event later inductionHypothesis =>
    rw [List.foldl_cons, emit_with, inductionHypothesis, List.foldl_cons]

/-- Telling developers about an event changes the error stream and the diagnostics at most. -/
theorem emit_only (host : Host) (event : Event) : host.emit event =
    { host with err := (host.emit event).err, diagnostics := (host.emit event).diagnostics } := by
  unfold emit writeLine withSink
  split
  · rfl
  · split <;> rfl

/-- It leaves the files. -/
@[simp] theorem emit_files (host : Host) (event : Event) :
    (host.emit event).files = host.files := by
  rw [emit_only]

/-- It leaves the environment. -/
@[simp] theorem emit_environment (host : Host) (event : Event) :
    (host.emit event).environment = host.environment := by
  rw [emit_only]

/-- It leaves the output stream. -/
@[simp] theorem emit_out (host : Host) (event : Event) : (host.emit event).out = host.out := by
  rw [emit_only]

/-- It leaves the clock. -/
@[simp] theorem emit_clock (host : Host) (event : Event) :
    (host.emit event).clock = host.clock := by
  rw [emit_only]

/-- However many events there are, files and environment are left. -/
theorem foldl_emit_keeps (events : List Event) (host : Host) :
    (events.foldl emit host).files = host.files ∧
      (events.foldl emit host).environment = host.environment := by
  induction events generalizing host with
  | nil => exact ⟨rfl, rfl⟩
  | cons event later inductionHypothesis =>
    obtain ⟨files, environment⟩ := inductionHypothesis (host.emit event)
    exact ⟨files.trans (emit_files host event), environment.trans (emit_environment host event)⟩

/-- Only what the output stream holds has changed. -/
def OnlyOut (before after : Host) : Prop := after = { before with out := after.out }

namespace OnlyOut

variable {first second third : Host}

theorem environment (only : first.OnlyOut second) : second.environment = first.environment := by
  rw [only]

theorem files (only : first.OnlyOut second) : second.files = first.files := by
  rw [only]

theorem trans (front : first.OnlyOut second) (back : second.OnlyOut third) :
    first.OnlyOut third := by
  rw [OnlyOut, front] at back
  exact back

end OnlyOut

/-- Developers were told about events, and apart from that only what the output stream and the files
hold has changed. -/
def Tells (before : Host) (events : List Event) (after : Host) : Prop :=
  after = { events.foldl emit before with out := after.out, files := after.files }

namespace Tells

variable {first second third : Host} {front back : List Event}

theorem nothing (host : Host) : host.Tells [] host := rfl

theorem files (tells : first.Tells front second) (files : Files) :
    first.Tells front { second with files } := by
  rw [Tells, tells]

theorem trans (begins : first.Tells front second) (goes : second.Tells back third) :
    first.Tells (front ++ back) third := by
  rw [Tells, begins, foldl_emit_with] at goes
  rw [Tells, List.foldl_append]
  exact goes

theorem emit (tells : first.Tells front second) (event : Event) :
    first.Tells (front ++ [event]) (second.emit event) :=
  tells.trans rfl

/-- Diagnostics that are kept write no lines. -/
theorem quiet (tells : first.Tells front second) {kept : List Event}
    (keeps : first.diagnostics = .kept kept) : second.err = first.err := by
  have quiet : (front.foldl Host.emit first).err = first.err := by
    clear tells
    induction front generalizing first kept with
    | nil => rfl
    | cons event later inductionHypothesis =>
      have emitted : first.emit event = { first with diagnostics := .kept (kept ++ [event]) } := by
        rw [Host.emit, keeps]
      rw [List.foldl_cons, emitted]
      exact inductionHypothesis rfl
  rw [tells]
  exact quiet

end Tells

end AgentKit.Host
