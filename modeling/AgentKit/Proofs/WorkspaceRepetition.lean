import AgentKit.Proofs.WorkspaceCreation
/-!
# Asking for a workspace again

The root is selected anew on every call, and making the directories of one root may turn a path that
led nowhere into a directory. If that path is the mount of the layout, the next call selects the
mount, and works on another root. This is the only way in which a call that was done is not repeated
by the next one: an override stays, a mount that was a directory stays one, and making directories
that are there does nothing.
-/

namespace AgentKit

namespace Workspace

/-- The calls on a host repeat what an earlier one found: they resolve its root and its directories,
and making the directories is done again, with the same answer and the same files. -/
structure Repeats (layout : Layout) (found : WorkspacePaths) (host : Host) : Prop where
  root : ((resolveRoot layout : Action AgentError Path).run host).1 = .done found.root
  all : ((paths layout : Action AgentError WorkspacePaths).run host).1 = .done found
  data : ((dataPath layout : Action AgentError Path).run host).1 = .done found.dataDirectory
  output : ((outputPath layout : Action AgentError Path).run host).1 = .done found.outputDirectory
  cache : ((cachePath layout : Action AgentError Path).run host).1 = .done found.cacheDirectory
  again : ((ensureDirectories layout).run host).1 = .done found
  unchanged : ((ensureDirectories layout).run host).2.files = host.files

/-- Calls repeat exactly when they select the root again, if its directories are there. -/
theorem repeats_iff (layout : Layout) (root : Path) (host : Host)
    (there : ∀ directory ∈ (WorkspacePaths.ofRoot root).subdirectories,
      host.files.isDirectory directory = true) :
    Repeats layout (.ofRoot root) host ↔ (select layout host).root = root := by
  constructor
  · intro repeats
    exact Outcome.done.inj repeats.root
  · intro same
    have nothing := makeAll_of_isDirectory _ host.files there
    refine ⟨congrArg Outcome.done same, congrArg (Outcome.done ∘ WorkspacePaths.ofRoot) same,
      congrArg (Outcome.done ∘ fun root => (WorkspacePaths.ofRoot root).dataDirectory) same,
      congrArg (Outcome.done ∘ fun root => (WorkspacePaths.ofRoot root).outputDirectory) same,
      congrArg (Outcome.done ∘ fun root => (WorkspacePaths.ofRoot root).cacheDirectory) same,
      ?_, ?_⟩
    · rw [ensureDirectories_run, same, nothing]
    · rw [ensureDirectories_files, same, nothing]

/-- What is selected after a change that keeps the environment and all directories: the same root,
unless the fallback was selected and the mount is a directory now. -/
theorem select_again (layout : Layout) (before after : Host)
    (environment : after.environment = before.environment)
    (kept : ∀ path, before.files.isDirectory path = true → after.files.isDirectory path = true) :
    (select layout after).root =
      if (select layout before).source = .fallback ∧
        after.files.isDirectory layout.mountPath = true then layout.mountPath
      else (select layout before).root := by
  unfold select Layout.selectRoot
  rw [environment]
  cases (before.environment.value? layout.overrideVariable).filter
    (fun value => !value.isEmpty) with
  | some value => simp
  | none =>
    by_cases mounted : before.files.isDirectory layout.mountPath = true
    · simp [mounted, kept _ mounted]
    · by_cases now : after.files.isDirectory layout.mountPath = true
      · simp [mounted, now]
      · simp [mounted, now]

/-- The fallback is selected as it stands in the layout. -/
theorem root_of_fallback {layout : Layout} {host : Host}
    (fallback : (select layout host).source = .fallback) :
    (select layout host).root = layout.fallbackPath := by
  unfold select Layout.selectRoot at *
  split at fallback
  · cases fallback
  · split at fallback
    · cases fallback
    · rename_i unmounted
      simp [unmounted]

/-- Calls that follow one that was done repeat it, unless the fallback was selected and the call has
made the mount a directory, and the two are different paths. -/
theorem done_call_repeats (layout : Layout) (host after : Host) (found : WorkspacePaths)
    (done : (ensureDirectories layout).run host = (.done found, after)) :
    Repeats layout found after ↔
      ((select layout host).source = .fallback →
        after.files.isDirectory layout.mountPath = true →
          layout.mountPath = layout.fallbackPath) := by
  obtain ⟨rfl, there⟩ := ensureDirectories_done done
  have environment := ensureDirectories_environment layout host
  have makes := makeAll_makes
    (WorkspacePaths.ofRoot (select layout host).root).subdirectories host.files
  rw [← ensureDirectories_files] at makes
  rw [done] at environment makes
  rw [repeats_iff layout _ after there,
    select_again layout host after environment fun _ => makes.isDirectory]
  split
  · rename_i mounted
    rw [root_of_fallback mounted.1]
    simp [mounted]
  · rename_i elsewhere
    constructor
    · exact fun _ fallback mounted => absurd ⟨fallback, mounted⟩ elsewhere
    · exact fun _ => rfl

/-- A host without variables and with an empty working directory. -/
def bareHost : Host where
  environment := .table []
  files := .fresh
  out := .capture .nothing
  err := .capture .nothing
  clock := .masked
  diagnostics := .kept []

/-- What a first call on that host leaves. -/
def once (layout : Layout) : Host := ((ensureDirectories layout).run bareHost).2

/-- The mount of the standard layout is not under its fallback, so the next calls repeat the first
one. -/
theorem standard_repeats :
    (ensureDirectories .standard).run bareHost =
      (.done (.ofRoot Layout.standard.fallbackPath), once .standard) ∧
    Repeats .standard (.ofRoot Layout.standard.fallbackPath) (once .standard) := by
  have done : (ensureDirectories .standard).run bareHost =
      (.done (.ofRoot Layout.standard.fallbackPath), once .standard) := Prod.ext (by decide +kernel) rfl
  refine ⟨done, (done_call_repeats .standard bareHost _ _ done).mpr ?_⟩
  intro _ mounted
  have missing : (once .standard).files.isDirectory Layout.standard.mountPath = false := by decide +kernel
  exact absurd mounted (by simp [missing])

/-- A layout whose mount is one of the directories under its fallback. -/
def nestedMount : Layout where
  overrideVariable := "AEGIS_WORKSPACE_PATH"
  mountPath := .ofString "ws/data"
  fallbackPath := .ofString "ws"

/-- With such a layout a first call answers with the fallback and makes the mount. The root is the
mount from then on, and a second call makes three more directories under it. -/
theorem nestedMount_wanders :
    ((ensureDirectories nestedMount).run bareHost).1 = .done (.ofRoot (.ofString "ws")) ∧
    ¬ Repeats nestedMount (.ofRoot (.ofString "ws")) (once nestedMount) ∧
    ((ensureDirectories nestedMount).run (once nestedMount)).1 =
      .done (.ofRoot (.ofString "ws/data")) ∧
    (once nestedMount).files.isDirectory (.ofString "ws/data/output") = false ∧
    ((ensureDirectories nestedMount).run (once nestedMount)).2.files.isDirectory
      (.ofString "ws/data/output") = true := by
  refine ⟨by decide +kernel, ?_, by decide +kernel, by decide +kernel, by decide +kernel⟩
  intro repeats
  have root : ((resolveRoot nestedMount : Action AgentError Path).run (once nestedMount)).1 =
      .done (.ofString "ws/data") := by decide +kernel
  exact absurd (root.symm.trans repeats.root) (by decide +kernel)

end Workspace

end AgentKit
