import AgentKit.Proofs.SamePlaces
import AgentKit.Proofs.TwoRuns
import AgentKit.Proofs.WorkspaceDirectories
import AgentKit.Proofs.WorkspaceRepetition
import Mathlib.Data.List.Forall2

/-!
# Layouts that are the same

Two layouts are the same when their paths have the same components, and their paths may differ in
octets then. The resolver does not tell them apart: the probe of the mount gives one answer for
both, so one rule gives both roots; the directories under the roots have the same components; and
making them does the same to the files and ends in the same way, step by step.
-/

namespace AgentKit

/-- Directories of two workspaces with the same components. -/
structure WorkspacePaths.Same (left right : WorkspacePaths) : Prop where
  root : left.root.components = right.root.components
  dataDirectory : left.dataDirectory.components = right.dataDirectory.components
  outputDirectory : left.outputDirectory.components = right.outputDirectory.components
  cacheDirectory : left.cacheDirectory.components = right.cacheDirectory.components

/-- A name joined to roots with the same components gives paths with the same components. -/
theorem Path.components_join {root other : Path} (same : root.components = other.components)
    {name : Bytes} (plain : slash ∉ name) (spoken : isSilent name = false) :
    (root.join name).components = (other.join name).components := by
  rw [join_components root plain spoken, join_components other plain spoken, same]

/-- Roots with the same components have directories with the same components. -/
theorem WorkspacePaths.ofRoot_same {root other : Path}
    (same : root.components = other.components) :
    (WorkspacePaths.ofRoot root).Same (.ofRoot other) where
  root := same
  dataDirectory := Path.components_join same (by decide) (by decide)
  outputDirectory := Path.components_join same (by decide) (by decide)
  cacheDirectory := Path.components_join same (by decide) (by decide)

namespace Workspace

/-- The paths that the system is asked about in making the directories of a workspace, but for those
above them: the mount, if it is probed, and the three directories. -/
def asked (layout : Layout) (host : Host) : List Path :=
  (select layout host).probed ++ (WorkspacePaths.ofRoot (select layout host).root).subdirectories

/-- What two layouts have in common for the resolver: the rule that gives the root, roots and
directories with the same components, the same end of making the directories, be it an error, and
the same files then. -/
structure Interchangeable (left right : Layout) (host : Host) : Prop where
  source : (select left host).source = (select right host).source
  root : Outcome.Agree (fun root other => root.components = other.components)
    ((resolveRoot left : Action AgentError Path).run host).1
    ((resolveRoot right : Action AgentError Path).run host).1
  directories : Outcome.Agree WorkspacePaths.Same
    ((paths left : Action AgentError WorkspacePaths).run host).1
    ((paths right : Action AgentError WorkspacePaths).run host).1
  ensured : Outcome.Agree WorkspacePaths.Same ((ensureDirectories left).run host).1
    ((ensureDirectories right).run host).1
  files : ((ensureDirectories left).run host).2.files =
    ((ensureDirectories right).run host).2.files

/-- Trimmed paths with the same components, one by one, are made alike. -/
theorem makeAll_alike (files : Files) {paths others : List Path}
    (alike : List.Forall₂ (fun path other => path.Alike other ∧ path.Trimmed ∧ other.Trimmed)
      paths others) : makeAll paths files = makeAll others files := by
  induction alike generalizing files with
  | nil => rfl
  | cons both _ inductionHypothesis =>
    obtain ⟨same, trimmed, also⟩ := both
    rw [makeAll, makeAll, files.makeDirectories_alike same trimmed also]
    split
    · exact inductionHypothesis _
    · rfl

/-- Directories of roots with the same components are made alike. -/
theorem makeAll_subdirectories (files : Files) {root other : Path}
    (same : root.components = other.components)
    (short : ∀ path ∈ (WorkspacePaths.ofRoot root).subdirectories,
      path.octets.length ≤ longestPath)
    (alsoShort : ∀ path ∈ (WorkspacePaths.ofRoot other).subdirectories,
      path.octets.length ≤ longestPath) :
    makeAll (WorkspacePaths.ofRoot root).subdirectories files =
      makeAll (WorkspacePaths.ofRoot other).subdirectories files := by
  rw [subdirectories_eq] at short alsoShort ⊢
  rw [subdirectories_eq]
  apply makeAll_alike
  rw [List.forall₂_map_left_iff, List.forall₂_map_right_iff, List.forall₂_same]
  intro name member
  obtain ⟨plain, spoken⟩ := names_plain name member
  refine ⟨⟨Path.components_join same plain spoken, ?_, ?_⟩, ?_, ?_⟩
  · exact short _ (List.mem_map_of_mem member)
  · exact alsoShort _ (List.mem_map_of_mem member)
  · exact (Path.join_loud root plain spoken).2.2
  · exact (Path.join_loud other plain spoken).2.2

/-- The mount is probed unless there is an override. -/
theorem mem_probed (layout : Layout) (host : Host)
    (free : (host.environment.value? layout.overrideVariable).filter (fun value => !value.isEmpty) =
      none) : layout.mountPath ∈ (select layout host).probed := by
  rw [select, Layout.selectRoot, free]
  dsimp only
  split <;> exact List.mem_singleton_self _

/-- One rule gives the roots of layouts that are the same, and the roots have the same components,
if the probe of the mounts is not refused for their length. -/
theorem select_same {left right : Layout} (host : Host) (same : left.same right = true)
    (short : ∀ path ∈ (select left host).probed ++ (select right host).probed,
      path.octets.length ≤ longestPath) :
    (select left host).source = (select right host).source ∧
      (select left host).root.components = (select right host).root.components := by
  simp only [Layout.same, Path.sameComponents, Bool.and_eq_true, beq_iff_eq] at same
  obtain ⟨⟨variable_eq, mounts⟩, fallbacks⟩ := same
  cases held : (host.environment.value? left.overrideVariable).filter
    (fun value => !value.isEmpty) with
  | some value => simp only [select, Layout.selectRoot, ← variable_eq, held, and_self]
  | none =>
    have alike : left.mountPath.Alike right.mountPath := by
      refine ⟨mounts, short _ (List.mem_append_left _ ?_), short _ (List.mem_append_right _ ?_)⟩
      · exact mem_probed left host held
      · exact mem_probed right host (variable_eq ▸ held)
    simp only [select, Layout.selectRoot, ← variable_eq, held, host.files.isDirectory_alike alike]
    split
    · exact ⟨rfl, mounts⟩
    · exact ⟨rfl, fallbacks⟩

/-- The resolver does not tell apart two layouts that are the same, on any host, if no path that it
asks about is too long for the system. -/
theorem same_interchangeable (left right : Layout) (host : Host) (same : left.same right = true)
    (short : ∀ path ∈ asked left host ++ asked right host, path.octets.length ≤ longestPath) :
    Interchangeable left right host := by
  simp only [asked, List.forall_mem_append] at short
  obtain ⟨⟨probe, directoriesShort⟩, otherProbe, otherShort⟩ := short
  obtain ⟨source, root⟩ :=
    select_same host same (List.forall_mem_append.mpr ⟨probe, otherProbe⟩)
  have directories := WorkspacePaths.ofRoot_same root
  have made := makeAll_subdirectories host.files root directoriesShort otherShort
  refine ⟨source, .done root, .done directories, ?_, ?_⟩
  · rw [ensureDirectories_run, ensureDirectories_run, made]
    split
    · exact .done directories
    · exact .failed _
  · rw [ensureDirectories_files, ensureDirectories_files, made]

/-- A layout. -/
def plainSpelling : Layout where
  overrideVariable := "AEGIS_WORKSPACE_PATH"
  mountPath := .ofString "/workspace"
  fallbackPath := .ofString "a/b"

/-- The same layout in other octets. -/
def longSpelling : Layout where
  overrideVariable := "AEGIS_WORKSPACE_PATH"
  mountPath := .ofString "//workspace/."
  fallbackPath := .ofString "a/.//b/"

/-- The two spellings make the same directories in an empty working directory. -/
theorem spellings_interchangeable :
    plainSpelling.same longSpelling = true ∧ plainSpelling ≠ longSpelling ∧
    (∀ path ∈ asked plainSpelling bareHost ++ asked longSpelling bareHost,
      path.octets.length ≤ longestPath) ∧
    Interchangeable plainSpelling longSpelling bareHost := by
  have same : plainSpelling.same longSpelling = true := by decide +kernel
  have few : asked plainSpelling bareHost ++ asked longSpelling bareHost =
    [.ofString "/workspace", .ofString "a/b/data", .ofString "a/b/output", .ofString "a/b/.cache",
      .ofString "//workspace/.", .ofString "a/.//b/data", .ofString "a/.//b/output",
      .ofString "a/.//b/.cache"] := by decide +kernel
  have short : ∀ path ∈ asked plainSpelling bareHost ++ asked longSpelling bareHost,
      path.octets.length ≤ longestPath := by
    rw [few]
    decide +kernel
  exact ⟨same, by decide +kernel, short, same_interchangeable _ _ _ same short⟩

end Workspace

end AgentKit
