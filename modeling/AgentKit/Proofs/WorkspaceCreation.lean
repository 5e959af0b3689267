import AgentKit.Proofs.DirectoryCreation
import AgentKit.Proofs.HostChange
import AgentKit.Workspace
/-!
# Making the directories of a workspace

The three directories are made one after the other, each with all that is missing above it. However
that ends, the tree has only grown by directories, each on the way to one of those that were tried.
When it ends well the three are there, and making them again does nothing. Otherwise the first that
could not be made is named by the error of its own, and those behind it were not tried.
-/

namespace AgentKit

/-- One of some paths, or one above them. -/
def Path.Towards (paths : List Path) (path : Path) : Prop :=
  ∃ member ∈ paths, member.Ancestor path

/-- What is towards some paths is towards more of them. -/
theorem Path.Towards.mono {paths more : List Path} (held : ∀ path ∈ paths, path ∈ more)
    {path : Path} (towards : Path.Towards paths path) : Path.Towards more path := by
  obtain ⟨member, there, above⟩ := towards
  exact ⟨member, held member there, above⟩

/-- A path with one more name is not empty. -/
theorem Path.join_ne_nil (path : Path) {name : Bytes} (some : name ≠ []) :
    (path.join name).octets ≠ [] := by
  unfold Path.join
  split <;> simp [some]

namespace Workspace

/-- How making directories one after the other ends: with all of them there, or at the first that
cannot be made, with the error of making that one. -/
inductive AllResult (files : Files) (paths : List Path) : Except IoError Unit × Files → Prop where
  | there (after : Files) (makes : Files.Makes (Path.Towards paths) files after)
      (leads : ∀ path ∈ paths, path.octets ≠ [] → after.isDirectory path = true) :
      AllResult files paths (.ok (), after)
  | refused (earlier : List Path) (path : Path) (later : List Path) (error : IoError)
      (between after : Files) (order : paths = earlier ++ path :: later)
      (done : makeAll earlier files = (.ok (), between))
      (failed : between.makeDirectories path = (.error error, after))
      (makes : Files.Makes (Path.Towards (earlier ++ [path])) files after)
      (leads : ∀ other ∈ earlier, other.octets ≠ [] → after.isDirectory other = true)
      (missing : after.isDirectory path = false)
      (cause : ∃ ancestor, path.Ancestor ancestor ∧ after.Stopped error ancestor) :
      AllResult files paths (.error error, after)

/-- A directory that can be made is followed by the others. -/
theorem makeAll_cons_ok {files made : Files} {path : Path} (later : List Path)
    (done : files.makeDirectories path = (.ok (), made)) :
    makeAll (path :: later) files = makeAll later made := by
  rw [makeAll, done]

/-- A directory that cannot be made ends it. -/
theorem makeAll_cons_error {files left : Files} {path : Path} {error : IoError}
    (later : List Path) (failed : files.makeDirectories path = (.error error, left)) :
    makeAll (path :: later) files = (.error error, left) := by
  rw [makeAll, failed]

/-- What is above the first of some paths, or towards the others, is towards all of them. -/
theorem makes_cons {files made after : Files} {path : Path} {later : List Path}
    (first : Files.Makes path.Ancestor files made)
    (rest : Files.Makes (Path.Towards later) made after) :
    Files.Makes (Path.Towards (path :: later)) files after := by
  refine (first.widen ?_).trans (rest.widen ?_)
  · exact fun _ above => ⟨path, List.mem_cons_self, above⟩
  · exact fun _ => Path.Towards.mono fun _ => List.mem_cons_of_mem path

/-- How it ends behind a first directory that was made is how it ends with that one in front. -/
theorem AllResult.behind {files made : Files} {path : Path} {later : List Path}
    {result : Except IoError Unit × Files}
    (done : files.makeDirectories path = (.ok (), made))
    (first : Files.Makes path.Ancestor files made)
    (leads : path.octets ≠ [] → made.isDirectory path = true)
    (ended : AllResult made later result) : AllResult files (path :: later) result := by
  cases ended with
  | there after rest others =>
    refine .there after (makes_cons first rest) ?_
    intro other member some
    rcases List.mem_cons.mp member with rfl | member
    · exact rest.isDirectory (leads some)
    · exact others other member some
  | refused earlier next behind error between after order all failed rest others missing cause =>
    refine .refused (path :: earlier) next behind error between after
      (congrArg (path :: ·) order) ((makeAll_cons_ok earlier done).trans all) failed
      (makes_cons first rest) ?_ missing cause
    intro other member some
    rcases List.mem_cons.mp member with rfl | member
    · exact rest.isDirectory (leads some)
    · exact others other member some

/-- Directories are made in their order, up to the first that cannot be made. -/
theorem makeAll_result (paths : List Path) (files : Files) :
    AllResult files paths (makeAll paths files) := by
  induction paths generalizing files with
  | nil =>
    refine .there files .refl ?_
    intro path member
    cases member
  | cons path later inductionHypothesis =>
    have first := files.makeDirectories_result path
    generalize called : files.makeDirectories path = result at first
    cases first with
    | there made makes leads =>
      rw [makeAll_cons_ok later called]
      exact .behind called makes leads (inductionHypothesis made)
    | refused error after makes some missing cause =>
      rw [makeAll_cons_error later called]
      refine .refused [] path later error files after rfl rfl called (makes_cons makes .refl) ?_
        missing cause
      intro other member
      cases member

/-- However it ends, directories were made on the way to the paths and nothing else happened. -/
theorem makeAll_makes (paths : List Path) (files : Files) :
    Files.Makes (Path.Towards paths) files (makeAll paths files).2 := by
  have result := makeAll_result paths files
  generalize makeAll paths files = made at result
  cases result with
  | there after makes leads => exact makes
  | refused earlier path later error between after order done failed makes leads missing cause =>
    refine makes.widen fun _ => Path.Towards.mono ?_
    intro other member
    rw [order]
    simp only [List.mem_append, List.mem_cons, List.not_mem_nil, or_false] at member ⊢
    exact member.imp id .inl

/-- Directories that could all be made are there. -/
theorem makeAll_there {paths : List Path} {files after : Files}
    (done : makeAll paths files = (.ok (), after)) (named : ∀ path ∈ paths, path.octets ≠ []) :
    ∀ path ∈ paths, after.isDirectory path = true := by
  have result := makeAll_result paths files
  rw [done] at result
  cases result with
  | there after makes leads => exact fun path member => leads path member (named path member)

/-- Where all paths lead to directories, making them does nothing. -/
theorem makeAll_of_isDirectory (paths : List Path) (files : Files)
    (there : ∀ path ∈ paths, files.isDirectory path = true) :
    makeAll paths files = (.ok (), files) := by
  induction paths with
  | nil => rfl
  | cons path later inductionHypothesis =>
    rw [makeAll, Files.makeDirectories_of_isDirectory (there path List.mem_cons_self)]
    exact inductionHypothesis fun other member => there other (List.mem_cons_of_mem _ member)

/-- The names of the directories under a root. -/
def names : List Bytes := ["data", "output", ".cache"].map Utf8.ofString

/-- The directories are the root with each of the names. -/
theorem subdirectories_eq (root : Path) :
    (WorkspacePaths.ofRoot root).subdirectories = names.map root.join := rfl

/-- The names are single pieces of a path with a meaning of their own. -/
theorem names_plain : ∀ name ∈ names, Path.slash ∉ name ∧ Path.isSilent name = false := by
  decide

/-- The directories of a workspace have names. -/
theorem subdirectories_ne_nil (root : Path) :
    ∀ path ∈ (WorkspacePaths.ofRoot root).subdirectories, path.octets ≠ [] := by
  intro path member
  simp only [WorkspacePaths.subdirectories, WorkspacePaths.ofRoot, List.mem_cons,
    List.not_mem_nil, or_false] at member
  rcases member with rfl | rfl | rfl <;> exact Path.join_ne_nil root (by decide)

/-- The directories are made under the root that is selected first. -/
theorem ensureDirectories_run (layout : Layout) (host : Host) :
    let root := (select layout host).root
    let resolved := host.emit (.rootResolved root (select layout host).source)
    (ensureDirectories layout).run host =
      match makeAll (WorkspacePaths.ofRoot root).subdirectories host.files with
      | (.ok (), files) =>
        (.done (.ofRoot root), { resolved with files }.emit (.directoriesReady root))
      | (.error error, files) => (.failed (.io error), { resolved with files }) := by
  intro root resolved
  have files : resolved.files = host.files := Host.emit_files host _
  change Action.andThen (Action.mapError AgentError.io (Action.changeFiles
    (makeAll (WorkspacePaths.ofRoot root).subdirectories))) _ resolved = _
  rw [Action.andThen, Action.mapError, Action.changeFiles, files]
  generalize makeAll (WorkspacePaths.ofRoot root).subdirectories host.files = result
  obtain ⟨_ | _, after⟩ := result <;> rfl

/-- The files after the call are those that making the three directories leaves. -/
theorem ensureDirectories_files (layout : Layout) (host : Host) :
    ((ensureDirectories layout).run host).2.files =
      (makeAll (WorkspacePaths.ofRoot (select layout host).root).subdirectories
        host.files).2 := by
  rw [ensureDirectories_run]
  generalize makeAll _ host.files = result
  obtain ⟨_ | _, after⟩ := result
  · rfl
  · exact Host.emit_files _ _

/-- The call leaves the environment. -/
theorem ensureDirectories_environment (layout : Layout) (host : Host) :
    ((ensureDirectories layout).run host).2.environment = host.environment := by
  rw [ensureDirectories_run]
  generalize makeAll _ host.files = result
  obtain ⟨_ | _, after⟩ := result
  · exact Host.emit_environment _ _
  · exact (Host.emit_environment _ _).trans (Host.emit_environment _ _)

/-- A call that is done answers with the directories of the root that was selected, and they are
there. -/
theorem ensureDirectories_done {layout : Layout} {host after : Host} {found : WorkspacePaths}
    (done : (ensureDirectories layout).run host = (.done found, after)) :
    found = .ofRoot (select layout host).root ∧
      ∀ directory ∈ found.subdirectories, after.files.isDirectory directory = true := by
  rw [ensureDirectories_run] at done
  generalize called : makeAll _ host.files = result at done
  obtain ⟨_ | _, made⟩ := result
  · cases done
  · cases done
    refine ⟨rfl, ?_⟩
    rw [Host.emit_files]
    exact makeAll_there called (subdirectories_ne_nil _)

/-- One call that makes the directories of a workspace, on any host.

However it ends, all that was observed of the files still is, and what is new are directories, each
where one of the three directories of the root or a path above one leads. When it is done, it
answers with the layout of the root that was selected at first, the three directories are there, and
making them again does nothing. Otherwise one of the three is the first that could not be made: the
error is the one of making it, which comes from a step on the way to it that leads to no directory,
and nothing was made that is not on the way to it or to one in front of it. -/
theorem ensureDirectories_effect (layout : Layout) (host : Host) :
    let root := (select layout host).root
    let directories := (WorkspacePaths.ofRoot root).subdirectories
    let ended := (ensureDirectories layout).run host
    let files := ended.2.files
    host.files.Grown (Path.Towards directories) files ∧
    ((ended.1 = .done (.ofRoot root) ∧
        (∀ directory ∈ directories, files.isDirectory directory = true) ∧
        makeAll directories files = (.ok (), files)) ∨
      ∃ earlier directory later error between, directories = earlier ++ directory :: later ∧
        ended.1 = .failed (.io error) ∧
        makeAll earlier host.files = (.ok (), between) ∧
        between.makeDirectories directory = (.error error, files) ∧
        (∀ other ∈ earlier, files.isDirectory other = true) ∧
        files.isDirectory directory = false ∧
        (∃ ancestor, directory.Ancestor ancestor ∧ files.Stopped error ancestor) ∧
        host.files.Grown (Path.Towards (earlier ++ [directory])) files) := by
  intro root directories ended files
  have left : files = (makeAll directories host.files).2 := ensureDirectories_files layout host
  have run : ended = _ := ensureDirectories_run layout host
  have grown := left ▸ (makeAll_makes directories host.files).grown
  have result := makeAll_result directories host.files
  have named := subdirectories_ne_nil root
  refine ⟨grown, ?_⟩
  generalize called : makeAll directories host.files = made at result run left
  cases result with
  | there after makes leads =>
    have there : ∀ directory ∈ directories, files.isDirectory directory = true := by
      rw [left]
      exact makeAll_there called named
    left
    exact ⟨congrArg Prod.fst run, there, makeAll_of_isDirectory directories files there⟩
  | refused earlier directory later error between after order done failed makes leads missing
      cause =>
    right
    refine ⟨earlier, directory, later, error, between, order, congrArg Prod.fst run, done,
      left ▸ failed, ?_, left ▸ missing, left ▸ cause, left ▸ makes.grown⟩
    intro other member
    have held : other ∈ directories := by
      rw [order]
      exact List.mem_append_left _ member
    rw [left]
    exact leads other member (named other held)

end Workspace

end AgentKit
