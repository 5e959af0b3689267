import AgentKit.Files.Change
import AgentKit.Proofs.WalkParts
/-!
# Making directories

Making one directory adds one empty directory to the tree, at the place to which the path leads
afterwards, and changes nothing else. Making a directory with all that is missing above it is a run
of such steps, each on the path or on one above it, in whatever way it ends; so whatever a step
keeps, the run keeps. It ends well exactly when the path leads to a directory then, and otherwise
with the error that one of the steps gives.
-/

namespace AgentKit.Files

/-- A free place is a name that a directory of the tree may hold and does not. -/
theorem freePlace_eq_ok {files : Files} {route : Route} {above : Directory} {name : Bytes}
    (free : files.freePlace route = .ok (above, name)) :
    ∃ remaining, files.approach route = .ok (some (above, name, remaining)) ∧
      isStep name = false ∧ above.look name = .ok none := by
  unfold freePlace at free
  split at free
  · cases free
  · cases free
  · rename_i directory last remaining approached
    split at free
    · cases free
    · rename_i real
      split at free
      · cases free
      · cases free
      · rename_i looked
        cases free
        exact ⟨remaining, approached, Bool.eq_false_iff.mpr real, looked⟩

/-- One directory more: it stands where nothing stood, at the place to which its path leads then,
and all else is observed as before. -/
structure MadeAt (files made : Files) (path : Path) (location : Location) : Prop where
  free : files.outline? location = none
  outline : ∀ other, made.outline? other =
    if other = location then some (.directory []) else files.outline? other
  keeps : files.Keeps made
  leads : made.place? path = some location

/-- Making one directory adds it and does nothing else. -/
theorem makeDirectory_made {files made : Files} {path : Path}
    (done : files.makeDirectory path = .ok made) :
    ∃ location, files.MadeAt made path location := by
  unfold makeDirectory at done
  split at done
  · cases done
  · rename_i route routed
    split at done
    · cases done
    · rename_i above name free
      cases done
      obtain ⟨remaining, approached, real, looked⟩ := freePlace_eq_ok free
      obtain ⟨front, names, walked⟩ := followToLast_eq_some.mp approached
      obtain ⟨members, around, rfl, short, absent⟩ := Directory.look_ok looked
      have within :=
        follow_inside (files.start_inside route files.workingDirectory_inside) walked
      have leaf := Entry.isLeaf_of_bare (.directory [])
      have outline := files.outline?_replace_put within name (.directory []) leaf (by simp [absent])
      have keeps := files.keeps_put within name (.directory []) leaf (by simp [absent])
      have free := within.outline? name
      rw [absent, Option.map_none] at free
      refine ⟨_, free, outline, keeps, ?_⟩
      -- The same names lead to the same directory of the new tree, which holds the new one.
      obtain ⟨arrived, walks, corresponds⟩ :=
        keeps.follow walked (.some (start_corresponds keeps.working route))
      cases corresponds with
      | some corresponding =>
        obtain ⟨others, further, now, rfl, same, held, bare⟩ :=
          corresponding.holds ((outline _).trans (if_pos rfl))
        obtain ⟨inner, rfl⟩ := Entry.eq_directory_of_bare bare
        rw [same]
        exact place?_of_last routed names real walks short held

/-- One directory is made, along a path that a rule admits. -/
def MakesOne (toward : Path → Prop) (before after : Files) : Prop :=
  ∃ path, toward path ∧ before.makeDirectory path = .ok after

/-- Directories are made one after the other, each along an admitted path. -/
def Makes (toward : Path → Prop) : Files → Files → Prop :=
  Relation.ReflTransGen (MakesOne toward)

/-- All that was observed still is, and what is new are directories, each where an admitted path
leads. -/
structure Grown (toward : Path → Prop) (before after : Files) : Prop where
  kept : ∀ location entry, before.outline? location = some entry →
    after.outline? location = some entry
  added : ∀ location entry, before.outline? location = none →
    after.outline? location = some entry →
      entry = .directory [] ∧ ∃ path, toward path ∧ after.place? path = some location

namespace Makes

variable {toward wider : Path → Prop} {before after : Files}

/-- What one rule admits, a wider one admits too. -/
theorem widen (makes : Makes toward before after) (more : ∀ path, toward path → wider path) :
    Makes wider before after := by
  apply Relation.ReflTransGen.mono _ _ _ makes
  rintro first second ⟨path, admitted, done⟩
  exact ⟨path, more path admitted, done⟩

/-- A path to a directory stays one. -/
theorem isDirectory (makes : Makes toward before after) {path : Path}
    (found : before.isDirectory path = true) : after.isDirectory path = true := by
  induction makes with
  | refl => exact found
  | tail _ step inductionHypothesis =>
    obtain ⟨_, _, done⟩ := step
    obtain ⟨_, made⟩ := makeDirectory_made done
    exact made.keeps.isDirectory inductionHypothesis

/-- Directories that are made grow the tree and leave what it held. -/
theorem grown (makes : Makes toward before after) : before.Grown toward after := by
  induction makes with
  | refl =>
    refine ⟨fun _ _ observed => observed, ?_⟩
    intro location entry free observed
    exact absurd (free.symm.trans observed) (by simp)
  | tail run step inductionHypothesis =>
    obtain ⟨kept, added⟩ := inductionHypothesis
    obtain ⟨path, admitted, done⟩ := step
    obtain ⟨spot, made⟩ := makeDirectory_made done
    constructor
    · intro location entry observed
      have still := kept location entry observed
      have elsewhere : location ≠ spot := by
        rintro rfl
        exact absurd (made.free.symm.trans still) (by simp)
      rw [made.outline, if_neg elsewhere, still]
    · intro location entry free observed
      rw [made.outline] at observed
      by_cases there : location = spot
      · rw [if_pos there] at observed
        cases observed
        exact ⟨rfl, path, admitted, there ▸ made.leads⟩
      · rw [if_neg there] at observed
        obtain ⟨directory, earlier, before, leads⟩ := added location entry free observed
        exact ⟨directory, earlier, before, made.keeps.place? leads⟩

end Makes

/-- A directory is not made where a path leads to one already. -/
theorem makeDirectory_of_isDirectory {files : Files} {path : Path}
    (found : files.isDirectory path = true) :
    files.makeDirectory path = .error (.system .alreadyExists) := by
  obtain ⟨directory, reached⟩ := Option.isSome_iff_exists.mp found
  obtain ⟨route, _, routed, _⟩ := directory?_eq_some.mp reached
  unfold makeDirectory freePlace
  rw [routed]
  rcases approach_of_isDirectory routed found with
    root | ⟨above, name, remaining, approached, step | ⟨entry, looked⟩⟩
  · simp [root]
  · simp [approached, step]
  · by_cases step : isStep name = true
    · simp [approached, step]
    · simp [approached, step, looked]

/-- Where a path leads to a directory already, nothing is made and nothing fails. -/
theorem makeDirectories_of_isDirectory {files : Files} {path : Path}
    (found : files.isDirectory path = true) : files.makeDirectories path = (.ok (), files) := by
  have present : (IoError.system .alreadyExists).kind ≠ .notFound := by decide
  rw [makeDirectories, makeDirectory_of_isDirectory found]
  simp [found, present]

/-- Making a directory fails for something that is missing on the way only where a path above is
left to be made. -/
theorem parent?_of_notFound {files : Files} {path : Path} {error : IoError}
    (some : path.octets ≠ []) (failed : files.makeDirectory path = .error error)
    (missing : error.kind = .notFound) : path.parent? ≠ none := by
  intro top
  cases routed : path.route with
  | error refusal =>
    rw [makeDirectory, routed] at failed
    cases failed
    unfold Path.route at routed
    repeat' split at routed
    · cases routed
      exact absurd missing (by decide)
    · cases routed
      exact absurd missing (by decide)
    · cases routed
  | ok route =>
    have silent := (Path.silent_of_parent?_none top some).2
    rw [makeDirectory_of_isDirectory (isDirectory_of_silent routed silent)] at failed
    cases failed
    exact absurd missing (by decide)

/-- A step stops the making of directories: its path has a name, leads to no directory and cannot be
made one. If that is for something missing, it is nothing above the path, for there is a directory
above it. -/
structure Stopped (files : Files) (error : IoError) (path : Path) : Prop where
  named : path.octets ≠ []
  missing : files.isDirectory path = false
  fails : files.makeDirectory path = .error error
  above : error.kind = .notFound → ∃ parent, path.parent? = some parent ∧
    (parent.octets ≠ [] → files.isDirectory parent = true)

/-- How making a directory with all that is missing above it ends: with a directory there, or with
the error of the step that stopped it, which would come again. -/
inductive DirectoryResult (files : Files) (path : Path) : Except IoError Unit × Files → Prop where
  | there (after : Files) (makes : Makes path.Ancestor files after)
      (leads : path.octets ≠ [] → after.isDirectory path = true) :
      DirectoryResult files path (.ok (), after)
  | refused (error : IoError) (after : Files) (makes : Makes path.Ancestor files after)
      (some : path.octets ≠ []) (missing : after.isDirectory path = false)
      (cause : ∃ ancestor, path.Ancestor ancestor ∧ after.Stopped error ancestor) :
      DirectoryResult files path (.error error, after)

/-- A directory that is made is there. -/
theorem DirectoryResult.made {files made : Files} {path : Path}
    (done : files.makeDirectory path = .ok made) : DirectoryResult files path (.ok (), made) := by
  obtain ⟨location, madeAt⟩ := makeDirectory_made done
  exact .there made (.single ⟨path, .itself path, done⟩) fun _ => isDirectory_of_place? madeAt.leads

/-- The second try leaves a directory or the error of that try. The directory above is there. -/
theorem settleDirectory_result {files : Files} {path parent : Path} (named : path.octets ≠ [])
    (up : path.parent? = some parent)
    (there : parent.octets ≠ [] → files.isDirectory parent = true) :
    DirectoryResult files path (files.settleDirectory path) := by
  unfold settleDirectory
  split
  · rename_i made done
    exact .made done
  · rename_i error failed
    split
    · rename_i found
      exact .there files .refl fun _ => found
    · rename_i missing
      have missing := Bool.eq_false_iff.mpr missing
      refine .refused error files .refl named missing ⟨path, .itself path, ?_⟩
      exact ⟨named, missing, failed, fun _ => ⟨parent, up, there⟩⟩

/-- What was made above a path first comes in front of how the path itself ends. -/
theorem DirectoryResult.behind {files changed : Files} {path : Path}
    {result : Except IoError Unit × Files} (makes : Makes path.Ancestor files changed)
    (ended : DirectoryResult changed path result) : DirectoryResult files path result := by
  cases ended with
  | there after further leads => exact .there after (makes.trans further) leads
  | refused error after further some missing cause =>
    exact .refused error after (makes.trans further) some missing cause

/-- Making a directory with all that is missing above it ends in one of the two ways. -/
theorem makeDirectories_result (files : Files) (path : Path) :
    DirectoryResult files path (files.makeDirectories path) := by
  fun_induction makeDirectories files path with
  | case1 path empty => exact .there files .refl fun some => absurd empty some
  | case2 path some made done => exact .made done
  | case3 path some error failed missing top =>
    exact absurd top (parent?_of_notFound some failed missing)
  | case4 path some _ _ _ parent up error changed failed inductionHypothesis =>
    rw [failed] at inductionHypothesis
    cases inductionHypothesis with
    | refused _ _ makes named missing cause =>
      obtain ⟨ancestor, above, stopped⟩ := cause
      refine .refused error changed (makes.widen fun _ => .of_parent up) some ?_
        ⟨ancestor, .of_parent up above, stopped⟩
      cases found : changed.isDirectory path with
      | false => rfl
      | true => exact absurd (isDirectory_parent up named found) (by simp [missing])
  | case5 path some _ _ _ parent up changed done inductionHypothesis =>
    rw [done] at inductionHypothesis
    cases inductionHypothesis with
    | there _ makes leads =>
      exact .behind (makes.widen fun _ => .of_parent up) (settleDirectory_result some up leads)
  | case6 path some _ _ _ found => exact .there files .refl fun _ => found
  | case7 path some error failed other missing =>
    have missing := Bool.eq_false_iff.mpr missing
    refine .refused error files .refl some missing ⟨path, .itself path, ?_⟩
    exact ⟨some, missing, failed, fun absent => absurd absent other⟩

end AgentKit.Files
