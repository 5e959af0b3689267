import AgentKit.Fault.Basic
import AgentKit.Files.Basic
/-!
# Walking along a path

A path is followed name by name from the root or the working directory. `.` stays, `..` goes up,
and a symbolic link is replaced by its target, with the names behind it still to come. All names
but the last have to be directories, and a slash at the end asks for a directory as well.

At most forty links are followed on one walk. Each link uses up one of them, and each other name
shortens what is left of the path up to the next link, so every walk ends, also on a circle of
links.
-/
namespace AgentKit

/-- The longest path. -/
def longestPath : Nat := 4095

/-- The number of links that one walk may follow. -/
def linkLimit : Nat := 40

/-- A path cut into the names to follow. -/
structure Route where
  /-- The walk starts at the root. -/
  absolute : Bool
  /-- The names between slashes, `.` and `..` among them. -/
  names : List Bytes
  /-- A slash stands at the end. -/
  slashed : Bool
deriving DecidableEq, Repr

namespace Route

/-- The route of a path or of a link's target. -/
def ofOctets (octets : Bytes) : Route where
  absolute := Path.isAbsolute ⟨octets⟩
  names := (Path.split octets).filter fun name => !name.isEmpty
  slashed := Path.endsInSlash ⟨octets⟩

/-- The names to follow when the walk goes to the end of the route. A slash at the end says the
same as a last `.`. -/
def lookupNames (route : Route) : List Bytes :=
  if route.slashed then route.names ++ [Path.here] else route.names

end Route

/-- The route of a path that the operating system accepts. -/
def Path.route (path : Path) : Except IoError Route :=
  if path.octets.contains 0 then .error .zeroOctet
  else if path.octets = [] then .error (.system .noEntry)
  else if longestPath < path.octets.length then .error (.system .nameTooLong)
  else .ok (.ofOctets path.octets)

namespace Files

/-- Where the walk along a route starts, for a directory in which relative routes start. -/
def start (files : Files) (route : Route) (directory : Directory) : Directory :=
  if route.absolute then .root files.root else directory

/-- A name that stands for a directory on the way and not for an entry of its own. -/
def isStep (name : Bytes) : Bool := name == Path.here || name == Path.above

/-- Follow names from some place up to the first link, with a number of links left. What comes of a
link is told by the directory it stands in, its target and the names behind it. -/
def followNames (links : Nat)
    (followLink : Directory → Bytes → List Bytes → Except Errno (Option Directory × Nat))
    (place : Option Directory) (names : List Bytes) : Except Errno (Option Directory × Nat) :=
  match names, place with
  | [], place => .ok (place, links)
  | _ :: _, none => .error .notDirectory
  | name :: rest, some directory =>
    if name = Path.here then followNames links followLink (some directory) rest
    else if name = Path.above then followNames links followLink (some directory.up) rest
    else
      match directory.look name with
      | .error errno => .error errno
      | .ok none => .error .noEntry
      | .ok (some (.link target)) => followLink directory target rest
      | .ok (some entry) => followNames links followLink (directory.down? name entry) rest

/-- Follow names from some place, with a number of links left. The place is a directory or nothing
that holds names. The result is the place reached and the number of links left then. -/
def follow (files : Files) (links : Nat) (place : Option Directory) (names : List Bytes) :
    Except Errno (Option Directory × Nat) :=
  match links with
  | 0 => followNames 0 (fun _ _ _ => .error .tooManyLinks) place names
  | remaining + 1 =>
    let followLink (directory : Directory) (target : Bytes) (rest : List Bytes) :=
      let route := Route.ofOctets target
      files.follow remaining (some (files.start route directory)) (route.lookupNames ++ rest)
    followNames (remaining + 1) followLink place names

/-- A name leads on from a directory, or the walk ends there. -/
theorem follow_eq (files : Files) (links : Nat) (place : Option Directory) (names : List Bytes) :
    files.follow links place names =
      match names, place with
      | [], place => .ok (place, links)
      | _ :: _, none => .error .notDirectory
      | name :: rest, some directory =>
        if name = Path.here then files.follow links (some directory) rest
        else if name = Path.above then files.follow links (some directory.up) rest
        else
          match directory.look name with
          | .error errno => .error errno
          | .ok none => .error .noEntry
          | .ok (some (.link target)) =>
            match links with
            | 0 => .error .tooManyLinks
            | remaining + 1 =>
              let route := Route.ofOctets target
              files.follow remaining (some (files.start route directory))
                (route.lookupNames ++ rest)
          | .ok (some entry) => files.follow links (directory.down? name entry) rest := by
  cases links <;> cases names <;> cases place <;> rfl

/-- Two names stand for a directory on the way. -/
theorem isStep_false {name : Bytes} :
    isStep name = false ↔ name ≠ Path.here ∧ name ≠ Path.above := by
  simp [isStep]

/-- Induction along a walk, with one case for each thing that a name can lead to.

The outer induction is on the links left, the inner one on the names up to the next link. -/
theorem follow_induct (files : Files) {motive : Nat → Option Directory → List Bytes → Prop}
    (nil : ∀ links place, motive links place [])
    (nowhere : ∀ links name rest, motive links none (name :: rest))
    (here : ∀ links directory rest, motive links (some directory) rest →
      motive links (some directory) (Path.here :: rest))
    (above : ∀ links directory rest, motive links (some directory.up) rest →
      motive links (some directory) (Path.above :: rest))
    (refused : ∀ links directory name rest errno, isStep name = false →
      directory.look name = .error errno → motive links (some directory) (name :: rest))
    (missing : ∀ links directory name rest, isStep name = false →
      directory.look name = .ok none → motive links (some directory) (name :: rest))
    (exhausted : ∀ directory name rest target, isStep name = false →
      directory.look name = .ok (some (.link target)) → motive 0 (some directory) (name :: rest))
    (link : ∀ remaining directory name rest target, isStep name = false →
      directory.look name = .ok (some (.link target)) →
      motive remaining (some (files.start (.ofOctets target) directory))
        ((Route.ofOctets target).lookupNames ++ rest) →
      motive (remaining + 1) (some directory) (name :: rest))
    (entry : ∀ links directory name rest entry, isStep name = false →
      directory.look name = .ok (some entry) → (∀ target, entry ≠ .link target) →
      motive links (directory.down? name entry) rest →
      motive links (some directory) (name :: rest))
    (links : Nat) (place : Option Directory) (names : List Bytes) : motive links place names := by
  induction links using Nat.strongRecOn generalizing place names with
  | ind links fewer =>
    induction names generalizing place with
    | nil => exact nil links place
    | cons name rest inductionHypothesis =>
      cases place with
      | none => exact nowhere links name rest
      | some directory =>
        by_cases spot : name = Path.here
        · exact spot ▸ here links directory rest (inductionHypothesis _)
        by_cases back : name = Path.above
        · exact back ▸ above links directory rest (inductionHypothesis _)
        have real := isStep_false.mpr ⟨spot, back⟩
        rcases looked : directory.look name with errno | (_ | found)
        · exact refused links directory name rest errno real looked
        · exact missing links directory name rest real looked
        by_cases leads : ∃ target, found = .link target
        · obtain ⟨target, rfl⟩ := leads
          cases links with
          | zero => exact exhausted directory name rest target real looked
          | succ remaining =>
            exact link remaining directory name rest target real looked
              (fewer remaining (Nat.lt_succ_self _) _ _)
        · have direct : ∀ target, found ≠ .link target := fun target same => leads ⟨target, same⟩
          exact entry links directory name rest found real looked direct (inductionHypothesis _)

/-- At the end of the names the walk stands where it stands. -/
theorem follow_nil (files : Files) (links : Nat) (place : Option Directory) :
    files.follow links place [] = .ok (place, links) := by
  rw [follow_eq]

/-- What is no directory has no names. -/
theorem follow_nowhere (files : Files) (links : Nat) (name : Bytes) (rest : List Bytes) :
    files.follow links none (name :: rest) = .error .notDirectory := by
  rw [follow_eq]

theorem follow_here (files : Files) (links : Nat) (directory : Directory) (rest : List Bytes) :
    files.follow links (some directory) (Path.here :: rest) =
      files.follow links (some directory) rest := by
  rw [follow_eq]
  simp

theorem follow_above (files : Files) (links : Nat) (directory : Directory) (rest : List Bytes) :
    files.follow links (some directory) (Path.above :: rest) =
      files.follow links (some directory.up) rest := by
  rw [follow_eq]
  simp [Path.above, Path.here]

/-- The walk ends at a name that cannot be looked up, whatever comes behind it. -/
theorem follow_refused (files : Files) (links : Nat) (directory : Directory) (name : Bytes)
    (rest : List Bytes) {errno : Errno} (real : isStep name = false)
    (looked : directory.look name = .error errno) :
    files.follow links (some directory) (name :: rest) = .error errno := by
  obtain ⟨here, above⟩ := isStep_false.mp real
  rw [follow_eq]
  simp [here, above, looked]

/-- So it does at a name that is missing. -/
theorem follow_missing (files : Files) (links : Nat) (directory : Directory) (name : Bytes)
    (rest : List Bytes) (real : isStep name = false) (looked : directory.look name = .ok none) :
    files.follow links (some directory) (name :: rest) = .error .noEntry := by
  obtain ⟨here, above⟩ := isStep_false.mp real
  rw [follow_eq]
  simp [here, above, looked]

/-- So it does at a link when no links are left. -/
theorem follow_exhausted (files : Files) (directory : Directory) (name target : Bytes)
    (rest : List Bytes) (real : isStep name = false)
    (looked : directory.look name = .ok (some (.link target))) :
    files.follow 0 (some directory) (name :: rest) = .error .tooManyLinks := by
  obtain ⟨here, above⟩ := isStep_false.mp real
  rw [follow_eq]
  simp [here, above, looked]

/-- A link uses up one of those left, and its target comes in front of the other names. -/
theorem follow_link (files : Files) (links : Nat) (directory : Directory) (name target : Bytes)
    (rest : List Bytes) (real : isStep name = false)
    (looked : directory.look name = .ok (some (.link target))) :
    files.follow (links + 1) (some directory) (name :: rest) =
      files.follow links (some (files.start (.ofOctets target) directory))
        ((Route.ofOctets target).lookupNames ++ rest) := by
  obtain ⟨here, above⟩ := isStep_false.mp real
  rw [follow_eq]
  simp [here, above, looked]

/-- Any other entry leads on only if it is a directory. -/
theorem follow_entry (files : Files) (links : Nat) (directory : Directory) (name : Bytes)
    (entry : Entry) (rest : List Bytes) (real : isStep name = false)
    (looked : directory.look name = .ok (some entry)) (direct : ∀ target, entry ≠ .link target) :
    files.follow links (some directory) (name :: rest) =
      files.follow links (directory.down? name entry) rest := by
  obtain ⟨here, above⟩ := isStep_false.mp real
  rw [follow_eq]
  cases entry with
  | link target => exact absurd rfl (direct target)
  | directory members => simp [here, above, looked]
  | file contents => simp [here, above, looked]
  | device kind => simp [here, above, looked]

/-- A walk never gains links. -/
theorem follow_links_le {files : Files} {links remaining : Nat}
    {place reached : Option Directory} {names : List Bytes}
    (walked : files.follow links place names = .ok (reached, remaining)) : remaining ≤ links := by
  induction links, place, names using follow_induct files with
  | nil links place =>
    rw [follow_nil] at walked
    cases walked
    exact Nat.le_refl _
  | nowhere links name rest =>
    rw [follow_nowhere] at walked
    cases walked
  | here links directory rest inductionHypothesis =>
    rw [follow_here] at walked
    exact inductionHypothesis walked
  | above links directory rest inductionHypothesis =>
    rw [follow_above] at walked
    exact inductionHypothesis walked
  | refused links directory name rest errno real looked =>
    rw [follow_refused files links directory name rest real looked] at walked
    cases walked
  | missing links directory name rest real looked =>
    rw [follow_missing files links directory name rest real looked] at walked
    cases walked
  | exhausted directory name rest target real looked =>
    rw [follow_exhausted files directory name target rest real looked] at walked
    cases walked
  | link remaining directory name rest target real looked inductionHypothesis =>
    rw [follow_link files remaining directory name target rest real looked] at walked
    exact Nat.le_succ_of_le (inductionHypothesis walked)
  | entry links directory name rest entry real looked direct inductionHypothesis =>
    rw [follow_entry files links directory name entry rest real looked direct] at walked
    exact inductionHypothesis walked

/-- The place that a route leads to. -/
def reach (files : Files) (route : Route) : Except Errno (Option Directory) :=
  (files.follow linkLimit (some (files.start route files.workingDirectory))
    route.lookupNames).map Prod.fst

/-- The place that a path leads to. -/
def locate (files : Files) (path : Path) : Except IoError (Option Directory) :=
  match path.route with
  | .error error => .error error
  | .ok route => (files.reach route).mapError IoError.system

/-- The directory that a path leads to. -/
def directory? (files : Files) (path : Path) : Option Directory :=
  match files.locate path with
  | .ok place => place
  | .error _ => none

/-- A path that leads to a directory. -/
def isDirectory (files : Files) (path : Path) : Bool := (files.directory? path).isSome

/-- The directory in which the last name of a route stands, that name, and the number of links
left. The root alone has no last name. -/
def followToLast (files : Files) (links : Nat) (directory : Directory) (route : Route) :
    Except Errno (Option (Directory × Bytes × Nat)) :=
  match route.names.getLast? with
  | none => .ok none
  | some name =>
    match files.follow links (some (files.start route directory)) route.names.dropLast with
    | .error errno => .error errno
    | .ok (some above, remaining) => .ok (some (above, name, remaining))
    | .ok (none, _) => .error .notDirectory

theorem followToLast_links_le {files : Files} {links remaining : Nat}
    {directory above : Directory} {route : Route} {name : Bytes}
    (walked : files.followToLast links directory route = .ok (some (above, name, remaining))) :
    remaining ≤ links := by
  unfold followToLast at walked
  repeat' split at walked
  · cases walked
  · cases walked
  · rename_i step
    cases walked
    exact follow_links_le step
  · cases walked

/-- The walk to the last name of a route from the working directory, with all links to spend. -/
def approach (files : Files) (route : Route) : Except Errno (Option (Directory × Bytes × Nat)) :=
  files.followToLast linkLimit files.workingDirectory route

end Files

end AgentKit
