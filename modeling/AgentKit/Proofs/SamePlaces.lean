import AgentKit.Proofs.DirectoryCreation
import AgentKit.Proofs.PathComponents
import Mathlib.Data.List.Induction

/-!
# Paths to the same places

Steps on the spot change a walk in one respect: they ask for a directory. A walk that has to end in
a directory anyway passes over them, so paths with the same components lead to the same directories.
What is made under a path depends on its last name too, which is the same where nothing silent
stands behind it; and since the parents of such paths are such paths with the same components again,
the directories that are made for one are those that are made for the other.
-/

namespace AgentKit

namespace Route

/-- The names that are no steps on the spot. -/
def steps (route : Route) : List Bytes := route.names.filter fun name => name != Path.here

/-- The names among pieces that are no steps on the spot are the loud pieces. -/
theorem filter_names (pieces : List Bytes) :
    (pieces.filter fun name => !name.isEmpty).filter (fun name => name != Path.here) =
      pieces.filter fun piece => !Path.isSilent piece := by
  rw [List.filter_filter]
  apply List.filter_congr
  intro piece _
  cases piece with
  | nil => rfl
  | cons octet rest => simp [Path.isSilent, bne]

/-- The steps of a route are the loud pieces of its path. -/
theorem steps_ofOctets (octets : Bytes) : (ofOctets octets).steps = Path.loud ⟨octets⟩ :=
  filter_names (Path.split octets)

/-- The walk to the end of a route takes no other steps. -/
theorem filter_lookupNames (route : Route) :
    route.lookupNames.filter (fun name => name != Path.here) = route.steps := by
  rw [lookupNames_eq, List.filter_append, steps]
  split <;> simp

end Route

namespace Files

/-- The end of a walk that has to end in a directory. -/
def arrive : Except Errno (Option Directory × Nat) → Except Errno (Directory × Nat)
  | .ok (some directory, links) => .ok (directory, links)
  | .ok (none, _) => .error .notDirectory
  | .error errno => .error errno

theorem arrive_eq_ok {walked : Except Errno (Option Directory × Nat)} {directory : Directory}
    {links : Nat} :
    arrive walked = .ok (directory, links) ↔ walked = .ok (some directory, links) := by
  rcases walked with errno | ⟨_ | reached, left⟩ <;> simp [arrive]

/-- What comes behind a part of a walk matters in where it arrives. -/
theorem arrive_bind {walked : Except Errno (Option Directory × Nat)}
    {next other : Option Directory × Nat → Except Errno (Option Directory × Nat)}
    (same : ∀ reached, arrive (next reached) = arrive (other reached)) :
    arrive (walked.bind next) = arrive (walked.bind other) := by
  cases walked with
  | error errno => rfl
  | ok reached => exact same reached

/-- No walk from what is no directory ends in one. -/
theorem arrive_follow_none (files : Files) (links : Nat) (names : List Bytes) :
    arrive (files.follow links none names) = .error .notDirectory := by
  cases names with
  | nil => rw [follow_nil, arrive]
  | cons name rest => rw [follow_nowhere, arrive]

/-- A walk that has to end in a directory passes over steps on the spot. -/
theorem arrive_follow (files : Files) (links : Nat) (place : Option Directory)
    (names : List Bytes) :
    arrive (files.follow links place names) =
      arrive (files.follow links place (names.filter fun name => name != Path.here)) := by
  induction names generalizing links place with
  | nil => rfl
  | cons name rest inductionHypothesis =>
    cases place with
    | none => rw [arrive_follow_none, arrive_follow_none]
    | some directory =>
      by_cases spot : name = Path.here
      · rw [spot, follow_here, inductionHypothesis, List.filter_cons_of_neg (by simp)]
      · rw [List.filter_cons_of_pos (by simpa using spot), ← List.singleton_append, follow_append,
          ← List.singleton_append (l := rest.filter _), follow_append]
        exact arrive_bind fun reached => inductionHypothesis reached.2 reached.1

/-- The walk to the last name has to end in a directory. -/
theorem followToLast_concat (files : Files) (links : Nat) (directory : Directory) {route : Route}
    {front : List Bytes} {last : Bytes} (names : route.names = front ++ [last]) :
    files.followToLast links directory route =
      (arrive (files.follow links (some (files.start route directory)) front)).map
        fun reached => some (reached.1, last, reached.2) := by
  rw [followToLast, names, List.getLast?_concat, List.dropLast_concat]
  rcases files.follow links (some (files.start route directory)) front with
    errno | ⟨_ | reached, left⟩ <;> rfl

end Files

namespace Path

/-- Two paths with the same components, both short enough for the system. -/
structure Alike (left right : Path) : Prop where
  components : left.components = right.components
  short : left.octets.length ≤ longestPath
  alsoShort : right.octets.length ≤ longestPath

namespace Alike

variable {left right : Path}

theorem symm (alike : left.Alike right) : right.Alike left :=
  ⟨alike.components.symm, alike.alsoShort, alike.short⟩

/-- The system takes both or refuses both, and their routes start in one place and take the same
steps. -/
theorem route (alike : left.Alike right) :
    (∃ error, left.route = .error error ∧ right.route = .error error) ∨
      ∃ first second, left.route = .ok first ∧ right.route = .ok second ∧
        first = .ofOctets left.octets ∧ second = .ofOctets right.octets ∧
        first.absolute = second.absolute ∧ first.steps = second.steps := by
  obtain ⟨lead, loud⟩ := components_inj.mp alike.components
  have zero : 0 ∈ left.octets ↔ 0 ∈ right.octets := by rw [zero_mem_iff, zero_mem_iff, loud]
  have empty : left.octets = [] ↔ right.octets = [] := by
    rw [octets_eq_nil_iff, octets_eq_nil_iff, lead, loud]
  by_cases holds : 0 ∈ left.octets
  · left
    refine ⟨.zeroOctet, ?_, ?_⟩
    · simp [Path.route, holds]
    · simp [Path.route, zero.mp holds]
  · by_cases none : left.octets = []
    · left
      refine ⟨.system .noEntry, ?_, ?_⟩
      · simp [Path.route, none]
      · simp [Path.route, empty.mp none]
    · right
      refine ⟨_, _, route_eq_ok.mpr ⟨holds, none, alike.short, rfl⟩,
        route_eq_ok.mpr ⟨mt zero.mpr holds, mt empty.mpr none, alike.alsoShort, rfl⟩,
        rfl, rfl, ?_, ?_⟩
      · change left.isAbsolute = right.isAbsolute
        rw [Bool.eq_iff_iff, ← lead_eq_root, ← lead_eq_root, lead]
      · rw [Route.steps_ofOctets, Route.steps_ofOctets]
        exact loud

end Alike

end Path

namespace Files

/-- Routes with one start and the same steps lead a walk that ends in a directory to the same. -/
theorem directory?_of_alike {files : Files} {left right : Path} (alike : left.Alike right)
    {directory : Directory} (found : files.directory? left = some directory) :
    files.directory? right = some directory := by
  obtain ⟨route, remaining, routed, walked⟩ := directory?_eq_some.mp found
  rcases alike.route with ⟨error, refused, _⟩ |
    ⟨first, second, one, two, _, _, absolute, steps⟩
  · cases routed.symm.trans refused
  · cases routed.symm.trans one
    have start : files.start second files.workingDirectory =
        files.start route files.workingDirectory := by
      rw [start, start, absolute]
    refine directory?_eq_some.mpr ⟨second, remaining, two, ?_⟩
    rw [← arrive_eq_ok] at walked ⊢
    rw [arrive_follow, Route.filter_lookupNames] at walked ⊢
    rw [start, ← steps]
    exact walked

/-- Paths with the same components lead to the same directories. -/
theorem directory?_alike (files : Files) {left right : Path} (alike : left.Alike right) :
    files.directory? left = files.directory? right := by
  apply Option.ext
  intro directory
  exact ⟨directory?_of_alike alike, directory?_of_alike alike.symm⟩

theorem isDirectory_alike (files : Files) {left right : Path} (alike : left.Alike right) :
    files.isDirectory left = files.isDirectory right := by
  rw [isDirectory, isDirectory, directory?_alike files alike]

/-- The last loud piece of a trimmed path is the last name of its route, and the steps in front of
that name are the other loud pieces. -/
theorem names_of_trimmed {path : Path} (trimmed : path.Trimmed) {before : List Bytes} {last : Bytes}
    (loud : path.loud = before ++ [last]) :
    ∃ front, (Route.ofOctets path.octets).names = front ++ [last] ∧
      front.filter (fun name => name != Path.here) = before := by
  obtain ⟨spoken, front, pieces, kept⟩ := trimmed.split_eq loud
  obtain ⟨some, _⟩ := Path.isSilent_eq_false.mp spoken
  refine ⟨front.filter fun name => !name.isEmpty, ?_, ?_⟩
  · rw [Route.ofOctets, pieces, List.filter_append]
    simp [some]
  · rw [Route.filter_names, kept]

/-- Trimmed paths with the same components have the same free place. -/
theorem makeDirectory_alike (files : Files) {left right : Path} (alike : left.Alike right)
    (trimmed : left.Trimmed) (also : right.Trimmed) :
    files.makeDirectory left = files.makeDirectory right := by
  obtain ⟨lead, loud⟩ := Path.components_inj.mp alike.components
  rcases List.eq_nil_or_concat' left.loud with none | ⟨before, last, whole⟩
  · rw [trimmed.eq_of_lead also lead none (loud ▸ none)]
  · rcases alike.route with ⟨error, refused, alsoRefused⟩ |
      ⟨first, second, one, two, rfl, rfl, absolute, _⟩
    · rw [makeDirectory, makeDirectory, refused, alsoRefused]
    · obtain ⟨front, names, steps⟩ := names_of_trimmed trimmed whole
      obtain ⟨otherFront, otherNames, otherSteps⟩ := names_of_trimmed also (loud ▸ whole)
      have approached : files.approach (.ofOctets left.octets) =
          files.approach (.ofOctets right.octets) := by
        rw [approach, approach, followToLast_concat files _ _ names,
          followToLast_concat files _ _ otherNames, arrive_follow, steps,
          arrive_follow files _ _ otherFront, otherSteps, start, start, absolute]
      rw [makeDirectory, makeDirectory, one, two]
      simp only [freePlace, approached]

/-- The second try ends alike. -/
theorem settleDirectory_alike (files : Files) {left right : Path} (alike : left.Alike right)
    (trimmed : left.Trimmed) (also : right.Trimmed) :
    files.settleDirectory left = files.settleDirectory right := by
  rw [settleDirectory, settleDirectory, makeDirectory_alike files alike trimmed also,
    isDirectory_alike files alike]

/-- Making a directory that has one above it. -/
theorem makeDirectories_of_parent? (files : Files) {path parent : Path}
    (up : path.parent? = some parent) (some : path.octets ≠ []) :
    files.makeDirectories path =
      match files.makeDirectory path with
      | .ok made => (.ok (), made)
      | .error error =>
        if error.kind = .notFound then
          match files.makeDirectories parent with
          | (.error error, changed) => (.error error, changed)
          | (.ok (), changed) => changed.settleDirectory path
        else if files.isDirectory path then (.ok (), files)
        else (.error error, files) := by
  rw [makeDirectories, if_neg some]
  cases files.makeDirectory path with
  | ok made => rfl
  | error error =>
    dsimp only
    split
    · split
      · rename_i top
        exact absurd (top.symm.trans up) (by simp)
      · rename_i above also
        cases also.symm.trans up
        rfl
    · rfl

/-- Making a trimmed path, with all that is missing above it, does what making another such path
with the same components does: the parents of the two are such paths again. -/
theorem makeDirectories_alike (files : Files) {left right : Path} (alike : left.Alike right)
    (trimmed : left.Trimmed) (also : right.Trimmed) :
    files.makeDirectories left = files.makeDirectories right := by
  induction whole : left.loud using List.reverseRecOn generalizing files left right with
  | nil =>
    obtain ⟨lead, loud⟩ := Path.components_inj.mp alike.components
    rw [trimmed.eq_of_lead also lead whole (loud ▸ whole)]
  | append_singleton before last inductionHypothesis =>
    obtain ⟨lead, loud⟩ := Path.components_inj.mp alike.components
    obtain ⟨up, above, upLead, upLoud, upTrimmed⟩ := trimmed.parent?_eq whole
    obtain ⟨otherUp, otherAbove, otherLead, otherLoud, otherTrimmed⟩ :=
      also.parent?_eq (loud ▸ whole)
    have parents : up.Alike otherUp := by
      refine ⟨Path.components_inj.mpr ⟨?_, ?_⟩, ?_, ?_⟩
      · rw [upLead, otherLead, lead]
      · rw [upLoud, otherLoud]
      · exact (Path.parent?_length above).le.trans alike.short
      · exact (Path.parent?_length otherAbove).le.trans alike.alsoShort
    have named {path : Path} (some : path.loud = before ++ [last]) : path.octets ≠ [] := by
      intro none
      have quiet := ((Path.octets_eq_nil_iff path).mp none).2
      exact absurd (quiet.symm.trans some) (by simp)
    rw [makeDirectories_of_parent? files above (named whole),
      makeDirectories_of_parent? files otherAbove (named (loud ▸ whole)),
      makeDirectory_alike files alike trimmed also, isDirectory_alike files alike,
      inductionHypothesis files parents upTrimmed otherTrimmed upLoud]
    simp only [settleDirectory_alike _ alike trimmed also]

end Files

end AgentKit
