import AgentKit.Files.Walk
import AgentKit.Proofs.PathPieces
import AgentKit.Proofs.WalkKept
import Mathlib.Data.List.Basic
/-!
# Walks in parts

A walk along some names and then along others is one walk along all of them. So a path that leads to
a directory leads to one in front of its last name too, and every path above it leads to a directory
itself: the names of a parent are the first names of its path.
-/

namespace AgentKit

namespace Route

/-- The names to follow are the names between slashes, and one step on the spot for a slash at the
end. -/
theorem lookupNames_eq (route : Route) :
    route.lookupNames = route.names ++ if route.slashed then [Path.here] else [] := by
  unfold lookupNames
  split <;> simp

end Route

namespace Files

/-- A walk along names and then along more names. -/
theorem follow_append (files : Files) (links : Nat) (place : Option Directory)
    (front back : List Bytes) :
    files.follow links place (front ++ back) =
      (files.follow links place front).bind fun reached =>
        files.follow reached.2 reached.1 back := by
  induction links, place, front using follow_induct files with
  | nil links place =>
    rw [List.nil_append, follow_nil]
    rfl
  | nowhere links name rest =>
    rw [List.cons_append, follow_nowhere, follow_nowhere]
    rfl
  | here links directory rest inductionHypothesis =>
    rw [List.cons_append, follow_here, follow_here, inductionHypothesis]
  | above links directory rest inductionHypothesis =>
    rw [List.cons_append, follow_above, follow_above, inductionHypothesis]
  | refused links directory name rest errno real looked =>
    rw [List.cons_append, follow_refused files links directory name _ real looked,
      follow_refused files links directory name _ real looked]
    rfl
  | missing links directory name rest real looked =>
    rw [List.cons_append, follow_missing files links directory name _ real looked,
      follow_missing files links directory name _ real looked]
    rfl
  | exhausted directory name rest target real looked =>
    rw [List.cons_append, follow_exhausted files directory name target _ real looked,
      follow_exhausted files directory name target _ real looked]
    rfl
  | link fewer directory name rest target real looked inductionHypothesis =>
    rw [List.cons_append, follow_link files fewer directory name target _ real looked,
      follow_link files fewer directory name target _ real looked, ← List.append_assoc,
      inductionHypothesis]
  | entry links directory name rest entry real looked direct inductionHypothesis =>
    rw [List.cons_append, follow_entry files links directory name entry _ real looked direct,
      follow_entry files links directory name entry _ real looked direct, inductionHypothesis]

/-- A walk that arrives passes through the place behind its first names. -/
theorem follow_append_ok {files : Files} {links remaining : Nat}
    {place reached : Option Directory} {front back : List Bytes} :
    files.follow links place (front ++ back) = .ok (reached, remaining) ↔
      ∃ between left, files.follow links place front = .ok (between, left) ∧
        files.follow left between back = .ok (reached, remaining) := by
  rw [follow_append]
  cases files.follow links place front with
  | error errno => simp [Except.bind]
  | ok result =>
    obtain ⟨between, left⟩ := result
    constructor
    · exact fun walked => ⟨between, left, rfl, walked⟩
    · rintro ⟨_, _, same, walked⟩
      cases same
      exact walked

/-- Nothing can be followed from what is no directory. -/
theorem follow_none {files : Files} {links remaining : Nat} {reached : Option Directory}
    {names : List Bytes} (walked : files.follow links none names = .ok (reached, remaining)) :
    names = [] := by
  cases names with
  | nil => rfl
  | cons name rest =>
    rw [follow_nowhere] at walked
    cases walked

/-- A step on the spot stays in the directory. -/
theorem follow_slash (files : Files) (links : Nat) (directory : Directory) (slashed : Bool) :
    files.follow links (some directory) (if slashed then [Path.here] else []) =
      .ok (some directory, links) := by
  split
  · rw [follow_here, follow_nil]
  · exact follow_nil files links _

/-- Steps on the spot lead nowhere else. -/
theorem follow_heres (files : Files) (links : Nat) (directory : Directory) (names : List Bytes)
    (heres : ∀ name ∈ names, name = Path.here) :
    files.follow links (some directory) names = .ok (some directory, links) := by
  induction names with
  | nil => exact follow_nil files links _
  | cons name rest inductionHypothesis =>
    rw [heres name List.mem_cons_self, follow_here]
    exact inductionHypothesis fun other member => heres other (List.mem_cons_of_mem _ member)

/-- The walk to the last name of a route goes along the names in front of it. -/
theorem followToLast_eq_some {files : Files} {links remaining : Nat} {directory above : Directory}
    {route : Route} {name : Bytes} :
    files.followToLast links directory route = .ok (some (above, name, remaining)) ↔
      ∃ front, route.names = front ++ [name] ∧
        files.follow links (some (files.start route directory)) front =
          .ok (some above, remaining) := by
  unfold followToLast
  rcases List.eq_nil_or_concat' route.names with none | ⟨front, last, names⟩
  · simp [none]
  · rw [names, List.getLast?_concat, List.dropLast_concat]
    cases walked : files.follow links (some (files.start route directory)) front with
    | error errno =>
      simp [walked]
    | ok result =>
      obtain ⟨_ | between, left⟩ := result
      · simp [walked]
      · simp [walked, and_left_comm]

/-- A walk that goes on behind a name that is no step finds an entry under it. -/
theorem follow_name_ok {files : Files} {links remaining : Nat} {directory : Directory}
    {reached : Option Directory} {name : Bytes} {rest : List Bytes} (real : isStep name = false)
    (walked : files.follow links (some directory) (name :: rest) = .ok (reached, remaining)) :
    ∃ entry, directory.look name = .ok (some entry) := by
  cases looked : directory.look name with
  | error errno =>
    rw [follow_refused files links directory name rest real looked] at walked
    cases walked
  | ok found =>
    cases found with
    | none =>
      rw [follow_missing files links directory name rest real looked] at walked
      cases walked
    | some entry => exact ⟨entry, rfl⟩

/-- A path that leads to a directory leads to one in front of its last name, and there is an entry
under that name unless it is a step. -/
theorem approach_of_isDirectory {files : Files} {path : Path} {route : Route}
    (routed : path.route = .ok route) (found : files.isDirectory path = true) :
    files.approach route = .ok none ∨ ∃ above name remaining,
      files.approach route = .ok (some (above, name, remaining)) ∧
        (isStep name = true ∨ ∃ entry, above.look name = .ok (some entry)) := by
  obtain ⟨directory, reached⟩ := Option.isSome_iff_exists.mp found
  obtain ⟨same, remaining, routes, walked⟩ := directory?_eq_some.mp reached
  cases routed.symm.trans routes
  rcases List.eq_nil_or_concat' route.names with none | ⟨front, name, names⟩
  · left
    simp [approach, followToLast, none]
  · right
    rw [Route.lookupNames_eq, names, List.append_assoc] at walked
    obtain ⟨between, left, first, further⟩ := follow_append_ok.mp walked
    cases between with
    | none => exact absurd (follow_none further) (by simp)
    | some above =>
      refine ⟨above, name, left, followToLast_eq_some.mpr ⟨front, names, first⟩, ?_⟩
      cases step : isStep name with
      | true => exact .inl rfl
      | false => exact .inr (follow_name_ok step further)

/-- A path leads to the directory that stands under its last name. -/
theorem place?_of_last {files : Files} {path : Path} {route : Route} {front : List Bytes}
    {name : Bytes} {members inner : Members} {around : List (Bytes × Members)} {remaining : Nat}
    (routed : path.route = .ok route) (names : route.names = front ++ [name])
    (real : isStep name = false)
    (walked : files.follow linkLimit (some (files.start route files.workingDirectory)) front =
      .ok (some (.standing members around), remaining))
    (short : name.length ≤ longestName)
    (held : Members.entry? members name = some (.directory inner)) :
    files.place? path = some ((around.map Prod.fst).reverse ++ [name]) := by
  have looked : (Directory.standing members around).look name = .ok (some (.directory inner)) := by
    rw [Directory.look_standing members around short, held]
  have last := follow_entry files remaining _ name _
    (if route.slashed then [Path.here] else []) real looked (by simp)
  have found : files.directory? path = some (.standing inner ((name, members) :: around)) := by
    refine directory?_eq_some.mpr ⟨route, remaining, routed, ?_⟩
    rw [Route.lookupNames_eq, names, List.append_assoc]
    refine follow_append_ok.mpr ⟨_, _, walked, ?_⟩
    rw [List.singleton_append, last]
    exact follow_slash files remaining _ route.slashed
  rw [place?, found]
  simp [Directory.location?]

end Files

/-- The system takes a path of allowed length that is not empty and holds no zero octet. -/
theorem Path.route_eq_ok {path : Path} {route : Route} :
    path.route = .ok route ↔ 0 ∉ path.octets ∧ path.octets ≠ [] ∧
      path.octets.length ≤ longestPath ∧ route = .ofOctets path.octets := by
  unfold Path.route
  by_cases zero : 0 ∈ path.octets
  · simp [zero]
  · by_cases empty : path.octets = []
    · simp [empty]
    · by_cases long : longestPath < path.octets.length
      · simp [zero, empty, long, Nat.not_le_of_lt long]
      · simp [zero, empty, long, Nat.le_of_not_lt long, eq_comm]

/-- A path of silent pieces leads to where it starts. -/
theorem Files.isDirectory_of_silent {files : Files} {path : Path} {route : Route}
    (routed : path.route = .ok route)
    (silent : ∀ piece ∈ Path.split path.octets, Path.isSilent piece = true) :
    files.isDirectory path = true := by
  obtain ⟨_, _, _, rfl⟩ := Path.route_eq_ok.mp routed
  have heres : ∀ name ∈ (Route.ofOctets path.octets).lookupNames, name = Path.here := by
    intro name member
    rw [Route.lookupNames_eq] at member
    rcases List.mem_append.mp member with named | slash
    · obtain ⟨piece, some⟩ := List.mem_filter.mp named
      have quiet := silent name piece
      rcases name with _ | _
      · cases some
      · simpa [Path.isSilent] using quiet
    · split at slash
      · exact List.mem_singleton.mp slash
      · cases slash
  exact Option.isSome_iff_exists.mpr
    ⟨_, Files.directory?_eq_some.mpr ⟨_, _, routed, Files.follow_heres files _ _ _ heres⟩⟩

/-- The names of a parent are the first names of its path, and more come behind them. The system
refuses a parent only if it is empty. -/
theorem Path.route_parent {path parent : Path} {route : Route} (routed : path.route = .ok route)
    (up : path.parent? = some parent) (some : parent.octets ≠ []) :
    ∃ upper further, parent.route = .ok upper ∧ upper.absolute = route.absolute ∧
      route.names = upper.names ++ further ∧ further ≠ [] := by
  obtain ⟨zero, _, long, rfl⟩ := Path.route_eq_ok.mp routed
  have front := Path.parent?_front up
  have upper : parent.route = .ok (.ofOctets parent.octets) := by
    refine Path.route_eq_ok.mpr ⟨?_, some, Nat.le_trans front.length_le long, rfl⟩
    exact fun member => zero (front.subset member)
  have same : parent.octets.head? = path.octets.head? := by
    obtain ⟨rest, whole⟩ := front
    rw [← whole, List.head?_append_of_ne_nil _ some]
  rcases Path.parent?_cases up with empty | ⟨kept, left, pieces, _, ⟨name, member, loud⟩, cases⟩
  · exact absurd empty some
  · have names : (Path.split parent.octets).filter (fun name => !name.isEmpty) =
        kept.filter fun name => !name.isEmpty := by
      rcases cases with ⟨inner, _⟩ | ⟨_, rfl, root⟩
      · rw [inner, Path.split_unsplit kept (by assumption)]
        intro piece member
        apply Path.slash_not_mem_split path.octets
        rw [pieces]
        exact List.mem_append_left _ member
      · rw [root]
        rfl
    refine ⟨_, left.filter fun name => !name.isEmpty, upper, ?_, ?_, ?_⟩
    · simp [Route.ofOctets, Path.isAbsolute, same]
    · rw [Route.ofOctets, Route.ofOctets, pieces, List.filter_append, names]
    · apply List.ne_nil_of_mem (a := name)
      refine List.mem_filter.mpr ⟨member, ?_⟩
      cases name with
      | nil => cases loud
      | cons octet rest => rfl

/-- What is above a directory is a directory. -/
theorem Files.isDirectory_parent {files : Files} {path parent : Path}
    (up : path.parent? = some parent) (some : parent.octets ≠ [])
    (found : files.isDirectory path = true) : files.isDirectory parent = true := by
  obtain ⟨directory, reached⟩ := Option.isSome_iff_exists.mp found
  obtain ⟨route, remaining, routed, walked⟩ := Files.directory?_eq_some.mp reached
  obtain ⟨upper, further, routes, absolute, names, more⟩ := Path.route_parent routed up some
  rw [Route.lookupNames_eq, names, List.append_assoc] at walked
  obtain ⟨between, left, first, rest⟩ := Files.follow_append_ok.mp walked
  cases between with
  | none =>
    have none := Files.follow_none rest
    exact absurd (List.append_eq_nil_iff.mp none).1 more
  | some above =>
    refine Option.isSome_iff_exists.mpr
      ⟨above, Files.directory?_eq_some.mpr ⟨upper, left, routes, ?_⟩⟩
    have start : files.start upper files.workingDirectory =
        files.start route files.workingDirectory := by
      rw [Files.start, Files.start, absolute]
    rw [Route.lookupNames_eq, start]
    exact Files.follow_append_ok.mpr
      ⟨_, _, first, Files.follow_slash files left above upper.slashed⟩

end AgentKit
