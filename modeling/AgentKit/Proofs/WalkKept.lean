import AgentKit.Files.Walk
import AgentKit.Proofs.TreeLocation
/-!
# Walks that stay possible

A walk looks at one entry after the other and asks of each only how to go on: into a directory,
along a link, or no further. So a walk that arrives in one tree arrives in every tree that answers
these questions alike at the locations of the first, whatever else that tree holds, and it arrives
at the same location. That is proved by following both walks at once: the two directories reached
after each name stand at the same location, each in its own tree.

A working directory that was removed may stand again in the second tree, under the old name. A walk
from the removed one can only go up, and then goes on as in the other tree.
-/

namespace AgentKit

/-- How a walk goes on at an entry. -/
inductive Turn where
  | enter
  | detour (target : Bytes)
  | stop

namespace Entry

/-- Directories are entered and links followed. -/
def turn : Entry → Turn
  | .directory _ => .enter
  | .link target => .detour target
  | .file _ | .device _ => .stop

@[simp] theorem turn_bare (entry : Entry) : entry.bare.turn = entry.turn := by
  cases entry <;> rfl

/-- Only a link makes a detour. -/
theorem turn_eq_detour {entry : Entry} {target : Bytes} :
    entry.turn = .detour target ↔ entry = .link target := by
  cases entry <;> simp [turn]

end Entry

/-- Wherever a walk can look in one tree, it finds the same way to go on in another. -/
def WaysKept (before after : Members) : Prop :=
  ∀ location entry, (Entry.directory before).outline? location = some entry →
    ∃ now, (Entry.directory after).outline? location = some now ∧ now.turn = entry.turn

namespace Directory

/-- Directories at the same location, perhaps of two trees. One that was removed may have been put
back under its name, empty or not. -/
inductive Matches : Directory → Directory → Prop where
  | standing (members others : Members) (around further : List (Bytes × Members))
      (same : around.map Prod.fst = further.map Prod.fst) :
      Matches (.standing members around) (.standing others further)
  | removed (above other : Directory) (matched : Matches above other) :
      Matches (.removed above) (.removed other)
  | restored (above : Directory) (name : Bytes) (members outer : Members)
      (around : List (Bytes × Members)) (matched : Matches above (.standing outer around)) :
      Matches (.removed above) (.standing members ((name, outer) :: around))

/-- A directory of one tree and the one at the same location of another. -/
structure Corresponds (before after : Members) (directory other : Directory) : Prop where
  inside : directory.Inside before
  within : other.Inside after
  matched : directory.Matches other

/-- Every directory is at its own location. -/
theorem Matches.itself (directory : Directory) : directory.Matches directory := by
  induction directory with
  | standing members around => exact .standing members members around around rfl
  | removed above inductionHypothesis => exact .removed above above inductionHypothesis

variable {before after : Members} {directory other : Directory}

/-- A look that does not fail is one at a directory that was not removed, and shows what the
directory holds. -/
theorem look_ok {name : Bytes} {found : Option Entry} (looked : directory.look name = .ok found) :
    ∃ members around, directory = .standing members around ∧ name.length ≤ longestName ∧
      Members.entry? members name = found := by
  cases directory with
  | standing members around =>
    simp only [look] at looked
    split at looked
    · cases looked
    · rename_i short
      exact ⟨members, around, rfl, Nat.le_of_not_lt short, Except.ok.inj looked⟩
  | removed above => cases looked

/-- A name of allowed length is looked up among the members. -/
theorem look_standing {name : Bytes} (members : Members) (around : List (Bytes × Members))
    (short : name.length ≤ longestName) :
    (Directory.standing members around).look name = .ok (Members.entry? members name) := by
  rw [look, if_neg (Nat.not_lt.mpr short)]

/-- Roots correspond. -/
theorem Corresponds.root (before after : Members) :
    Corresponds before after (.root before) (.root after) :=
  ⟨.root, .root, .standing before after [] [] rfl⟩

/-- The location of a directory is that of the one it corresponds to. -/
theorem Corresponds.location? {location : Location}
    (corresponds : Corresponds before after directory other)
    (here : directory.location? = some location) : other.location? = some location := by
  obtain ⟨_, _, matched⟩ := corresponds
  cases matched with
  | standing members others around further same =>
    rw [Directory.location?, ← same]
    exact here
  | removed above other matched => cases here
  | restored above name members outer around matched => cases here

/-- What is above corresponds. -/
theorem Corresponds.up (corresponds : Corresponds before after directory other) :
    Corresponds before after directory.up other.up := by
  obtain ⟨inside, within, matched⟩ := corresponds
  refine ⟨inside.up, within.up, ?_⟩
  cases matched with
  | standing members others around further same =>
    cases around with
    | nil =>
      cases List.map_eq_nil_iff.mp same.symm
      exact .standing members others [] [] rfl
    | cons link rest =>
      cases further with
      | nil => cases same
      | cons second others => exact .standing link.2 second.2 rest others (List.cons.inj same).2
  | removed above other matched => exact matched
  | restored above name members outer around matched => exact matched

/-- Under a name that one directory holds, the other holds an entry with the same turn, and behind
directories under that name there are corresponding directories. -/
theorem Corresponds.entry? (kept : WaysKept before after)
    (corresponds : Corresponds before after directory other) {name : Bytes} {entry : Entry}
    (held : Members.entry? directory.members name = some entry) :
    ∃ now, Members.entry? other.members name = some now ∧ now.turn = entry.turn ∧
      Option.Rel (Corresponds before after) (directory.down? name entry)
        (other.down? name now) := by
  obtain ⟨inside, within, matched⟩ := corresponds
  cases matched with
  | standing members others around further same =>
    have observed := inside.outline? name
    change Members.entry? members name = some entry at held
    rw [held] at observed
    obtain ⟨now, seen, turn⟩ := kept _ _ observed
    rw [same, within.outline? name] at seen
    obtain ⟨there, put, rfl⟩ := Option.map_eq_some_iff.mp seen
    rw [Entry.turn_bare, Entry.turn_bare] at turn
    refine ⟨there, put, turn, ?_⟩
    cases entry with
    | directory inner =>
      cases there with
      | directory second =>
        refine .some ⟨.down name inner members around inside held,
          .down name second others further within put, ?_⟩
        exact .standing inner second _ _ (congrArg (name :: ·) same)
      | file contents => cases turn
      | link target => cases turn
      | device kind => cases turn
    | file contents => cases there <;> first | exact .none | cases turn
    | link target => cases there <;> first | exact .none | cases turn
    | device kind => cases there <;> first | exact .none | cases turn
  | removed above other matched => cases held
  | restored above name members outer around matched => cases held

/-- What is observed under a name of a directory's location stands in the corresponding
directory. -/
theorem Corresponds.holds {members : Members} {around : List (Bytes × Members)} {name : Bytes}
    {entry : Entry} (corresponds : Corresponds before after (.standing members around) other)
    (observed : (Entry.directory after).outline? ((around.map Prod.fst).reverse ++ [name]) =
      some entry) :
    ∃ others further now, other = .standing others further ∧
      around.map Prod.fst = further.map Prod.fst ∧
      Members.entry? others name = some now ∧ now.bare = entry := by
  obtain ⟨_, within, matched⟩ := corresponds
  cases matched with
  | standing _ others _ further same =>
    rw [same, within.outline? name] at observed
    obtain ⟨now, held, bare⟩ := Option.map_eq_some_iff.mp observed
    exact ⟨others, further, now, rfl, same, held, bare⟩

/-- A successful look succeeds in the corresponding directory. -/
theorem Corresponds.look (kept : WaysKept before after)
    (corresponds : Corresponds before after directory other) {name : Bytes} {entry : Entry}
    (looked : directory.look name = .ok (some entry)) :
    ∃ now, other.look name = .ok (some now) ∧ now.turn = entry.turn ∧
      Option.Rel (Corresponds before after) (directory.down? name entry)
        (other.down? name now) := by
  obtain ⟨members, around, rfl, short, held⟩ := look_ok looked
  obtain ⟨now, found, turn, further⟩ := corresponds.entry? kept held
  refine ⟨now, ?_, turn, further⟩
  cases corresponds.matched with
  | standing _ others _ outside _ =>
    rw [look_standing others outside short]
    exact congrArg Except.ok found

/-- The directory under a name corresponds. -/
theorem Corresponds.inner? (kept : WaysKept before after)
    (corresponds : Corresponds before after directory other) {name : Bytes} {inner : Directory}
    (stands : directory.inner? name = some inner) :
    ∃ second, other.inner? name = some second ∧ Corresponds before after inner second := by
  obtain ⟨entry, held, went⟩ := Option.bind_eq_some_iff.mp stands
  obtain ⟨now, found, _, further⟩ := corresponds.entry? kept held
  rw [went] at further
  cases goes : other.down? name now with
  | none =>
    rw [goes] at further
    cases further
  | some second =>
    rw [goes] at further
    cases further with
    | some corresponding =>
      exact ⟨second, by rw [Directory.inner?, found, Option.bind_some, goes], corresponding⟩

/-- A directory that stands under a name of the other tree only is one that was put back. -/
theorem Corresponds.restored (corresponds : Corresponds before after directory other)
    {name : Bytes} {second : Directory} (stands : other.inner? name = some second) :
    Corresponds before after (.removed directory) second := by
  obtain ⟨entry, held, went⟩ := Option.bind_eq_some_iff.mp stands
  refine ⟨.removed directory corresponds.inside, corresponds.within.down? held went, ?_⟩
  have matched := corresponds.matched
  cases other with
  | standing outer around =>
    cases entry with
    | directory members =>
      cases went
      exact .restored directory name members outer around matched
    | file contents => cases went
    | link target => cases went
    | device kind => cases went
  | removed above => cases went

/-- Names lead to corresponding directories. -/
theorem Corresponds.descend (kept : WaysKept before after)
    (corresponds : Corresponds before after directory other) (names : Location) :
    Corresponds before after (directory.descend names) (other.descend names) := by
  induction names generalizing directory other with
  | nil => exact corresponds
  | cons name later inductionHypothesis =>
    apply inductionHypothesis
    cases found : directory.inner? name with
    | some inner =>
      obtain ⟨second, stands, corresponding⟩ := corresponds.inner? kept found
      rw [stands]
      exact corresponding
    | none =>
      cases stands : other.inner? name with
      | some second => exact corresponds.restored stands
      | none =>
        exact ⟨.removed directory corresponds.inside, .removed other corresponds.within,
          .removed directory other corresponds.matched⟩

/-- Removed directories above corresponding ones correspond. -/
theorem Corresponds.repeat (corresponds : Corresponds before after directory other) (count : Nat) :
    Corresponds before after (Nat.repeat .removed count directory)
      (Nat.repeat .removed count other) := by
  induction count with
  | zero => exact corresponds
  | succ count inductionHypothesis =>
    exact ⟨.removed _ inductionHypothesis.inside, .removed _ inductionHypothesis.within,
      .removed _ _ inductionHypothesis.matched⟩

/-- Repetitions add up. -/
theorem repeat_add (change : Directory → Directory) (later first : Nat) (directory : Directory) :
    Nat.repeat change (later + first) directory =
      Nat.repeat change later (Nat.repeat change first directory) := by
  induction later with
  | zero => rw [Nat.zero_add]; rfl
  | succ later inductionHypothesis =>
    rw [Nat.succ_add]
    exact congrArg change inductionHypothesis

/-- No name of a removed directory leads on. -/
theorem descend_removed (above : Directory) (names : Location) :
    (Directory.removed above).descend names = Nat.repeat .removed (names.length + 1) above := by
  induction names generalizing above with
  | nil => rfl
  | cons name later inductionHypothesis =>
    have gone : (Directory.removed above).descend (name :: later) =
        (Directory.removed (.removed above)).descend later := rfl
    rw [gone, inductionHypothesis]
    exact (repeat_add .removed (later.length + 1) 1 above).symm

/-- Behind the names that lead on, every further name is one of a removed directory. -/
theorem descend_leading (directory : Directory) (names : Location) :
    directory.descend names =
      Nat.repeat .removed (names.length - (directory.leading names).length)
        (directory.descend (directory.leading names)) := by
  induction names generalizing directory with
  | nil => rfl
  | cons name later inductionHypothesis =>
    cases found : directory.inner? name with
    | some inner =>
      have further := inductionHypothesis inner
      simp only [descend, leading, found, Option.getD_some, List.length_cons,
        Nat.add_sub_add_right]
      exact further
    | none =>
      simp only [descend, leading, found, Option.getD_none, List.length_nil, Nat.sub_zero]
      exact descend_removed directory later

end Directory

namespace Files

/-- Whatever way a walk has in the first tree it has in the second, from the root and from the
working directory. -/
structure Keeps (before after : Files) : Prop where
  ways : WaysKept before.root after.root
  working : Directory.Corresponds before.root after.root before.workingDirectory
    after.workingDirectory

/-- Nothing keeps all ways. -/
theorem Keeps.itself (files : Files) : files.Keeps files :=
  ⟨fun _ entry observed => ⟨entry, observed, rfl⟩, files.workingDirectory_inside,
    files.workingDirectory_inside, .itself _⟩

/-- The working directory after a change is found under its old names, as far as they lead. -/
theorem workingDirectory_replace (files : Files) (directory : Directory) :
    (files.replace directory).workingDirectory =
      Nat.repeat .removed files.removed
        ((Directory.root directory.whole).descend files.working) := by
  rw [Directory.descend_leading, ← Directory.repeat_add]
  rfl

/-- A change that keeps the ways of the tree keeps those from the working directory too. -/
theorem keeps_replace (files : Files) (directory : Directory)
    (ways : WaysKept files.root directory.whole) : files.Keeps (files.replace directory) := by
  refine ⟨ways, ?_⟩
  rw [workingDirectory_replace]
  exact ((Directory.Corresponds.root _ _).descend ways files.working).repeat files.removed

/-- An entry with nothing below it, in the place of such an entry with the same turn or of nothing,
keeps all ways. -/
theorem keeps_put (files : Files) {members : Members} {around : List (Bytes × Members)}
    (within : Directory.Inside files.root (.standing members around)) (name : Bytes) (new : Entry)
    (leaf : new.IsLeaf) (old : ∀ entry, Members.entry? members name = some entry →
      entry.IsLeaf ∧ entry.turn = new.turn) :
    files.Keeps (files.replace ((Directory.standing members around).put name new)) := by
  apply keeps_replace
  intro location entry observed
  have outline := files.outline?_replace_put within name new leaf
    (fun held found => (old held found).1) location
  by_cases there : location = (around.map Prod.fst).reverse ++ [name]
  · rw [if_pos there] at outline
    refine ⟨new.bare, outline, ?_⟩
    rw [there, within.outline? name] at observed
    obtain ⟨held, found, rfl⟩ := Option.map_eq_some_iff.mp observed
    rw [Entry.turn_bare, Entry.turn_bare, (old held found).2]
  · rw [if_neg there] at outline
    exact ⟨entry, outline.trans observed, rfl⟩

/-- What one walk starts in corresponds to what the other starts in. -/
theorem start_corresponds {before after : Files} {directory other : Directory}
    (corresponds : Directory.Corresponds before.root after.root directory other) (route : Route) :
    Directory.Corresponds before.root after.root (before.start route directory)
      (after.start route other) := by
  unfold start
  split
  · exact .root _ _
  · exact corresponds

/-- A walk that arrives, arrives in the second tree as well, at the same place and with the same
links left. Proof: along the walk, which both trees turn alike at every name. -/
theorem Keeps.follow {before after : Files} (keeps : before.Keeps after) {links remaining : Nat}
    {place reached other : Option Directory} {names : List Bytes}
    (walked : before.follow links place names = .ok (reached, remaining))
    (corresponds : Option.Rel (Directory.Corresponds before.root after.root) place other) :
    ∃ arrived, after.follow links other names = .ok (arrived, remaining) ∧
      Option.Rel (Directory.Corresponds before.root after.root) reached arrived := by
  induction links, place, names using follow_induct before generalizing other with
  | nil links place =>
    rw [follow_nil] at walked
    cases walked
    exact ⟨other, follow_nil after _ _, corresponds⟩
  | nowhere links name rest =>
    rw [follow_nowhere] at walked
    cases walked
  | here links directory rest inductionHypothesis =>
    rw [follow_here] at walked
    cases corresponds with
    | some corresponding =>
      rw [follow_here]
      exact inductionHypothesis walked (.some corresponding)
  | above links directory rest inductionHypothesis =>
    rw [follow_above] at walked
    cases corresponds with
    | some corresponding =>
      rw [follow_above]
      exact inductionHypothesis walked (.some corresponding.up)
  | refused links directory name rest errno real looked =>
    rw [follow_refused before links directory name rest real looked] at walked
    cases walked
  | missing links directory name rest real looked =>
    rw [follow_missing before links directory name rest real looked] at walked
    cases walked
  | exhausted directory name rest target real looked =>
    rw [follow_exhausted before directory name target rest real looked] at walked
    cases walked
  | link fewer directory name rest target real looked inductionHypothesis =>
    rw [follow_link before fewer directory name target rest real looked] at walked
    cases corresponds with
    | some corresponding =>
      obtain ⟨now, looks, turn, _⟩ := corresponding.look keeps.ways looked
      rw [Entry.turn_eq_detour.mp turn] at looks
      rw [follow_link after fewer _ name target rest real looks]
      exact inductionHypothesis walked (.some (start_corresponds corresponding _))
  | entry links directory name rest entry real looked direct inductionHypothesis =>
    rw [follow_entry before links directory name entry rest real looked direct] at walked
    cases corresponds with
    | some corresponding =>
      obtain ⟨now, looks, turn, further⟩ := corresponding.look keeps.ways looked
      have noLink : ∀ target, now ≠ .link target := by
        rintro target rfl
        exact direct target (Entry.turn_eq_detour.mp turn.symm)
      rw [follow_entry after links _ name now rest real looks noLink]
      exact inductionHypothesis walked further

/-- A walk from a directory of the tree arrives at one. -/
theorem follow_inside {files : Files} {links remaining : Nat} {directory reached : Directory}
    {names : List Bytes} (inside : directory.Inside files.root)
    (walked : files.follow links (some directory) names = .ok (some reached, remaining)) :
    reached.Inside files.root := by
  obtain ⟨arrived, _, corresponds⟩ :=
    (Keeps.itself files).follow walked (.some ⟨inside, inside, .itself directory⟩)
  cases corresponds with
  | some corresponding => exact corresponding.inside

/-- The start of a walk is a directory of the tree. -/
theorem start_inside (files : Files) (route : Route) {directory : Directory}
    (inside : directory.Inside files.root) : (files.start route directory).Inside files.root := by
  unfold start
  split
  · exact .root
  · exact inside

/-- Where a path leads to a directory of the tree. -/
def place? (files : Files) (path : Path) : Option Location :=
  (files.directory? path).bind Directory.location?

/-- Only a directory is in a place. -/
theorem isDirectory_of_place? {files : Files} {path : Path} {location : Location}
    (leads : files.place? path = some location) : files.isDirectory path = true := by
  obtain ⟨directory, reached, _⟩ := Option.bind_eq_some_iff.mp leads
  exact Option.isSome_iff_exists.mpr ⟨directory, reached⟩

/-- A path leads to a directory by a walk along its route. -/
theorem directory?_eq_some {files : Files} {path : Path} {directory : Directory} :
    files.directory? path = some directory ↔ ∃ route remaining, path.route = .ok route ∧
      files.follow linkLimit (some (files.start route files.workingDirectory))
        route.lookupNames = .ok (some directory, remaining) := by
  unfold directory? locate
  cases routed : path.route with
  | error error => simp
  | ok route =>
    cases walked : files.follow linkLimit (some (files.start route files.workingDirectory))
      route.lookupNames with
    | error errno =>
      have stopped : (files.reach route).mapError IoError.system = .error (.system errno) := by
        rw [reach, walked]
        rfl
      simp [stopped, walked]
    | ok result =>
      obtain ⟨place, remaining⟩ := result
      have reached : (files.reach route).mapError IoError.system = .ok place := by
        rw [reach, walked]
        rfl
      simp [reached, walked]

namespace Keeps

variable {before after : Files}

/-- A path that leads to a directory leads to the corresponding one. -/
theorem directory? (keeps : before.Keeps after) {path : Path} {directory : Directory}
    (found : before.directory? path = some directory) :
    ∃ other, after.directory? path = some other ∧
      Directory.Corresponds before.root after.root directory other := by
  obtain ⟨route, remaining, routed, walked⟩ := directory?_eq_some.mp found
  obtain ⟨arrived, walks, corresponds⟩ :=
    keeps.follow walked (.some (start_corresponds keeps.working route))
  cases corresponds with
  | some corresponding =>
    exact ⟨_, directory?_eq_some.mpr ⟨route, remaining, routed, walks⟩, corresponding⟩

/-- A path that leads to a directory goes on leading to one. -/
theorem isDirectory (keeps : before.Keeps after) {path : Path}
    (found : before.isDirectory path = true) : after.isDirectory path = true := by
  obtain ⟨directory, reached⟩ := Option.isSome_iff_exists.mp found
  obtain ⟨other, reaches, _⟩ := keeps.directory? reached
  exact Option.isSome_iff_exists.mpr ⟨other, reaches⟩

/-- It leads to the same place. -/
theorem place? (keeps : before.Keeps after) {path : Path} {location : Location}
    (found : before.place? path = some location) : after.place? path = some location := by
  obtain ⟨directory, reached, here⟩ := Option.bind_eq_some_iff.mp found
  obtain ⟨other, reaches, corresponds⟩ := keeps.directory? reached
  exact Option.bind_eq_some_iff.mpr ⟨other, reaches, corresponds.location? here⟩

end Keeps

end Files

end AgentKit
