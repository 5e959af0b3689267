import AgentKit.Files.Basic
/-!
# What stands where in a tree of files

A tree is observed at its locations: the names from the root down say what stands there, an entry of
some kind with its contents or its target, and a directory without its members, which stand at
longer locations. Two trees with the same outline hold the same files, whatever the order in which
their members are listed.

A directory in its place belongs to a tree when every directory around it holds the next one under
the name that leads on. When such a directory gets an entry, the outline of the whole tree changes
at the location of that entry and nowhere else.
-/

namespace AgentKit

namespace Members

/-- What stands under other names stays without one of them. -/
theorem entry?_without (members : Members) {name other : Bytes} (differs : other ≠ name) :
    Members.entry? (members.without name) other = Members.entry? members other := by
  induction members with
  | nil => rfl
  | cons member later inductionHypothesis =>
    obtain ⟨held, entry⟩ := member
    simp only [without, entry?] at inductionHypothesis ⊢
    by_cases same : held = name
    · have passed : (other == name) = false := by simp [differs]
      simp [same, List.lookup_cons, passed, inductionHypothesis]
    · simp [same, List.lookup_cons, inductionHypothesis]

/-- What stands under other names stays when an entry is put under one. -/
theorem entry?_put_other (members : Members) {name other : Bytes} (entry : Entry)
    (differs : other ≠ name) :
    Members.entry? (members.put name entry) other = Members.entry? members other := by
  have passed : (other == name) = false := by simp [differs]
  rw [put, entry?, List.lookup_cons, passed]
  exact entry?_without members differs

end Members

namespace Entry

/-- What stands at a location below an entry. The entry itself stands at the empty one. -/
def at? (entry : Entry) : Location → Option Entry
  | [] => some entry
  | name :: later =>
    match entry with
    | .directory members => (Members.entry? members name).bind fun inner => inner.at? later
    | .file _ | .link _ | .device _ => none

/-- An entry without what it holds. -/
def bare : Entry → Entry
  | .directory _ => .directory []
  | .file contents => .file contents
  | .link target => .link target
  | .device kind => .device kind

/-- What is observed at a location below an entry. -/
def outline? (entry : Entry) (location : Location) : Option Entry :=
  (entry.at? location).map bare

/-- Nothing stands below an entry. -/
def IsLeaf (entry : Entry) : Prop := ∀ name later, entry.at? (name :: later) = none

@[simp] theorem at?_nil (entry : Entry) : entry.at? [] = some entry := rfl

@[simp] theorem at?_directory_cons (members : Members) (name : Bytes) (later : Location) :
    (Entry.directory members).at? (name :: later) =
      (Members.entry? members name).bind fun inner => inner.at? later := rfl

/-- A location in two parts is gone down in two parts. -/
theorem at?_append (entry : Entry) (front back : Location) :
    entry.at? (front ++ back) = (entry.at? front).bind fun inner => inner.at? back := by
  induction front generalizing entry with
  | nil => rfl
  | cons name later inductionHypothesis =>
    cases entry with
    | directory members =>
      rw [List.cons_append, at?_directory_cons, at?_directory_cons, Option.bind_assoc]
      congr 1
      funext inner
      exact inductionHypothesis inner
    | file contents => rfl
    | link target => rfl
    | device device => rfl

/-- A directory that holds nothing has nothing below it, and neither has what is no directory. -/
theorem isLeaf_of_bare (entry : Entry) : entry.bare.IsLeaf := by
  cases entry <;> exact fun name later => rfl

/-- Only a directory is observed as one. -/
theorem eq_directory_of_bare {entry : Entry} (bare : entry.bare = .directory []) :
    ∃ members, entry = .directory members := by
  cases entry with
  | directory members => exact ⟨members, rfl⟩
  | file contents => cases bare
  | link target => cases bare
  | device kind => cases bare

/-- One entry is the other but for what stands at one location, and nothing stands below that. -/
def AlteredAt (before after : Entry) (spot : Location) (new : Entry) : Prop :=
  ∀ location, after.outline? location = if location = spot then some new.bare
    else before.outline? location

/-- A leaf in the place of a leaf, or of nothing, alters a directory at its name. -/
theorem alteredAt_put (members : Members) (name : Bytes) (new : Entry) (leaf : new.IsLeaf)
    (old : ∀ entry, Members.entry? members name = some entry → entry.IsLeaf) :
    AlteredAt (.directory members) (.directory (members.put name new)) [name] new := by
  intro location
  cases location with
  | nil => rfl
  | cons first later =>
    by_cases same : first = name
    · subst same
      rw [outline?, at?_directory_cons, Members.entry?_put, Option.bind_some]
      cases later with
      | nil => simp
      | cons second rest =>
        rw [leaf second rest, if_neg (by simp), outline?, at?_directory_cons]
        cases held : Members.entry? members first with
        | none => rfl
        | some entry => simp [old entry held second rest]
    · rw [outline?, at?_directory_cons, Members.entry?_put_other members new same,
        if_neg (by simp [same])]
      rfl

/-- A directory that holds an altered entry is altered below that entry's name. -/
theorem AlteredAt.below {inner changed new : Entry} {spot : Location} {outer : Members}
    {name : Bytes} (altered : AlteredAt inner changed spot new)
    (held : Members.entry? outer name = some inner) :
    AlteredAt (.directory outer) (.directory (outer.put name changed)) (name :: spot) new := by
  intro location
  cases location with
  | nil => rfl
  | cons first later =>
    by_cases same : first = name
    · subst same
      have inside := altered later
      rw [outline?, at?_directory_cons, Members.entry?_put, Option.bind_some]
      rw [outline?] at inside
      simp [inside, outline?, held]
    · rw [outline?, at?_directory_cons, Members.entry?_put_other outer changed same,
        if_neg (by simp [same])]
      rfl

end Entry

namespace Directory

/-- The names from the root to a directory of the tree. A removed one stands nowhere. -/
def location? : Directory → Option Location
  | .standing _ around => some (around.map Prod.fst).reverse
  | .removed _ => none

/-- A directory that belongs to a tree: the directories around it hold one another. -/
inductive Inside (root : Members) : Directory → Prop where
  | root : Inside root (.standing root [])
  | down (name : Bytes) (members outer : Members) (around : List (Bytes × Members))
      (within : Inside root (.standing outer around))
      (held : Members.entry? outer name = some (.directory members)) :
      Inside root (.standing members ((name, outer) :: around))
  | removed (above : Directory) (within : Inside root above) : Inside root (.removed above)

/-- A directory of the tree stands at its location. -/
theorem Inside.at? {root members : Members} {around : List (Bytes × Members)}
    (within : Inside root (.standing members around)) :
    (Entry.directory root).at? (around.map Prod.fst).reverse = some (.directory members) := by
  induction around generalizing members with
  | nil =>
    cases within
    rfl
  | cons link further inductionHypothesis =>
    cases within with
    | down name members outer around within held =>
      rw [List.map_cons, List.reverse_cons, Entry.at?_append, inductionHypothesis within]
      simp [held]

/-- What a directory of the tree holds is observed behind its location. -/
theorem Inside.outline? {root members : Members} {around : List (Bytes × Members)}
    (within : Inside root (.standing members around)) (name : Bytes) :
    (Entry.directory root).outline? ((around.map Prod.fst).reverse ++ [name]) =
      (Members.entry? members name).map Entry.bare := by
  rw [Entry.outline?, Entry.at?_append, within.at?]
  cases held : Members.entry? members name <;> simp [held]

/-- The directory above one of the tree belongs to it too. -/
theorem Inside.up {root : Members} {directory : Directory} (within : directory.Inside root) :
    directory.up.Inside root := by
  cases within with
  | root => exact .root
  | down name members outer around within held => exact within
  | removed above within => exact within

/-- So does a directory below. -/
theorem Inside.down? {root : Members} {directory inner : Directory} {name : Bytes} {entry : Entry}
    (within : directory.Inside root) (held : Members.entry? directory.members name = some entry)
    (went : directory.down? name entry = some inner) : inner.Inside root := by
  cases directory with
  | standing outer around =>
    cases entry with
    | directory members =>
      cases went
      exact .down name members outer around within held
    | file contents => cases went
    | link target => cases went
    | device device => cases went
  | removed above => cases went

/-- Names lead from one directory of the tree to another. -/
theorem Inside.descend {root : Members} {directory : Directory} (within : directory.Inside root)
    (names : Location) : (directory.descend names).Inside root := by
  induction names generalizing directory with
  | nil => exact within
  | cons name later inductionHypothesis =>
    rw [Directory.descend]
    apply inductionHypothesis
    cases found : directory.inner? name with
    | none => exact .removed directory within
    | some inner =>
      obtain ⟨entry, held, went⟩ := Option.bind_eq_some_iff.mp found
      exact within.down? held went

/-- Removed directories above a directory of the tree belong to it. -/
theorem Inside.repeat {root : Members} {directory : Directory} (within : directory.Inside root)
    (count : Nat) : (Nat.repeat Directory.removed count directory).Inside root := by
  induction count with
  | zero => exact within
  | succ count inductionHypothesis => exact .removed _ inductionHypothesis

/-- What is altered in a directory of the tree is altered in the tree, below the location of the
directory. -/
theorem Inside.altered {root members changed : Members} {around : List (Bytes × Members)}
    {spot : Location} {new : Entry} (within : Inside root (.standing members around))
    (altered : Entry.AlteredAt (.directory members) (.directory changed) spot new) :
    Entry.AlteredAt (.directory root) (.directory (enclosed changed around))
      ((around.map Prod.fst).reverse ++ spot) new := by
  induction around generalizing members changed spot with
  | nil =>
    cases within
    exact altered
  | cons link further inductionHypothesis =>
    cases within with
    | down name members outer around within held =>
      have outside := inductionHypothesis within (altered.below held)
      rwa [List.map_cons, List.reverse_cons, List.append_assoc]

end Directory

namespace Files

/-- What is observed at a location of the tree. -/
def outline? (files : Files) (location : Location) : Option Entry :=
  (Entry.directory files.root).outline? location

/-- The working directory belongs to the tree. -/
theorem workingDirectory_inside (files : Files) : files.workingDirectory.Inside files.root :=
  (Directory.Inside.root.descend files.working).repeat files.removed

/-- An entry with nothing below it, put into a directory of the tree in the place of such an entry
or of nothing, is observed at its location, and nothing else changes. -/
theorem outline?_replace_put (files : Files) {members : Members} {around : List (Bytes × Members)}
    (within : Directory.Inside files.root (.standing members around)) (name : Bytes) (new : Entry)
    (leaf : new.IsLeaf) (old : ∀ entry, Members.entry? members name = some entry → entry.IsLeaf)
    (location : Location) :
    (files.replace ((Directory.standing members around).put name new)).outline? location =
      if location = (around.map Prod.fst).reverse ++ [name] then some new.bare
      else files.outline? location :=
  within.altered (Entry.alteredAt_put members name new leaf old) location

end Files

end AgentKit
