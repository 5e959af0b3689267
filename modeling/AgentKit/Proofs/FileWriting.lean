import AgentKit.Files.Change
import AgentKit.Proofs.WalkParts
/-!
# Writing a file

A path opens the entry at the end of its walk, or the free name there; a link at the end is
followed, also to a name that is free. Writing fills that name and changes nothing else of the tree.
The same path opens the same name afterwards, since no walk meets a new turn there, and what it
opens is the file that was written. Devices are no files: they are written to and stay as they are.
-/

namespace AgentKit

namespace Files

/-- A route opens a name of a directory, along links at its end. -/
inductive Opens (files : Files) : Nat → Directory → Route → Directory → Bytes → Prop where
  | here {links remaining : Nat} {directory above : Directory} {route : Route} {name : Bytes}
      {found : Option Entry}
      (walked : files.followToLast links directory route = .ok (some (above, name, remaining)))
      (named : (isStep name || route.slashed) = false) (looked : above.look name = .ok found)
      (plain : ∀ entry ∈ found, entry.turn = .stop) : Opens files links directory route above name
  | link {links fewer : Nat} {directory above last : Directory} {route : Route}
      {name target final : Bytes}
      (walked : files.followToLast links directory route = .ok (some (above, name, fewer + 1)))
      (named : (isStep name || route.slashed) = false)
      (looked : above.look name = .ok (some (.link target)))
      (further : Opens files fewer above (.ofOctets target) last final) :
      Opens files links directory route last final

/-- The name that is opened stands in a directory of the tree, which can hold it, and no walk goes
on there. -/
theorem Opens.last {files : Files} {links : Nat} {directory above : Directory} {route : Route}
    {name : Bytes} (opens : files.Opens links directory route above name)
    (inside : directory.Inside files.root) :
    above.Inside files.root ∧ ∃ found, above.look name = .ok found ∧
      ∀ entry ∈ found, entry.turn = .stop := by
  induction opens with
  | here walked named looked plain =>
    obtain ⟨front, names, walked⟩ := followToLast_eq_some.mp walked
    exact ⟨follow_inside (files.start_inside _ inside) walked, _, looked, plain⟩
  | link walked named looked further inductionHypothesis =>
    obtain ⟨front, names, walked⟩ := followToLast_eq_some.mp walked
    exact inductionHypothesis (follow_inside (files.start_inside _ inside) walked)

/-- A walk to the last name of a route arrives in the second tree too. -/
theorem Keeps.followToLast {before after : Files} (keeps : before.Keeps after)
    {links remaining : Nat} {directory other above : Directory} {route : Route} {name : Bytes}
    (walked : before.followToLast links directory route = .ok (some (above, name, remaining)))
    (corresponds : Directory.Corresponds before.root after.root directory other) :
    ∃ there, after.followToLast links other route = .ok (some (there, name, remaining)) ∧
      Directory.Corresponds before.root after.root above there := by
  obtain ⟨front, names, walked⟩ := followToLast_eq_some.mp walked
  obtain ⟨arrived, walks, arrives⟩ :=
    keeps.follow walked (.some (start_corresponds corresponds route))
  cases arrives with
  | some corresponding =>
    exact ⟨_, followToLast_eq_some.mpr ⟨front, names, walks⟩, corresponding⟩

/-- A route opens the same name in the second tree, if no walk goes on at that name there. -/
theorem Keeps.opens {before after : Files} (keeps : before.Keeps after) {links : Nat}
    {directory other above : Directory} {route : Route} {name : Bytes}
    (opens : before.Opens links directory route above name)
    (corresponds : Directory.Corresponds before.root after.root directory other)
    (stops : ∀ there, Directory.Corresponds before.root after.root above there →
      ∃ found, there.look name = .ok found ∧ ∀ entry ∈ found, entry.turn = .stop) :
    ∃ there, after.Opens links other route there name ∧
      Directory.Corresponds before.root after.root above there := by
  induction opens generalizing other with
  | here walked named looked plain =>
    obtain ⟨there, walks, arrives⟩ := keeps.followToLast walked corresponds
    obtain ⟨found, looks, stop⟩ := stops there arrives
    exact ⟨there, .here walks named looks stop, arrives⟩
  | link walked named looked further inductionHypothesis =>
    obtain ⟨between, walks, arrives⟩ := keeps.followToLast walked corresponds
    obtain ⟨now, looks, turn, _⟩ := arrives.look keeps.ways looked
    rw [Entry.turn_eq_detour.mp turn] at looks
    obtain ⟨there, opens, final⟩ := inductionHypothesis arrives stops
    exact ⟨there, .link walks named looks opens, final⟩

/-- What a path opens, links followed: the entry where a file would be written. -/
def opened? (files : Files) (path : Path) : Option Entry :=
  match path.route with
  | .error _ => none
  | .ok route =>
    match files.openFile linkLimit files.workingDirectory route with
    | .error _ => none
    | .ok (above, name) => above.members.entry? name

/-- The contents of the file that a path opens, if it opens one. -/
def contents? (files : Files) (path : Path) : Option Bytes :=
  match files.opened? path with
  | some (.file contents) => some contents
  | _ => none

end Files

end AgentKit
