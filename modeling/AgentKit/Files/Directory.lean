import AgentKit.Fault.Errno
import AgentKit.Files.Entry
/-!
# Directories in their places

A directory is taken together with the directories around it, so that a walk goes on from where it
stands, down to a member or up again, and so that a change of the directory gives the whole tree
with that change in it. No other part of the tree is looked at for either.

A directory that was removed while somebody stood in it is still a place to stand. It is empty and
stays so, and it still leads up to the directory that it was in.
-/
namespace AgentKit

/-- The longest name. -/
def longestName : Nat := 255

/-- A directory to stand in. -/
inductive Directory where
  /-- A directory of the tree: what it holds, and the directories around it, the innermost first,
  each with the name that leads on. -/
  | standing (members : Members) (around : List (Bytes × Members))
  /-- A directory that was removed from the one above it. -/
  | removed (above : Directory)

namespace Directory

/-- The directory around all others. -/
def root (members : Members) : Directory := .standing members []

/-- What a directory holds. -/
def members : Directory → Members
  | .standing members _ => members
  | .removed _ => []

/-- What stands under a name, if the directory can hold that name at all. A removed directory holds
no name, whatever its length. -/
def look (name : Bytes) : Directory → Except Errno (Option Entry)
  | .standing members _ =>
    if longestName < name.length then .error .nameTooLong else .ok (members.entry? name)
  | .removed _ => .error .noEntry

/-- The directory above. The root is above itself. -/
def up : Directory → Directory
  | .standing members [] => .standing members []
  | .standing _ ((_, outer) :: further) => .standing outer further
  | .removed above => above

/-- The directory that an entry under a name is, if it is one. -/
def down? (directory : Directory) (name : Bytes) (entry : Entry) : Option Directory :=
  match directory, entry with
  | .standing outer around, .directory members => some (.standing members ((name, outer) :: around))
  | _, _ => none

/-- The directory that stands under a name, if one does. -/
def inner? (directory : Directory) (name : Bytes) : Option Directory :=
  (directory.members.entry? name).bind (directory.down? name)

/-- The directory to which names lead. No link is followed. A name that leads to no directory stands
for one that was removed. -/
def descend (directory : Directory) : List Bytes → Directory
  | [] => directory
  | name :: later => ((directory.inner? name).getD (.removed directory)).descend later

/-- The names up to the first that leads to no directory. -/
def leading (directory : Directory) : List Bytes → List Bytes
  | [] => []
  | name :: later =>
    match directory.inner? name with
    | some inner => name :: inner.leading later
    | none => []

/-- The directory with other members. A removed directory takes none. -/
def withMembers (members : Members) : Directory → Directory
  | .standing _ around => .standing members around
  | .removed above => .removed above

/-- The directory with an entry under a name. -/
def put (directory : Directory) (name : Bytes) (entry : Entry) : Directory :=
  directory.withMembers (directory.members.put name entry)

/-- The directory without what stands under a name. -/
def without (directory : Directory) (name : Bytes) : Directory :=
  directory.withMembers (directory.members.without name)

/-- The directory with nothing in it. -/
def emptied (directory : Directory) : Directory := directory.withMembers []

/-- What the root holds when members stand inside the directories around them. -/
def enclosed (members : Members) : List (Bytes × Members) → Members
  | [] => members
  | (name, outer) :: further => enclosed (outer.put name (.directory members)) further

/-- What the root holds with this directory in its place. -/
def whole : Directory → Members
  | .standing members around => enclosed members around
  | .removed above => above.whole

end Directory

end AgentKit
