import AgentKit.Path
/-!
# Entries

What stands under a name in a directory: a directory of its own, a file, a symbolic link or a
device. A directory is the list of its members. A member that is put takes the place of the one
with the same name, so a name stands at most once in a directory that is built by putting.
-/
namespace AgentKit

/-- A file that is no storage. -/
inductive Device where
  /-- Accepts everything and keeps nothing. -/
  | null
  /-- Has no room for anything. -/
  | full
deriving DecidableEq, Repr

/-- What stands under a name. -/
inductive Entry where
  | directory (members : List (Bytes × Entry))
  | file (contents : Bytes)
  | link (target : Bytes)
  | device (device : Device)

/-- What a directory holds: names with their entries. -/
abbrev Members := List (Bytes × Entry)

namespace Members

/-- The entry under a name. -/
def entry? (members : Members) (name : Bytes) : Option Entry := members.lookup name

/-- The members without the one of a name. -/
def without (members : Members) (name : Bytes) : Members :=
  members.filter fun member => member.1 != name

/-- The members with an entry under a name. -/
def put (members : Members) (name : Bytes) (entry : Entry) : Members :=
  (name, entry) :: members.without name

/-- The names, in no particular order. -/
def names (members : Members) : List Bytes := members.map Prod.fst

@[simp] theorem entry?_put (members : Members) (name : Bytes) (entry : Entry) :
    Members.entry? (members.put name entry) name = some entry := by
  simp [put, entry?]

end Members

end AgentKit
