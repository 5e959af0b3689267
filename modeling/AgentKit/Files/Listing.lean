import AgentKit.Files.Walk
/-!
# Listing directories

The names of a directory are shown in the order of their characters. A tree is shown in the order
of a walk that takes the names of each directory in the order of their octets and shows a directory
in front of what it holds. Links are shown and not followed.
-/
namespace AgentKit

namespace Entry

/-- What stands below several names, in the order of the names. -/
def inOrder (branches : List (Bytes × List (Path × Entry))) : List (Path × Entry) :=
  (branches.mergeSort fun left right => left.1 ≤ right.1).flatMap Prod.snd

mutual

/-- Everything below an entry: paths with the given octets in front, and their entries. -/
def inside (lead : Bytes) : Entry → List (Path × Entry)
  | .directory members => inOrder (branches lead members)
  | .file _ | .link _ | .device _ => []

/-- The members of a directory by their names, each with everything below it. -/
def branches (lead : Bytes) : List (Bytes × Entry) → List (Bytes × List (Path × Entry))
  | [] => []
  | (name, entry) :: later =>
    (name, (⟨lead ++ name⟩, entry) :: entry.inside (lead ++ name ++ [Path.slash])) ::
      branches lead later

end

end Entry

/-- Everything below a directory: the relative path and the entry. -/
def Directory.tree (directory : Directory) : List (Path × Entry) :=
  Entry.inside [] (.directory directory.members)

/-- The names in a directory as text, in order. What is no readable directory has none. -/
def Files.listing (files : Files) (path : Path) : List String :=
  match files.directory? path with
  | some directory =>
    (directory.members.names.map Utf8.toStringLossy).mergeSort fun left right => left ≤ right
  | none => []

end AgentKit
