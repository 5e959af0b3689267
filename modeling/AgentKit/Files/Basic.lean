import AgentKit.Files.Directory
/-!
# Files in memory

The files of a machine are the members of its root, and a working directory in which relative paths
start. The working directory is known by the names that lead to it, since what it holds changes with
the tree. When it is removed, or one above it, those of its names that lead nowhere any more are
only counted: something new under such a name is another directory.
-/
namespace AgentKit

/-- A place in the tree of directories: the names from the root down. -/
abbrev Location := List Bytes

/-- The tree of a machine and the directory in which relative paths start. -/
structure Files where
  root : Members
  /-- The names that lead to the working directory, up to the first that was removed. -/
  working : Location
  /-- The number of removed directories on the way to the working directory, itself included. -/
  removed : Nat

namespace Files

/-- The working directory, also when it was removed. -/
def workingDirectory (files : Files) : Directory :=
  Nat.repeat .removed files.removed ((Directory.root files.root).descend files.working)

/-- The files with a directory in its place. -/
def replace (files : Files) (directory : Directory) : Files :=
  let root := directory.whole
  let left := (Directory.root root).leading files.working
  { root := root, working := left,
    removed := files.removed + (files.working.length - left.length) }

/-- A machine with two devices, and a working directory with the given members. -/
def ofWorking (members : Members) : Files where
  root :=
    [(Utf8.ofString "tmp", .directory [(Utf8.ofString "scratch", .directory members)]),
      (Utf8.ofString "dev",
        .directory [(Utf8.ofString "null", .device .null), (Utf8.ofString "full", .device .full)])]
  working := [Utf8.ofString "tmp", Utf8.ofString "scratch"]
  removed := 0

/-- A machine with an empty working directory. -/
def fresh : Files := ofWorking []

end Files

end AgentKit
