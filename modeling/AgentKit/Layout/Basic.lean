import AgentKit.Path
/-!
# The workspace convention of a host

A layout says where a host puts workspaces: the variable that overrides everything else, the
directory that is used when it exists, and the root that remains. From a layout, the override's
value and a probe for directories the root is selected; from a root follow the three directories
that every workspace has.
-/
namespace AgentKit

/-- Where a host puts workspaces. -/
structure Layout where
  /-- The variable that holds an explicit root. -/
  overrideVariable : String
  /-- The root when it is a directory and no override is set. -/
  mountPath : Path
  /-- The root when neither of the others applies. -/
  fallbackPath : Path
deriving DecidableEq, Repr

/-- Which rule gave the root. -/
inductive RootSource where
  | override
  | mount
  | fallback
deriving DecidableEq, Repr

/-- The word for a rule. -/
def RootSource.name : RootSource → String
  | .override => "Override"
  | .mount => "Mount"
  | .fallback => "Fallback"

/-- A selected root, the rule that gave it, and the paths that were probed on the way. -/
structure RootSelection where
  root : Path
  source : RootSource
  probed : List Path
deriving DecidableEq, Repr

namespace Layout

/-- The convention of the platform. -/
def standard : Layout where
  overrideVariable := "AEGIS_WORKSPACE_PATH"
  mountPath := .ofString "/workspace"
  fallbackPath := .ofString "./workspace"

/-- The standard convention with a mount that does not exist below a scratch directory. -/
def withMissingMount (scratch : Path) : Layout :=
  { standard with mountPath := scratch.join (Utf8.ofString "no-such-mount") }

/-- Select the root: a non-empty override, then the mount if it is a directory, then the fallback.
The probe sees the mount only, and only without an override. -/
def selectRoot (layout : Layout) (override : Option String) (isDirectory : Path → Bool) :
    RootSelection :=
  match override.filter (fun value => !value.isEmpty) with
  | some value => ⟨.ofString value, .override, []⟩
  | none =>
    if isDirectory layout.mountPath then ⟨layout.mountPath, .mount, [layout.mountPath]⟩
    else ⟨layout.fallbackPath, .fallback, [layout.mountPath]⟩

/-- Layouts are the same when their variables are equal and their paths have the same
components. -/
def same (left right : Layout) : Bool :=
  left.overrideVariable == right.overrideVariable &&
    left.mountPath.sameComponents right.mountPath &&
    left.fallbackPath.sameComponents right.fallbackPath

end Layout

/-- The directories under a workspace root. -/
structure WorkspacePaths where
  root : Path
  dataDirectory : Path
  outputDirectory : Path
  cacheDirectory : Path
deriving DecidableEq, Repr

namespace WorkspacePaths

/-- The conventional directories of a root. -/
def ofRoot (root : Path) : WorkspacePaths where
  root := root
  dataDirectory := root.join (Utf8.ofString "data")
  outputDirectory := root.join (Utf8.ofString "output")
  cacheDirectory := root.join (Utf8.ofString ".cache")

/-- The three directories, in the order in which they are made. -/
def subdirectories (paths : WorkspacePaths) : List Path :=
  [paths.dataDirectory, paths.outputDirectory, paths.cacheDirectory]

end WorkspacePaths

end AgentKit
