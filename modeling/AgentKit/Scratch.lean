import AgentKit.Workspace
/-!
# Scratch workspaces

A scratch workspace lives in a temporary directory: its root lies below that directory and is named
by the override variable, and the mount path leads to nothing, so no other workspace is touched.
-/
namespace AgentKit

/-- A temporary directory, by the path that leads to it. -/
structure Scratch where
  directory : Path
deriving DecidableEq, Repr

namespace Scratch

/-- The root of the workspace. Nothing is there until the directories are made. -/
def root (scratch : Scratch) : Path := scratch.directory.join (Utf8.ofString "ws")

/-- The value of the override variable. -/
def override (scratch : Scratch) : String := scratch.root.display

/-- The layout of the workspace. -/
def layout (scratch : Scratch) : Layout := .withMissingMount scratch.directory

/-- The environment of the workspace. -/
def environment (scratch : Scratch) : Environment :=
  .table [(Layout.standard.overrideVariable, scratch.override)]

/-- A host with the temporary directory and nothing in it. -/
def host (scratch : Scratch) : Host where
  environment := scratch.environment
  files := .ofWorking [(scratch.directory.octets, .directory [])]
  out := .capture .nothing
  err := .capture .nothing
  clock := .masked
  diagnostics := .kept []

/-- What may be asked of a scratch workspace. -/
inductive Question where
  | root
  | override
  | layout
  | resolvedRoot
  | paths
  | ensuredDirectories
  | tree
deriving DecidableEq, Repr

/-- What a scratch workspace answers. -/
inductive Reply where
  | path (path : Path)
  | text (text : String)
  | layout (layout : Layout)
  | paths (paths : WorkspacePaths)
  | ensured (outcome : Outcome AgentError WorkspacePaths)
  | tree (entries : List (Path × Entry))

/-- Answer a question on a host. -/
def answer (scratch : Scratch) (question : Question) (host : Host) : Reply × Host :=
  match question with
  | .root => (.path scratch.root, host)
  | .override => (.text scratch.override, host)
  | .layout => (.layout scratch.layout, host)
  | .resolvedRoot => (.path (Workspace.select scratch.layout host).root, host)
  | .paths => (.paths (.ofRoot (Workspace.select scratch.layout host).root), host)
  | .ensuredDirectories =>
    let (outcome, after) := Workspace.ensureDirectories scratch.layout host
    (.ensured outcome, after)
  | .tree => (.tree (host.files.workingDirectory.descend [scratch.directory.octets]).tree, host)

/-- Answer questions one after the other. -/
def answerAll (scratch : Scratch) : List Question → Host → List Reply
  | [], _ => []
  | question :: later, host =>
    let (reply, after) := scratch.answer question host
    reply :: answerAll scratch later after

end Scratch

end AgentKit
