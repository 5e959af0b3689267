import AgentKit.Host.Action
/-!
# The workspace of an agent

The root is selected anew on every call, from the environment and the files as they are then.
Nothing is created until the directories are asked for; then the three directories are made with
all that is missing above them, in their order, and the first one that cannot be made ends it.
-/
namespace AgentKit.Workspace

variable {ε : Type}

/-- The selection of the root on a host. -/
def select (layout : Layout) (host : Host) : RootSelection :=
  layout.selectRoot (host.environment.value? layout.overrideVariable) host.files.isDirectory

/-- The root of the workspace. -/
def resolveRoot (layout : Layout) : Action ε Path := do
  let selection ← Action.inspect (select layout)
  Action.emit (.rootResolved selection.root selection.source)
  return selection.root

/-- The directories under the root. -/
def paths (layout : Layout) : Action ε WorkspacePaths := do
  return .ofRoot (← resolveRoot layout)

/-- The directory for data that stays. -/
def dataPath (layout : Layout) : Action ε Path := do
  return (← paths layout).dataDirectory

/-- The directory for results. -/
def outputPath (layout : Layout) : Action ε Path := do
  return (← paths layout).outputDirectory

/-- The directory for data that may go. -/
def cachePath (layout : Layout) : Action ε Path := do
  return (← paths layout).cacheDirectory

/-- Make directories one after the other. -/
def makeAll : List Path → Files → Except IoError Unit × Files
  | [], files => (.ok (), files)
  | path :: later, files =>
    match files.makeDirectories path with
    | (.ok (), made) => makeAll later made
    | (.error error, left) => (.error error, left)

/-- Make the three directories. -/
def ensureDirectories (layout : Layout) : Action AgentError WorkspacePaths := do
  let found ← paths layout
  Action.mapError .io (Action.changeFiles (makeAll found.subdirectories))
  Action.emit (.directoriesReady found.root)
  return found

end AgentKit.Workspace
