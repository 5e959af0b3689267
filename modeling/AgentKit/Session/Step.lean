import AgentKit.Http.Server
import AgentKit.Task
/-!
# Steps of a session

A session is a list of calls on one host: what an agent may ask of its workspace, its secrets and
its logger, the two agents as a whole, and what happens to environment and files in between. Each
call has an answer of its own shape.
-/
namespace AgentKit.Session

/-- A call on the host. -/
inductive Step where
  | resolveRoot
  | dataPath
  | outputPath
  | cachePath
  | paths
  | ensureDirectories
  | getSecret (name : String)
  | requireSecret (name : String)
  | setVariable (name : String) (value : Bytes)
  | unsetVariable (name : String)
  | makeDirectories (path : Path)
  | writeFile (path : Path) (contents : Bytes)
  | makeLink (path target : Path)
  | remove (path : Path)
  | list (path : Path)
  | tree
  | log (level : Level) (message : String) (extras : Fields)
  /-- The lines that a stream holds. -/
  | lines (stream : Stream)
  /-- The keys of the records that a stream holds. -/
  | recordKeys (stream : Stream)
  /-- Several workers log several records each through one logger. -/
  | concurrent (workers count : Nat) (level : Level) (message : String)
  | task (secret : String) (timestamp : Timestamp)
  | request (method target : String)

/-- What a call answers. -/
inductive Answer where
  | nothing
  | path (path : Path)
  | paths (paths : WorkspacePaths)
  | secret (value : Option String)
  | required (value : String)
  | names (names : List String)
  | tree (entries : List (Path × Entry))
  | logged
  | keys (records : List (List String))
  | sortedLines (out err : List String)
  | written (path : Path)
  | response (response : Http.Response)

/-- How a call fails. -/
inductive Failure where
  | agent (error : AgentError)
  | io (error : IoError)
  | task (error : TaskError)
  | method
  | target (fault : Http.TargetFault)

end AgentKit.Session
