import AgentKit.Http.Method
import AgentKit.Http.Target
import AgentKit.Logger
import AgentKit.Secrets
import AgentKit.StatusPage
import AgentKit.Workspace
/-!
# The status server

Every path answers with the status page. Each page served is logged; a record that cannot be written
changes nothing in the answer.
-/
namespace AgentKit.Http

/-- An answer to a request. -/
structure Response where
  status : Nat
  contentType : Option String
  contentLength : Nat
  allow : Option String
  body : List Char
deriving DecidableEq, Repr

namespace Response

/-- Nothing stands there. -/
def notFound : Response := ⟨404, none, 0, none, []⟩

/-- The path is there, but not for this method. -/
def methodNotAllowed : Response := ⟨405, none, 0, some "GET,HEAD", []⟩

/-- A page, or only what it would be sent with. -/
def page (method : Method) (text : List Char) : Response where
  status := 200
  contentType := some "text/html; charset=utf-8"
  contentLength := (Utf8.encode text).length
  allow := none
  body := if method = .head then [] else text

end Response

namespace Server

variable {ε : Type}

/-- The secret that the page reports as configured or not. -/
def keySecret : String := "API_KEY"

/-- The fields of the record about a request. -/
def requestFields (method : Method) (target : Target) : Fields :=
  [("path", .string target.resourceText), ("method", .string method.name)]

/-- Log a request. A failure is told to developers and to nobody else. -/
def logRequest (method : Method) (target : Target) : Action ε Unit := do
  match ← Action.attempt (Logger.info "request served" (requestFields method target)) with
  | .ok () => return ()
  | .error error => Action.emit (.requestLogFailed error)

/-- The page for the state of a host. -/
def currentPage (root : Path) (key : Option String) (host : Host) : StatusPage where
  hasKey := key.any fun value => !value.isEmpty
  names := host.files.listing root
  clock := host.clock

/-- Make the page and log the request. -/
def servePage (layout : Layout) (method : Method) (target : Target) : Action ε (List Char) := do
  let key ← Secrets.get keySecret
  let root ← Workspace.resolveRoot layout
  let page ← Action.inspect (currentPage root key)
  logRequest method target
  return page.text

/-- Answer a request. -/
def answer (layout : Layout) (method : Method) (target : Target) : Action ε Response := do
  if !target.isRouted then return .notFound
  else if !method.isAnswered then return .methodNotAllowed
  else return .page method (← servePage layout method target)

end Server

end AgentKit.Http
