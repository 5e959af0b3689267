import AgentKit.Http.Server
import AgentKit.Proofs.ActionSequence
import AgentKit.Proofs.HostChange
import AgentKit.Proofs.RecordText
import AgentKit.Proofs.RequestTarget
import AgentKit.Proofs.WorkspaceRepetition

/-!
# Serving a request

A page is made from the key, the files and the clock before the request is logged, and what becomes
of the record has no part in the answer. So an answer does not depend on the streams, as long as
they do not panic, and a request changes nothing but what the output stream has taken. Developers
are told about the root, and about a record that was lost.
-/

namespace AgentKit.Http.Server

open AgentKit.Action (andThen_done attempt_done attempt_failed)

variable {ε : Type}

/-- The record about a request on a host. -/
def servedRecord (method : Method) (target : Target) (host : Host) : Record :=
  Logger.record .info "request served" (requestFields method target) host

/-- The page for the state of a host. -/
structure IsPage (layout : Layout) (host : Host) (page : StatusPage) : Prop where
  key : page.hasKey = true ↔ ∃ value, host.environment.value? keySecret = some value ∧ value ≠ ""
  names : page.names = host.files.listing (Workspace.select layout host).root
  time : page.clock = host.clock

/-- What developers are told about a record, from how its writing ended. -/
def lossEvents : Outcome IoError Unit → List Event
  | .failed error => [.requestLogFailed (.io error)]
  | .done _ | .panicked _ => []

/-- What developers are told about a request. -/
def requestEvents (layout : Layout) (host : Host) (written : Outcome IoError Unit) : List Event :=
  let selection := Workspace.select layout host
  .rootResolved selection.root selection.source :: lossEvents written

/-- A line that does not panic is written once, and a failure is told to developers. -/
theorem logRequest_run (method : Method) (target : Target) (host : Host)
    (calm : ∀ text, (host.out.writeLine (servedRecord method target host).line).1 ≠
      .panicked text) :
    let written := host.out.writeLine (servedRecord method target host).line
    (logRequest method target : Action ε Unit).run host =
      (.done (), { (lossEvents written.1).foldl Host.emit host with out := written.2 }) := by
  intro written
  have logged : (Logger.info "request served" (requestFields method target)).run host =
      (written.1.mapError .io, { host with out := written.2 }) := rfl
  rcases ended : written.1 with value | error | text
  · rw [ended] at logged
    exact andThen_done _ (attempt_done logged)
  · rw [ended] at logged
    have told : ({ host with out := written.2 } : Host).emit (.requestLogFailed (.io error)) =
        { host.emit (.requestLogFailed (.io error)) with out := written.2 } := by
      rw [Host.emit_with host written.2 host.files, ← Host.emit_files host]
    exact (andThen_done _ (attempt_failed logged)).trans (congrArg (Prod.mk (Outcome.done ())) told)
  · exact absurd ended (calm text)

/-- The page that is served is made from the host as it is at the start. -/
def servedPage (layout : Layout) (host : Host) : StatusPage :=
  currentPage (Workspace.select layout host).root (host.environment.value? keySecret) host

/-- It tells whether the key has a value that is not empty. -/
theorem servedPage_isPage (layout : Layout) (host : Host) :
    IsPage layout host (servedPage layout host) where
  key := by
    simp only [servedPage, currentPage]
    cases host.environment.value? keySecret with
    | none => simp
    | some value => simp
  names := rfl
  time := rfl

/-- Serving a page gives the page of the host, writes the record and tells the events. -/
theorem servePage_run (layout : Layout) (method : Method) (target : Target) (host : Host)
    (calm : ∀ text, (host.out.writeLine (servedRecord method target host).line).1 ≠
      .panicked text) :
    let written := host.out.writeLine (servedRecord method target host).line
    (servePage layout method target : Action ε (List Char)).run host =
      (.done (servedPage layout host).text,
        { (requestEvents layout host written.1).foldl Host.emit host with out := written.2 }) := by
  intro written
  let selection := Workspace.select layout host
  let told := host.emit (.rootResolved selection.root selection.source)
  have key : (Secrets.get keySecret : Action ε _).run host =
      (.done (host.environment.value? keySecret), host) := rfl
  have root : (Workspace.resolveRoot layout : Action ε _).run host =
      (.done selection.root, told) := rfl
  have page : (Action.inspect (currentPage selection.root (host.environment.value? keySecret)) :
      Action ε _).run told = (.done (servedPage layout host), told) := by
    have same : currentPage selection.root (host.environment.value? keySecret) told =
        servedPage layout host := by
      simp only [currentPage, servedPage, told, Host.emit_files, Host.emit_clock]
      rfl
    rw [Action.run, Action.inspect, same]
  have record : servedRecord method target told = servedRecord method target host := by
    simp only [servedRecord, Logger.record, told, Host.emit_clock]
  have out : told.out = host.out := Host.emit_out host _
  have logged := logRequest_run (ε := ε) method target told
  rw [record, out] at logged
  have made := logged calm
  rw [servePage]
  refine (andThen_done _ key).trans ?_
  refine (andThen_done _ root).trans ?_
  refine (andThen_done _ page).trans ?_
  exact andThen_done _ made

/-- A request that a method answers is served, and the answer is the page. -/
theorem answer_served (layout : Layout) {method : Method} (answered : method.isAnswered = true)
    {target : Target} (routed : target.isRouted = true) (host : Host)
    (calm : ∀ text, (host.out.writeLine (servedRecord method target host).line).1 ≠
      .panicked text) :
    let written := host.out.writeLine (servedRecord method target host).line
    (answer layout method target : Action ε Response).run host =
      (.done (.page method (servedPage layout host).text),
        { (requestEvents layout host written.1).foldl Host.emit host with out := written.2 }) := by
  intro written
  have served := servePage_run (ε := ε) layout method target host calm
  rw [answer]
  simp only [routed, answered, Bool.not_true, Bool.false_eq_true, if_false]
  exact andThen_done _ served

/-- The record about a request is read back with its five members. -/
theorem servedRecord_read (method : Method) (target : Target) (host : Host) :
    Json.flatMembers? (Utf8.encode (servedRecord method target host).text) =
      some [("level", .string "info"), ("msg", .string "request served"),
        ("ts", .string (String.ofList host.clock.text)), ("path", .string target.resourceText),
        ("method", .string method.name)] := by
  have members : (servedRecord method target host).members =
      [("level", .string "info"), ("msg", .string "request served"),
        ("ts", .string (String.ofList host.clock.text)), ("path", .string target.resourceText),
        ("method", .string method.name)] := by
    simp [Record.members, Record.reserved, servedRecord, Logger.record, requestFields,
      Fields.merge, Fields.put, Level.name]
  rw [Record.text, Json.flatMembers_text, members]
  rfl

/-- How a record shows the path of a request with its query: as they are written, and as a slash
where an address names neither. So a path is shown with the query behind it, and a target that
begins with a slash is shown whole, up to a fragment. An address that names a query but no path is
shown by its query alone. -/
structure Shows (octets : Bytes) (target : Target) (shown : String) : Prop where
  whole : target.resource ≠ [] → Utf8.ofString shown = target.resource
  path : target.resource.head? = some (Target.mark '/') →
    Utf8.ofString shown = target.path ++ target.query
  written : octets.head? = some (Target.mark '/') →
    Target.mark '#' ∉ Utf8.ofString shown ∧ ∃ fragment, octets = Utf8.ofString shown ++ fragment ∧
      (fragment = [] ∨ fragment.head? = some (Target.mark '#'))
  bare : target.resource = [] → shown = "/"

/-- What is recorded for a target that was read shows it. -/
theorem resourceText_shows {octets : Bytes} {target : Target}
    (taken : Target.read octets = .ok target) : Shows octets target target.resourceText where
  whole := Target.resourceText_exact taken
  path := by
    intro slash
    have written : target.resource ≠ [] := by
      intro none
      rw [none] at slash
      cases slash
    rw [Target.resourceText_exact taken written, Target.resource_parts slash]
  written := by
    intro slash
    obtain ⟨noMark, fragment, whole, ends⟩ := Target.read_slash taken slash
    have written : target.resource ≠ [] := by
      intro none
      rw [none, List.nil_append] at whole
      rw [whole] at slash
      rcases ends with rfl | front
      · cases slash
      · cases slash.symm.trans front
    rw [Target.resourceText_exact taken written]
    exact ⟨noMark, fragment, whole, ends⟩
  bare := by
    intro none
    rw [Target.resourceText, if_pos none]

/-- A request was served: answered with the page of the host, and recorded with one line on the
output stream. -/
structure Served (layout : Layout) (method : Method) (octets : Bytes) (target : Target)
    (host : Host) (ended : Outcome ε Response × Host) : Prop where
  answered : ∃ page, IsPage layout host page ∧ ended.1 = .done (.page method page.text) ∧
    (Response.page method page.text).status = 200 ∧
    (method = .get → (Response.page method page.text).body = page.text)
  record : ∃ shown, Shows octets target shown ∧
    Json.flatMembers? (Utf8.encode (servedRecord method target host).text) =
      some [("level", .string "info"), ("msg", .string "request served"),
        ("ts", .string (String.ofList host.clock.text)), ("path", .string shown),
        ("method", .string method.name)]
  line : (servedRecord method target host).line =
      Utf8.encode (servedRecord method target host).text ++ [0x0A] ∧
    0x0A ∉ Utf8.encode (servedRecord method target host).text
  /-- One line is written, and all else that changes is what developers are told. -/
  streams : let written := host.out.writeLine (servedRecord method target host).line
    ended.2 = { (requestEvents layout host written.1).foldl Host.emit host with out := written.2 }
  /-- Diagnostics that are kept leave the error stream as it was. -/
  quiet : ∀ events, host.diagnostics = .kept events → ended.2.err = host.err

/-- A request for a page is served. -/
theorem answer_isServed (layout : Layout) {method : Method} (answered : method.isAnswered = true)
    {octets : Bytes} {target : Target} (taken : Target.read octets = .ok target)
    (routed : target.isRouted = true) (host : Host)
    (calm : ∀ text, (host.out.writeLine (servedRecord method target host).line).1 ≠
      .panicked text) :
    Served layout method octets target host
      ((answer layout method target : Action ε Response).run host) := by
  have run := answer_served (ε := ε) layout answered routed host calm
  constructor
  case answered =>
    refine ⟨servedPage layout host, servedPage_isPage layout host, congrArg Prod.fst run, rfl, ?_⟩
    rintro rfl
    rfl
  case record =>
    exact ⟨target.resourceText, resourceText_shows taken, servedRecord_read method target host⟩
  case line => exact (servedRecord method target host).line_single
  case streams => exact congrArg Prod.snd run
  case quiet =>
    intro events kept
    have tells : host.Tells (requestEvents layout host
        (host.out.writeLine (servedRecord method target host).line).1)
        ((answer layout method target : Action ε Response).run host).2 := by
      rw [run]
      rfl
    exact tells.quiet kept

/-- A request that a method does not answer is refused, and nothing happens. -/
theorem answer_refused (layout : Layout) {method : Method} (other : method.isAnswered = false)
    {target : Target} (routed : target.isRouted = true) (host : Host) :
    (answer layout method target : Action ε Response).run host =
      (.done .methodNotAllowed, host) := by
  simp only [answer, routed, other]
  rfl

/-- A method that answers is `GET` or `HEAD`. -/
theorem isAnswered_iff (method : Method) :
    method.isAnswered = true ↔ method = .get ∨ method = .head := by
  rw [Method.isAnswered, Bool.or_eq_true, decide_eq_true_eq, decide_eq_true_eq]

/-- What a request does, whatever the host holds, as long as writing its record does not panic. A
request for a page is answered with the page of the host as it is, is recorded in one line of the
output stream, and tells developers about the root and about a record that was lost. The answer is
the same with any other output stream that does not panic, so it does not matter what becomes of
the record. A request of another kind is answered with 405 and the methods that are allowed, and
leaves the host as it was. No request changes the files or the environment. -/
theorem request_answered (layout : Layout) (host : Host) (method : Method) (octets : Bytes)
    (target : Target) (taken : Target.read octets = .ok target) (routed : target.isRouted = true)
    (calm : ∀ text, (host.out.writeLine (servedRecord method target host).line).1 ≠
      .panicked text) :
    let ended := (answer layout method target : Action ε Response).run host
    (method = .get ∨ method = .head →
      Served layout method octets target host ended ∧
        ∀ out : Sink, (∀ text, (out.writeLine (servedRecord method target host).line).1 ≠
            .panicked text) →
          ((answer layout method target : Action ε Response).run { host with out }).1 =
            ended.1) ∧
      (method ≠ .get → method ≠ .head → ended = (.done .methodNotAllowed, host) ∧
        Response.methodNotAllowed.status = 405 ∧
        Response.methodNotAllowed.allow = some "GET,HEAD" ∧ Response.methodNotAllowed.body = []) ∧
      ended.2.files = host.files ∧ ended.2.environment = host.environment := by
  intro ended
  cases answered : method.isAnswered with
  | true =>
    have run : ended = _ := answer_served layout answered routed host calm
    obtain ⟨files, environment⟩ := Host.foldl_emit_keeps (requestEvents layout host
      (host.out.writeLine (servedRecord method target host).line).1) host
    refine ⟨fun _ => ⟨answer_isServed layout answered taken routed host calm, ?_⟩, ?_, ?_, ?_⟩
    · intro out peaceful
      have other := answer_served (ε := ε) layout answered routed { host with out } peaceful
      rw [run, other]
      rfl
    · intro noGet noHead
      rcases (isAnswered_iff method).mp answered with get | head
      · exact absurd get noGet
      · exact absurd head noHead
    · rw [run]
      exact files
    · rw [run]
      exact environment
  | false =>
    have refused : ended = (.done .methodNotAllowed, host) :=
      answer_refused layout answered routed host
    refine ⟨?_, fun _ _ => ⟨refused, rfl, rfl, rfl⟩, ?_, ?_⟩
    · intro asks
      have page := (isAnswered_iff method).mpr asks
      exact absurd (page.symm.trans answered) nofun
    · rw [refused]
    · rw [refused]

/-- A host with a key, whose output stream refuses every line. -/
def refusing : Host :=
  { Workspace.bareHost with
    environment := .table [(keySecret, "sk-live")]
    out := .failing .brokenPipe }

/-- A target with a path and a query. -/
def statusTarget : Target := ⟨none, [], Utf8.ofString "/status?verbose=1"⟩

/-- The page is served there although its record is lost, and a request to change something is
refused. -/
theorem request_answered_status :
    Target.read (Utf8.ofString "/status?verbose=1") = .ok statusTarget ∧
      (∀ text, (refusing.out.writeLine (servedRecord .get statusTarget refusing).line).1 ≠
        .panicked text) ∧
      (∀ text, (refusing.out.writeLine (servedRecord ⟨"POST"⟩ statusTarget refusing).line).1 ≠
        .panicked text) ∧
      Served .standard .get (Utf8.ofString "/status?verbose=1") statusTarget refusing
        ((answer .standard .get statusTarget : Action Empty Response).run refusing) ∧
      (answer .standard ⟨"POST"⟩ statusTarget : Action Empty Response).run refusing =
        (.done .methodNotAllowed, refusing) ∧ Response.methodNotAllowed.status = 405 := by
  have taken : Target.read (Utf8.ofString "/status?verbose=1") = .ok statusTarget := by
    decide +kernel
  have routed : statusTarget.isRouted = true := by decide +kernel
  have calm (method : Method) (text : String) :
      (refusing.out.writeLine (servedRecord method statusTarget refusing).line).1 ≠
        .panicked text := by
    intro panicked
    cases panicked
  have page := request_answered (ε := Empty) .standard refusing .get _ _ taken routed (calm _)
  have change := request_answered (ε := Empty) .standard refusing ⟨"POST"⟩ _ _ taken routed
    (calm _)
  obtain ⟨refused, status, _⟩ := change.2.1 (by decide) (by decide)
  exact ⟨taken, calm .get, calm ⟨"POST"⟩, (page.1 (.inl rfl)).1, refused, status⟩

end AgentKit.Http.Server
