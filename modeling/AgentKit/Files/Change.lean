import AgentKit.Files.Walk
/-!
# Changing files

Making directories, writing files, making links and removing entries. Each change answers with the
error of the operating system or with the files after it. Two changes may fail after a part of
their work is done and give back the files they leave: making a chain of directories, and removing
a directory that has to stay itself.
-/
namespace AgentKit.Files

/-- The directory and the free name that a route gives to something new. -/
def freePlace (files : Files) (route : Route) : Except Errno (Directory × Bytes) :=
  match files.approach route with
  | .error errno => .error errno
  | .ok none => .error .alreadyExists
  | .ok (some (above, name, _)) =>
    if isStep name then .error .alreadyExists
    else
      match above.look name with
      | .error errno => .error errno
      | .ok (some _) => .error .alreadyExists
      | .ok none => .ok (above, name)

/-- Make one directory. The name must be free; a slash at the end of the path means nothing. -/
def makeDirectory (files : Files) (path : Path) : Except IoError Files :=
  match path.route with
  | .error error => .error error
  | .ok route =>
    match files.freePlace route with
    | .error errno => .error (.system errno)
    | .ok (above, name) => .ok (files.replace (above.put name (.directory [])))

/-- Make one directory, unless the path leads to a directory already. -/
def settleDirectory (files : Files) (path : Path) : Except IoError Unit × Files :=
  match files.makeDirectory path with
  | .ok made => (.ok (), made)
  | .error error => (if files.isDirectory path then .ok () else .error error, files)

/-- Make a directory and those above it that are missing. A directory is tried first, and only if
something on the way is missing the one above it is made before the second try. The empty path
stands for the working directory, which is there. -/
def makeDirectories (files : Files) (path : Path) : Except IoError Unit × Files :=
  if path.octets = [] then (.ok (), files)
  else
    match files.makeDirectory path with
    | .ok made => (.ok (), made)
    | .error error =>
      if error.kind = .notFound then
        match _up : path.parent? with
        | none => (.error (.custom .uncategorized "failed to create whole tree"), files)
        | some parent =>
          match files.makeDirectories parent with
          | (.error error, changed) => (.error error, changed)
          | (.ok (), changed) => changed.settleDirectory path
      else if files.isDirectory path then (.ok (), files)
      else (.error error, files)
termination_by path.octets.length
decreasing_by exact Path.parent?_length _up

/-- The directory and the name that a route opens for writing. A link at the end is followed also
when its target is missing, which is then the name to fill. -/
def openFile (files : Files) (links : Nat) (directory : Directory) (route : Route) :
    Except Errno (Directory × Bytes) :=
  match _walked : files.followToLast links directory route with
  | .error errno => .error errno
  | .ok none => .error .isDirectory
  | .ok (some (above, name, remaining)) =>
    if isStep name || route.slashed then .error .isDirectory
    else
      match above.look name with
      | .error errno => .error errno
      | .ok (some (.directory _)) => .error .isDirectory
      | .ok (some (.link target)) =>
        match _left : remaining with
        | 0 => .error .tooManyLinks
        | fewer + 1 => files.openFile fewer above (.ofOctets target)
      | .ok (some (.file _)) | .ok (some (.device _)) | .ok none => .ok (above, name)
termination_by links
decreasing_by
  have bound := followToLast_links_le _walked
  omega

/-- Write a whole file: what was there is replaced, and a missing file is made. -/
def writeFile (files : Files) (path : Path) (contents : Bytes) : Except IoError Files :=
  match path.route with
  | .error error => .error error
  | .ok route =>
    match files.openFile linkLimit files.workingDirectory route with
    | .error errno => .error (.system errno)
    | .ok (above, name) =>
      match above.members.entry? name with
      | some (.device .null) => .ok files
      | some (.device .full) =>
        if contents = [] then .ok files else .error (.system .noSpace)
      | _ => .ok (files.replace (above.put name (.file contents)))

/-- Make a symbolic link. The target need not exist. A zero octet in the path counts before anything
else that is wrong with the target. -/
def makeLink (files : Files) (path target : Path) : Except IoError Files :=
  if path.octets.contains 0 then .error .zeroOctet
  else
    match target.route, path.route with
    | .error error, _ => .error error
    | .ok _, .error error => .error error
    | .ok _, .ok route =>
      match files.freePlace route with
      | .error errno => .error (.system errno)
      | .ok (above, name) =>
        if route.slashed then .error (.system .noEntry)
        else .ok (files.replace (above.put name (.link target.octets)))

/-- The directory that a route leads to and whose members are removed. A link at its end is followed
only when a slash stands behind it. -/
def directoryToEmpty? (files : Files) (route : Route) : Option Directory :=
  let reached :=
    match files.approach route with
    | .ok (some (above, name, _)) =>
      if route.slashed || isStep name then files.reach route
      else .ok (above.inner? name)
    | .ok none | .error _ => files.reach route
  match reached with
  | .ok place => place
  | .error _ => none

/-- Remove an empty directory. A link is no directory, whatever stands behind its name. -/
def removeDirectory (files : Files) (route : Route) : Except Errno Files :=
  match files.approach route with
  | .error errno => .error errno
  | .ok none => .error .resourceBusy
  | .ok (some (above, name, _)) =>
    if name = Path.here then .error .invalidArgument
    else if name = Path.above then .error .notEmpty
    else
      match above.look name with
      | .error errno => .error errno
      | .ok none => .error .noEntry
      | .ok (some (.directory [])) => .ok (files.replace (above.without name))
      | .ok (some (.directory (_ :: _))) => .error .notEmpty
      | .ok (some _) => .error .notDirectory

/-- Remove an entry that is no directory. A link goes itself, and not what it leads to. -/
def removeFile (files : Files) (route : Route) : Except Errno Files :=
  match files.approach route with
  | .error errno => .error errno
  | .ok none => .error .isDirectory
  | .ok (some (above, name, _)) =>
    if isStep name then .error .isDirectory
    else
      match above.look name with
      | .error errno => .error errno
      | .ok none => .error .noEntry
      | .ok (some (.directory _)) => .error .isDirectory
      | .ok (some _) =>
        if route.slashed then .error .notDirectory
        else .ok (files.replace (above.without name))

/-- Remove an entry, and everything below it first if it is a directory. The path is followed again
behind that, and if it leads nowhere then, nothing is left to do. -/
def remove (files : Files) (path : Path) : Except IoError Unit × Files :=
  match path.route with
  | .error error => (.error error, files)
  | .ok route =>
    match files.directoryToEmpty? route with
    | none =>
      match files.removeFile route with
      | .ok removed => (.ok (), removed)
      | .error errno => (.error (.system errno), files)
    | some directory =>
      let emptied := files.replace directory.emptied
      match emptied.removeDirectory route with
      | .ok removed => (.ok (), removed)
      | .error errno =>
        (if errno = .noEntry then .ok () else .error (.system errno), emptied)

end AgentKit.Files
