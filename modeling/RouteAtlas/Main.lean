import RouteAtlas.Command

set_option autoImplicit false

namespace RouteAtlas.Machine

def written (text : Text) : String :=
  (Text.toString? text).getD ""

def isOwnDirectory (entry : IO.FS.DirEntry) : IO Bool := do
  let known <- entry.path.symlinkMetadata
  return known.type == .dir

partial def loadTree (ending : Text) (entry : IO.FS.DirEntry) : IO FileTree := do
  -- What stands at a place, as far as a survey reads it: in directories that are searched, files of the right ending.
  let name := Text.ofString entry.fileName
  if (<- entry.path.isDir) then
    let mut inside : List FileTree := []
    for next in (<- entry.path.readDir) do
      let nextName := Text.ofString next.fileName
      if (<- isOwnDirectory next) then
        if !ignoredNames.contains nextName then
          inside := (<- loadTree ending next) :: inside
      else if nextName.endsWith ending && !(<- next.path.isDir) then
        inside := (<- loadTree ending next) :: inside
    return .directory name inside
  else
    return .file name (<- IO.FS.readBinFile entry.path).toList

def homeOfText (text : Text) : Option Path :=
  -- The directory that an entry for a home names. A tilde in it is not expanded again.
  let path := Path.ofText text
  if text.all (· = CodePoint.slash) then some { root := [CodePoint.slash], components := [] }
  else if text.head? = some ('~' : CodePoint) then none
  else some path

def loadHomes : IO (Text -> Option Path) := do
  -- The homes of all users, by their names, and of the one who asks: the directory that the environment names, or the
  -- one of the user who runs the program.
  let read (file : String) : IO (List String) :=
    (do return (<- IO.FS.lines file).toList) <|> return []
  let users := (<- read "/etc/passwd").map fun line => line.splitOn ":"
  let status := (<- read "/proc/self/status").map fun line => line.splitOn "\t"
  let userId := (status.find? fun parts => parts.head? = some "Uid:").bind fun parts => parts[1]?
  let entryHome (entry : Option (List String)) : Option Text :=
    (entry.bind fun parts => parts[5]?).map Text.ofString
  let own := (<- IO.getEnv "HOME").map Text.ofString
  let listed := entryHome (users.find? fun parts => userId.isSome && parts[2]? = userId)
  return fun user =>
    let home :=
      if user.isEmpty then own.or listed
      else entryHome (users.find? fun parts => parts.head?.map Text.ofString = some user)
    home.bind homeOfText

def loopCodes : List UInt32 :=
  [40, 0 - 40]

def refusalOf? : IO.Error -> Option Text
  | .noFileOrDirectory _ _ _ | .inappropriateType _ _ _ => none
  | .invalidArgument file code details =>
    if loopCodes.contains code then none else some (Text.ofString (toString (IO.Error.invalidArgument file code details)))
  | cause => some (Text.ofString (toString cause))

def loadFiles (ending : Text) (arguments : List Text) : IO FileSystem := do
  let here <- IO.currentDir
  let home? <- loadHomes
  let places : FileSystem := { find? := fun _ => none, home? := home? }
  let mut known : List (Path × FileTree) := []
  let mut refused : List (Path × Text) := []
  for path in arguments.filterMap fun argument => places.locate? (Path.ofText argument) do
    let entry : IO.FS.DirEntry := { root := here, fileName := written path.toText }
    match (<- entry.path.metadata.toBaseIO) with
    | .ok _ => known := (path, <- loadTree ending entry) :: known
    | .error cause =>
      if let some reason := refusalOf? cause then refused := (path, reason) :: refused
  return { find? := fun path => known.lookup path, home? := home?, refusal? := fun path => refused.lookup path }

def loadEnvironment (names : List String) : IO (List (Text × Text)) := do
  let found <- names.mapM fun name => do
    let value <- IO.getEnv name
    return value.map fun value => (Text.ofString name, Text.ofString value)
  return found.reduceOption

def usage : String :=
  "\n".intercalate [
    "Usage: reqmap [OPTIONS] PATHS...",
    "",
    "  Print every @RequestMapping endpoint declared under PATHS.",
    "",
    "Options:",
    "  -f, --format TEXT  Output format: text|table|json",
    "  --keep-going       Skip files that fail to parse",
    "  -q, --quiet        Only log warnings and errors",
    "  --help             Show this message and exit."]

def report (outcome : Command.Outcome) : IO UInt32 := do
  for record in outcome.records do
    IO.eprintln (written record.message)
  IO.print (written outcome.output)
  IO.eprint (written outcome.errors)
  match outcome.escaped with
  | some cause => IO.eprintln (written cause.message)
  | none => pure ()
  return outcome.exitCode.toUInt32

end RouteAtlas.Machine

open RouteAtlas in
def main (arguments : List String) : IO UInt32 := do
  let given := arguments.map Text.ofString
  match Command.Request.ofArguments given with
  | .help =>
    IO.println Machine.usage
    return 0
  | .misuse =>
    IO.eprintln Machine.usage
    return 2
  | .survey found =>
    let environment <- Machine.loadEnvironment Settings.variableNames
    let settings := Settings.ofEnvironment environment
    let files <- Machine.loadFiles settings.sourceSuffix found.paths
    Machine.report (Command.execute { level := settings.logLevel } settings files given)
