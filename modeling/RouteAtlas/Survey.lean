import RouteAtlas.Failure
import RouteAtlas.Files.Search
import RouteAtlas.Log
import RouteAtlas.Report.Json
import RouteAtlas.Report.Lines
import RouteAtlas.Report.Table
import RouteAtlas.Routing.Collection
import RouteAtlas.Settings
import RouteAtlas.Source

set_option autoImplicit false

namespace RouteAtlas

inductive ReportFormat where
  | text
  | table
  | json
deriving DecidableEq, Repr

namespace ReportFormat

def ofName? (name : Text) : Option ReportFormat :=
  [(("text" : Text), text), ("table", table), ("json", json)].lookup name

def pieces (endpoints : List Endpoint) : ReportFormat -> List Text
  | text => Report.writtenLines endpoints
  | table => [Report.Table.document endpoints]
  | json => Report.Json.writtenPieces endpoints

def write (name : Text) (endpoints : List Endpoint) : Except Failure (List Text) :=
  match ofName? name with
  | some format => .ok (format.pieces endpoints)
  | none => .error (.unknownFormat name)

end ReportFormat

structure Survey where
  endpoints : List Endpoint
  filesScanned : Nat
  unresolved : List Text
  skipped : List Text
deriving DecidableEq, Repr

namespace Survey

structure Options where
  sourceSuffix : Text
  routingNames : List Text
  keepGoing : Bool
deriving DecidableEq, Repr

def Options.ofSettings (settings : Settings) (sourceSuffix : Text) (routingNames : List Text) (keepGoing : Bool) :
    Options :=
  { sourceSuffix := if sourceSuffix.isEmpty then settings.sourceSuffix else sourceSuffix
    routingNames := if routingNames.isEmpty then settings.routingNames else routingNames
    keepGoing := keepGoing }

structure Progress where
  collection : Collection
  skipped : List Text
  records : List LogRecord
deriving DecidableEq, Repr

def progressMessage (count : Nat) (file : Text) : Text :=
  Text.ofNat count ++ " endpoints so far. Processing " ++ file

def skipMessage (cause : Failure) : Text :=
  "Skipping " ++ cause.message

namespace Progress

def start (records : List LogRecord) : Progress :=
  { collection := Collection.empty, skipped := [], records := records }

def announce (logger : Logger) (file : Text) (progress : Progress) : Progress :=
  { progress with
    records := logger.write .info (progressMessage progress.collection.size file) progress.records }

def add (names : List Text) (file : Text) (methods : List Method) (progress : Progress) : Progress :=
  { progress with collection := progress.collection.addFile names file methods }

def skip (logger : Logger) (file : Text) (cause : Failure) (progress : Progress) : Progress :=
  { progress with
    skipped := progress.skipped ++ [file]
    records := logger.write .warning (skipMessage cause) progress.records }

end Progress

def readFiles (logger : Logger) (options : Options) (read : SourceFile -> Except Failure (List Method)) :
    Progress -> List SourceFile -> Progress × Option Failure
  -- Reads files one after another. The first failure ends the survey, but one who wants to keep going passes over
  -- files that do not follow the grammar.
  | progress, [] => (progress, none)
  | progress, source :: rest =>
    let name := source.path.toText
    let announced := progress.announce logger name
    match read source with
    | .ok methods => readFiles logger options read (announced.add options.routingNames name methods) rest
    | .error (.notJava file line) =>
      if options.keepGoing then
        readFiles logger options read (announced.skip logger name (.notJava file line)) rest
      else (announced, some (.notJava file line))
    | .error cause => (announced, some cause)

def readMethods (source : SourceFile) : Except Failure (List Method) :=
  (Source.read source.path.toText (Utf8.decode source.content)).map FileReading.methods

/-- A result or a failure, with the records written until then. -/
structure Logged (Result : Type) where
  result : Except Failure Result
  records : List LogRecord

def collect (logger : Logger) (options : Options) (files : FileSystem) (arguments : List Text) :
    Logged Survey :=
  match files.expandPaths options.sourceSuffix arguments with
  | .error cause => { result := .error cause, records := [] }
  | .ok sources =>
    match readFiles logger options readMethods (Progress.start []) sources with
    | (progress, some cause) => { result := .error cause, records := progress.records }
    | (progress, none) =>
      { result := .ok {
          endpoints := progress.collection.endpoints
          filesScanned := sources.length
          unresolved := progress.collection.unresolved
          skipped := progress.skipped }
        records := progress.records }

def summaryMessage (survey : Survey) : Text :=
  "Files scanned: " ++ Text.ofNat survey.filesScanned
    ++ ", endpoints: " ++ Text.ofNat survey.endpoints.length
    ++ ", unresolved declarations: " ++ Text.ofNat survey.unresolved.length
    ++ ", skipped files: " ++ Text.ofNat survey.skipped.length

def unresolvedMessage (declaration : Text) : Text :=
  "No HTTP method resolved for " ++ declaration

def conclude (logger : Logger) (survey : Survey) (records : List LogRecord) : List LogRecord :=
  survey.unresolved.foldl (fun written declaration => logger.write .debug (unresolvedMessage declaration) written)
    (logger.write .info survey.summaryMessage records)

/-- What a survey with a report has done: the pieces written, what was found or why it failed, and the records. -/
structure Run where
  written : List Text
  result : Except Failure Survey
  records : List LogRecord

def accepted (accepts : Text -> Bool) (pieces : List Text) : List Text × Bool :=
  (pieces.takeWhile accepts, pieces.all accepts)

def runTo (accepts : Text -> Bool) (logger : Logger) (options : Options) (files : FileSystem)
    (arguments : List Text) (format : Text) : Run :=
  -- Surveys files and writes the report of what was found. The destination may refuse a piece, and then nothing more
  -- is written.
  let collected := collect logger options files arguments
  match collected.result with
  | .error cause => { written := [], result := .error cause, records := collected.records }
  | .ok survey =>
    match ReportFormat.write format survey.endpoints with
    | .error cause => { written := [], result := .error cause, records := collected.records }
    | .ok pieces =>
      if (accepted accepts pieces).2 then
        { written := pieces, result := .ok survey, records := survey.conclude logger collected.records }
      else
        { written := (accepted accepts pieces).1, result := .error .unwritable, records := collected.records }

def run (logger : Logger) (options : Options) (files : FileSystem) (arguments : List Text) (format : Text) :
    Run :=
  runTo (fun _ => true) logger options files arguments format

end Survey

end RouteAtlas
