import RouteAtlas.Proofs.CollectionSteps
import RouteAtlas.Survey

/-!
How a survey goes on from file to file, whatever its files are read by.

A survey passes over a file, or ends at it (`Survey.stop?`). What it knows after files that it has passed is a function
of these files alone (`Survey.passed`): one collection that joins what each of them gives, the names of those that were
refused, and for every file an announcement, with a warning behind it if the file was refused. Main statements:
`collectFiles_completes` and `collectFiles_stops`.
-/

set_option autoImplicit false

namespace RouteAtlas

def SourceFile.name (source : SourceFile) : Text :=
  source.path.toText

namespace Logger

variable (logger : Logger)

def kept (records : List LogRecord) : List LogRecord :=
  records.filter fun record => logger.keeps record.severity

theorem kept_append (first second : List LogRecord) :
    logger.kept (first ++ second) = logger.kept first ++ logger.kept second :=
  List.filter_append ..

theorem write_eq (severity : Severity) (message : Text) (records : List LogRecord) :
    logger.write severity message records = records ++ logger.kept [{ severity := severity, message := message }] := by
  cases keeps : logger.keeps severity <;> simp [write, kept, keeps]

end Logger

namespace Survey

section Files

variable (options : Options) (names : List Text)
  (read : SourceFile -> Except Failure (List Method)) (source : SourceFile)

def failure? : Option Failure :=
  match read source with
  | .ok _ => none
  | .error cause => some cause

def isRead : Bool :=
  (failure? read source).isNone

def Options.endsAt : Failure -> Bool
  | .notJava _ _ => !options.keepGoing
  | _ => true

def stop? : Option Failure :=
  (failure? read source).filter options.endsAt

def offered : Collection :=
  Collection.alone names { file := source.name, methods := read source }

def found (sources : List SourceFile) : Collection :=
  Collection.concat (sources.map (offered names read))

def announcement (before : List SourceFile) : LogRecord :=
  { severity := .info, message := progressMessage (found names read before).size source.name }

def warnings : List LogRecord :=
  (failure? read source).toList.map fun cause => { severity := .warning, message := skipMessage cause }

def trace (before : List SourceFile) : List SourceFile -> List LogRecord
  -- What is told about files when others have been read before.
  | [] => []
  | source :: rest => announcement names read source before :: warnings read source ++ trace (before ++ [source]) rest

end Files

section Passed

variable (logger : Logger) (names : List Text) (read : SourceFile -> Except Failure (List Method))

/-- What a survey knows after files that it has passed. -/
def passed (sources : List SourceFile) : Progress :=
  { collection := found names read sources
    skipped := (sources.filter fun source => !isRead read source).map SourceFile.name
    records := logger.kept (trace names read [] sources) }

theorem failure?_eq_some {source : SourceFile} {cause : Failure} :
    failure? read source = some cause ↔ read source = .error cause := by
  rw [failure?]
  cases read source <;> simp

theorem failure?_of_ok {source : SourceFile} {methods : List Method} (told : read source = .ok methods) :
    failure? read source = none := by
  rw [failure?, told]

theorem trace_append (before first second : List SourceFile) :
    trace names read before (first ++ second) =
      trace names read before first ++ trace names read (before ++ first) second := by
  induction first generalizing before with
  | nil => simp [trace]
  | cons source rest ih => simp [trace, ih]

theorem found_append (first second : List SourceFile) :
    found names read (first ++ second) = (found names read first).append (found names read second) := by
  rw [found, List.map_append, Collection.concat_append]
  rfl

theorem found_singleton (source : SourceFile) : found names read [source] = offered names read source :=
  Collection.concat_singleton _

theorem announce_passed (before : List SourceFile) (source : SourceFile) :
    (passed logger names read before).announce logger source.name =
      { passed logger names read before with
        records := logger.kept (trace names read [] before ++ [announcement names read source before]) } := by
  rw [Progress.announce, Logger.write_eq, Logger.kept_append]
  rfl

theorem add_passed (before : List SourceFile) (source : SourceFile) (methods : List Method)
    (told : read source = .ok methods) :
    ((passed logger names read before).announce logger source.name).add names source.name methods =
      passed logger names read (before ++ [source]) := by
  have unfailed := failure?_of_ok read told
  have joined := Collection.addFile_alone names (found names read before)
    { file := source.name, methods := read source } methods told
  rw [announce_passed, Progress.add, passed, passed, joined, found_append, found_singleton, trace_append]
  simp [trace, warnings, isRead, unfailed, offered]

theorem skip_passed (before : List SourceFile) (source : SourceFile) (cause : Failure)
    (told : read source = .error cause) :
    ((passed logger names read before).announce logger source.name).skip logger source.name cause =
      passed logger names read (before ++ [source]) := by
  have failed := (failure?_eq_some read).mpr told
  have nothing : offered names read source = Collection.empty :=
    Collection.alone_error names _ cause told
  rw [announce_passed, Progress.skip, passed, passed, found_append, found_singleton, trace_append, nothing,
    Collection.append_empty, Logger.write_eq, ← Logger.kept_append]
  simp [trace, warnings, isRead, failed]

end Passed

variable (logger : Logger) (options : Options) (read : SourceFile -> Except Failure (List Method))

theorem readFiles_pass (before rest : List SourceFile) (source : SourceFile)
    (passes : stop? options read source = none) :
    readFiles logger options read (passed logger options.routingNames read before) (source :: rest) =
      readFiles logger options read (passed logger options.routingNames read (before ++ [source])) rest := by
  cases told : read source with
  | ok methods =>
    simp only [readFiles, told]
    have added := add_passed logger options.routingNames read before source methods told
    exact congrArg (readFiles logger options read · rest) added
  | error cause =>
    rw [stop?, (failure?_eq_some read).mpr told] at passes
    cases cause with
    | notJava file line =>
      have going : options.keepGoing = true := by simpa [Options.endsAt] using passes
      simp only [readFiles, told, going, if_true]
      have skipped := skip_passed logger options.routingNames read before source _ told
      exact congrArg (readFiles logger options read · rest) skipped
    | _ => simp [Options.endsAt] at passes

theorem readFiles_stop (before rest : List SourceFile) (source : SourceFile) (cause : Failure)
    (stops : stop? options read source = some cause) :
    readFiles logger options read (passed logger options.routingNames read before) (source :: rest) =
      ((passed logger options.routingNames read before).announce logger source.name, some cause) := by
  obtain ⟨failed, ends⟩ := Option.filter_eq_some_iff.mp stops
  have told := (failure?_eq_some read).mp failed
  cases cause with
  | notJava file line =>
    have strict : options.keepGoing = false := by simpa [Options.endsAt] using ends
    simp only [readFiles, told, strict, Bool.false_eq_true, if_false]
    rfl
  | _ =>
    simp only [readFiles, told]
    rfl

theorem readFiles_append (before first rest : List SourceFile)
    (pass : ∀ source ∈ first, stop? options read source = none) :
    readFiles logger options read (passed logger options.routingNames read before) (first ++ rest) =
      readFiles logger options read (passed logger options.routingNames read (before ++ first)) rest := by
  induction first generalizing before with
  | nil => rw [List.nil_append, List.append_nil]
  | cons source others ih =>
    obtain ⟨here, later⟩ := List.forall_mem_cons.mp pass
    rw [List.cons_append, readFiles_pass logger options read before _ source here, ih _ later, List.append_assoc,
      List.singleton_append]

def result (names : List Text) (read : SourceFile -> Except Failure (List Method)) (sources : List SourceFile) :
    Survey :=
  { endpoints := (found names read sources).endpoints
    filesScanned := sources.length
    unresolved := (found names read sources).unresolved
    skipped := (sources.filter fun source => !isRead read source).map SourceFile.name }

def collectFiles (sources : List SourceFile) : Logged Survey :=
  match readFiles logger options read (Progress.start []) sources with
  | (progress, some cause) => { result := .error cause, records := progress.records }
  | (progress, none) =>
    { result := .ok {
        endpoints := progress.collection.endpoints
        filesScanned := sources.length
        unresolved := progress.collection.unresolved
        skipped := progress.skipped }
      records := progress.records }

def collectPaths (files : FileSystem) (arguments : List Text) : Logged Survey :=
  match files.expandPaths options.sourceSuffix arguments with
  | .error cause => { result := .error cause, records := [] }
  | .ok sources => collectFiles logger options read sources

theorem collect_eq_collectPaths (files : FileSystem) (arguments : List Text) :
    collect logger options files arguments = collectPaths logger options readMethods files arguments :=
  rfl

theorem collectFiles_completes (sources : List SourceFile)
    (pass : ∀ source ∈ sources, stop? options read source = none) :
    collectFiles logger options read sources =
      { result := .ok (result options.routingNames read sources)
        records := logger.kept (trace options.routingNames read [] sources) } := by
  have run := readFiles_append logger options read [] sources [] pass
  rw [List.append_nil, List.nil_append, readFiles] at run
  have start : Progress.start [] = passed logger options.routingNames read [] := rfl
  rw [collectFiles, start, run]
  rfl

theorem collectFiles_stops (before after : List SourceFile) (source : SourceFile) (cause : Failure)
    (pass : ∀ source ∈ before, stop? options read source = none) (stops : stop? options read source = some cause) :
    collectFiles logger options read (before ++ source :: after) =
      { result := .error cause
        records := logger.kept (trace options.routingNames read [] before ++
          [announcement options.routingNames read source before]) } := by
  have run := readFiles_append logger options read [] before (source :: after) pass
  rw [List.nil_append, readFiles_stop logger options read before after source cause stops, announce_passed] at run
  have start : Progress.start [] = passed logger options.routingNames read [] := rfl
  rw [collectFiles, start, run]

theorem collectFiles_result (sources : List SourceFile) :
    (collectFiles logger options read sources).result =
      (sources.findSome? (stop? options read)).elim (.ok (result options.routingNames read sources)) .error := by
  cases stopped : sources.findSome? (stop? options read) with
  | none =>
    rw [List.findSome?_eq_none_iff] at stopped
    rw [collectFiles_completes logger options read sources stopped]
    rfl
  | some cause =>
    obtain ⟨before, source, after, rfl, stops, pass⟩ := List.findSome?_eq_some_iff.mp stopped
    rw [collectFiles_stops logger options read before after source cause pass stops]
    rfl

end Survey

end RouteAtlas
