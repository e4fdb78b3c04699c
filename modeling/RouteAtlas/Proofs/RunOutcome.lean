import RouteAtlas.Proofs.ReportTexts
import RouteAtlas.Proofs.SurveyCompletion

set_option autoImplicit false

namespace RouteAtlas

namespace Survey

variable (logger : Logger) (options : Options) (files : FileSystem) (arguments : List Text) (format : Text)

theorem collect_unexpanded {cause : Failure} (first : files.FirstFails arguments cause) :
    collect logger options files arguments = { result := .error cause, records := [] } := by
  rw [collect_eq_collectPaths, collectPaths,
    (FileSystem.expandPaths_eq_error_iff options.sourceSuffix).mpr first]

theorem result_unexpanded {cause : Failure} (first : files.FirstFails arguments cause) :
    (collect logger options files arguments).result = .error cause :=
  congrArg Logged.result (collect_unexpanded logger options files arguments first)

theorem collect_ne_unknownFormat (asked : Text) :
    (collect logger options files arguments).result ≠ .error (.unknownFormat asked) := by
  cases expanded : files.expandPaths options.sourceSuffix arguments with
  | error cause =>
    have first := (FileSystem.expandPaths_eq_error_iff options.sourceSuffix).mp expanded
    rw [collect_unexpanded logger options files arguments first]
    rcases first.cause_cases with rfl | ⟨path, rfl⟩ | ⟨reason, rfl⟩ <;> simp
  | ok sources =>
    simp only [collect_eq_collectPaths, collectPaths, expanded, collectFiles_result]
    cases stopped : sources.findSome? (stop? options readMethods) with
    | none => simp
    | some cause =>
      obtain ⟨source, -, stops⟩ := List.exists_of_findSome?_eq_some stopped
      have failed := (failure?_eq_some readMethods).mp (Option.filter_eq_some_iff.mp stops).1
      rintro ⟨⟩
      rcases source.readMethods_cases with ⟨line, -, -, read⟩ | ⟨-, -, read⟩ | ⟨-, -, read⟩ <;>
        simp [read] at failed

theorem conclude_eq (survey : Survey) (records : List LogRecord) :
    survey.conclude logger records =
      records ++ logger.kept ({ severity := .info, message := survey.summaryMessage } ::
        survey.unresolved.map fun declaration =>
          { severity := .debug, message := unresolvedMessage declaration }) := by
  have told (declarations : List Text) (written : List LogRecord) :
      declarations.foldl (fun written declaration => logger.write .debug (unresolvedMessage declaration) written) written =
        written ++ logger.kept (declarations.map fun declaration =>
          { severity := .debug, message := unresolvedMessage declaration }) := by
    induction declarations generalizing written with
    | nil => exact (List.append_nil written).symm
    | cons declaration rest ih =>
      rw [List.foldl_cons, ih, Logger.write_eq, List.append_assoc, ← Logger.kept_append]
      rfl
  rw [conclude, told, Logger.write_eq, List.append_assoc, ← Logger.kept_append]
  rfl

theorem run_of_failed (cause : Failure) (failed : (collect logger options files arguments).result = .error cause) :
    run logger options files arguments format =
      { written := [], result := .error cause, records := (collect logger options files arguments).records } := by
  simp only [run, runTo, failed]

theorem run_of_unknown (survey : Survey) (collected : (collect logger options files arguments).result = .ok survey)
    (unknown : ReportFormat.ofName? format = none) :
    run logger options files arguments format = {
      written := []
      result := .error (.unknownFormat format)
      records := (collect logger options files arguments).records } := by
  simp only [run, runTo, collected, ReportFormat.write, unknown]

theorem run_of_known (survey : Survey) (collected : (collect logger options files arguments).result = .ok survey)
    (known : ReportFormat) (named : ReportFormat.ofName? format = some known) :
    run logger options files arguments format = {
      written := known.pieces survey.endpoints
      result := .ok survey
      records := survey.conclude logger (collect logger options files arguments).records } := by
  have taken : (accepted (fun _ => true) (known.pieces survey.endpoints)).2 = true := by simp [accepted]
  simp only [run, runTo, collected, ReportFormat.write, named, taken, if_true]

section Home

def homeFiles : FileSystem :=
  { FileSystem.ofEntries [.directory "home" [.file routedFile.name routedFile.content]] with
    home? := fun user => if user.isEmpty then some { root := [], components := ["home"] } else none }

def homeReports : List (Text × Text) :=
  [("text", "[1] /a GET = A#m (home/Routed.java)\n"),
    ("table",
      "┏━━━┳━━━━━━┳━━━━━━━━┳━━━━━━━━━━━━━┳━━━━━━━━━━━━━━━━━━┓\n" ++
      "┃ # ┃ PATH ┃ METHOD ┃ DECLARATION ┃ FILE             ┃\n" ++
      "┡━━━╇━━━━━━╇━━━━━━━━╇━━━━━━━━━━━━━╇━━━━━━━━━━━━━━━━━━┩\n" ++
      "│ 1 │ /a   │ GET    │ A#m         │ home/Routed.java │\n" ++
      "└───┴──────┴────────┴─────────────┴──────────────────┘\n"),
    ("json",
      "[\n  \x7b\n    \"http_method\": \"GET\",\n    \"http_path\": \"/a\",\n" ++
      "    \"file_path\": \"home/Routed.java\",\n    \"declaration_id\": \"A#m\"\n  \x7d\n]\n")]

end Home

end Survey

end RouteAtlas
