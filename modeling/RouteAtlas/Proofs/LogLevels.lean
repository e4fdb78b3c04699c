import RouteAtlas.Command
import RouteAtlas.Proofs.RunOutcome

set_option autoImplicit false

namespace RouteAtlas

namespace Logger

def thorough : Logger :=
  { level := Severity.debug.value }

theorem kept_thorough (records : List LogRecord) : thorough.kept records = records := by
  rw [kept, List.filter_eq_self]
  intro record _
  cases record.severity <;> decide

theorem kept_warnings (records : List LogRecord) :
    kept { level := Severity.warning.value } records =
      (kept { level := Severity.info.value } records).filter fun record =>
        Severity.warning.value ≤ record.severity.value := by
  rw [kept, kept, List.filter_filter]
  apply List.filter_congr
  intro record _
  cases record.severity <;> decide

end Logger

namespace Survey

def Logged.keptBy {Result : Type} (logger : Logger) (told : Logged Result) : Logged Result :=
  { told with records := logger.kept told.records }

def Run.keptBy (logger : Logger) (done : Run) : Run :=
  { done with records := logger.kept done.records }

variable (logger : Logger) (options : Options)

theorem collectFiles_keptBy (read : SourceFile -> Except Failure (List Method)) (sources : List SourceFile) :
    collectFiles logger options read sources = (collectFiles .thorough options read sources).keptBy logger := by
  cases stopped : sources.findSome? (stop? options read) with
  | none =>
    have pass := List.findSome?_eq_none_iff.mp stopped
    rw [collectFiles_completes logger options read sources pass, collectFiles_completes .thorough options read sources pass,
      Logged.keptBy, Logger.kept_thorough]
  | some cause =>
    obtain ⟨before, source, after, rfl, stops, pass⟩ := List.findSome?_eq_some_iff.mp stopped
    rw [collectFiles_stops logger options read before after source cause pass stops,
      collectFiles_stops .thorough options read before after source cause pass stops, Logged.keptBy,
      Logger.kept_thorough]

theorem collect_keptBy (files : FileSystem) (arguments : List Text) :
    collect logger options files arguments = (collect .thorough options files arguments).keptBy logger := by
  simp only [collect_eq_collectPaths, collectPaths]
  cases files.expandPaths options.sourceSuffix arguments with
  | error cause => rfl
  | ok sources => exact collectFiles_keptBy logger options readMethods sources

theorem conclude_keptBy (survey : Survey) (records : List LogRecord) :
    survey.conclude logger (logger.kept records) = logger.kept (survey.conclude .thorough records) := by
  rw [conclude_eq, conclude_eq, Logger.kept_thorough, Logger.kept_append]

theorem runTo_keptBy (accepts : Text -> Bool) (files : FileSystem) (arguments : List Text) (format : Text) :
    runTo accepts logger options files arguments format =
      (runTo accepts .thorough options files arguments format).keptBy logger := by
  rw [runTo, runTo, collect_keptBy logger options files arguments]
  obtain ⟨result, records⟩ := collect .thorough options files arguments
  cases result with
  | error cause => rfl
  | ok survey =>
    simp only [Logged.keptBy]
    cases ReportFormat.write format survey.endpoints with
    | error cause => rfl
    | ok pieces =>
      cases taken : (accepted accepts pieces).2 with
      | true => simp only [taken, if_true, Run.keptBy, conclude_keptBy]
      | false => simp only [taken, Bool.false_eq_true, if_false, Run.keptBy]

end Survey

namespace Command

def Arguments.hushed (found : Arguments) : Arguments :=
  { found with quiet := true }

def Asked.hushed : Asked -> Asked
  | .done found => .done found.hushed
  | .formatNext found => .formatNext found.hushed
  | .unknown => .unknown

theorem set_hushed (found : Arguments) (option : OptionName) : found.hushed.set option = (found.set option).hushed := by
  cases option <;> rfl

theorem askLong_hushed (found : Arguments) (argument : Text) :
    askLong found.hushed argument = (askLong found argument).hushed := by
  simp only [askLong]
  split
  · rfl
  · rfl
  · rw [set_hushed]
    rfl
  · rfl

theorem askShort_hushed (found : Arguments) (letters : Text) :
    askShort found.hushed letters = (askShort found letters).hushed := by
  induction letters generalizing found with
  | nil => rfl
  | cons letter rest ih =>
    simp only [askShort]
    split
    · split <;> rfl
    · rw [set_hushed, ih]
    · rfl

theorem ask_hushed (found : Arguments) (argument : Text) : ask found.hushed argument = (ask found argument).hushed := by
  simp only [ask]
  split
  · exact askLong_hushed found argument
  · exact askShort_hushed found _

theorem readArguments?_hushed (found : Arguments) (arguments : List Text) :
    readArguments? found.hushed arguments = (readArguments? found arguments).map Arguments.hushed := by
  fun_induction readArguments? found arguments with
  | case1 found => rfl
  | case2 found rest => rfl
  | case3 found argument rest plain option next asked ih =>
    rw [readArguments?, if_neg plain, if_pos option, ask_hushed, asked]
    exact ih
  | case4 found argument rest plain option asked =>
    rw [readArguments?, if_neg plain, if_pos option, ask_hushed, asked]
    rfl
  | case5 found argument plain option next asked =>
    rw [readArguments?, if_neg plain, if_pos option, ask_hushed, asked]
    rfl
  | case6 found argument plain option next asked value others ih =>
    rw [readArguments?, if_neg plain, if_pos option, ask_hushed, asked]
    exact ih
  | case7 found argument rest plain path ih =>
    rw [readArguments?, if_neg plain, if_neg path]
    exact ih

theorem ofArguments_quiet (arguments : List Text) (found : Arguments)
    (asked : Request.ofArguments arguments = .survey found) :
    Request.ofArguments ("--quiet" :: arguments) = .survey found.hushed := by
  have read : readArguments? Arguments.none ("--quiet" :: arguments) =
      (readArguments? Arguments.none arguments).map Arguments.hushed :=
    readArguments?_hushed Arguments.none arguments
  rw [Request.ofArguments] at asked
  rw [Request.ofArguments, read]
  cases told : readArguments? Arguments.none arguments with
  | none => simp [told] at asked
  | some given =>
    simp only [told, Option.map_some, Arguments.hushed] at asked ⊢
    split at asked
    · exact absurd asked (by simp)
    · split at asked
      · exact absurd asked (by simp)
      · next loud known =>
        rw [if_neg loud, if_neg known]
        cases asked
        rfl

theorem survey_eq (logger : Logger) (settings : Settings) (files : FileSystem) (found : Arguments) :
    let full := survey .thorough settings files { found with quiet := false }
    survey logger settings files found = {
      full with
      records := (if found.quiet then { level := Severity.warning.value } else logger).kept full.records
      logger := logger } := by
  intro full
  have told (active : Logger) := Survey.runTo_keptBy active (Survey.Options.ofSettings settings [] [] found.keepGoing)
    isPrintable files found.paths found.format
  obtain ⟨paths, format, keepGoing, quiet, help⟩ := found
  cases quiet with
  | true =>
    simp only [survey, full, Option.elim_some, Option.elim_none, if_true, Bool.false_eq_true, if_false, Logger.setLevel,
      told { level := Severity.warning.value }, Survey.Run.keptBy]
    split <;> rfl
  | false =>
    simp only [survey, full, Option.elim_none, Bool.false_eq_true, if_false, told logger, Survey.Run.keptBy]
    split <;> rfl

theorem execute_survey (logger : Logger) (settings : Settings) (files : FileSystem) {arguments : List Text}
    {found : Arguments} (asked : Request.ofArguments arguments = .survey found) :
    execute logger settings files arguments = survey logger settings files found := by
  rw [execute, asked]

theorem execute_logger (logger : Logger) (settings : Settings) (files : FileSystem) (arguments : List Text) :
    (execute logger settings files arguments).logger = logger := by
  cases asked : Request.ofArguments arguments with
  | help => rw [execute, asked]
  | misuse => rw [execute, asked]
  | survey found => rw [execute_survey logger settings files asked, survey_eq]

end Command

end RouteAtlas
