import RouteAtlas.Proofs.LogLevels

set_option autoImplicit false

namespace RouteAtlas

namespace SourceFile

def Passes (options : Survey.Options) (source : SourceFile) : Prop :=
  Whole source.literals ∧ (options.keepGoing = true ∨ source.isJava = true)

instance (options : Survey.Options) (source : SourceFile) : Decidable (source.Passes options) :=
  inferInstanceAs (Decidable (_ ∧ _))

theorem stop?_of_passes {options : Survey.Options} {source : SourceFile} (passes : source.Passes options) :
    Survey.stop? options Survey.readMethods source = none := by
  obtain ⟨whole, going⟩ := passes
  rw [Survey.stop?, Survey.failure?]
  rcases source.readMethods_cases with ⟨line, java, -, read⟩ | ⟨-, -, read⟩ | ⟨-, cut, -⟩
  · simp [read, Survey.Options.endsAt, going.resolve_right (by simp [java])]
  · simp [read]
  · exact absurd whole cut

theorem stop?_of_cut {options : Survey.Options} {source : SourceFile} (cut : ¬ Whole source.literals) :
    Survey.stop? options Survey.readMethods source = some (.literal .unicodeEscape) := by
  rw [Survey.stop?, Survey.failure?]
  rcases source.readMethods_cases with ⟨line, -, whole, -⟩ | ⟨-, whole, -⟩ | ⟨-, -, read⟩
  · exact absurd whole cut
  · exact absurd whole cut
  · simp [read, Survey.Options.endsAt]

theorem stop?_of_refused {options : Survey.Options} {source : SourceFile} (whole : Whole source.literals)
    (stuck : ¬ source.Passes options) :
    ∃ line, Survey.stop? options Survey.readMethods source = some (.notJava source.name line) := by
  have strict : options.keepGoing = false := by
    simpa using fun going => stuck ⟨whole, .inl going⟩
  rw [Survey.stop?, Survey.failure?]
  rcases source.readMethods_cases with ⟨line, -, -, read⟩ | ⟨java, -, -⟩ | ⟨-, cut, -⟩
  · exact ⟨line, by simp [read, Survey.Options.endsAt, strict]⟩
  · exact absurd ⟨whole, .inr java⟩ stuck
  · exact absurd whole cut

end SourceFile

namespace Survey

/-- What a survey of some paths meets that is not an error of the paths or of the grammar. -/
inductive Unreported (options : Options) (files : FileSystem) (paths : List Text) (format : Text) : Failure -> Prop
  -- The first path that cannot be expanded begins at the home directory of someone unknown.
  | home (first : files.FirstFails paths .unknownHome) : Unreported options files paths format .unknownHome
  -- It is one that the system refuses to look for.
  | refused {reason : Text} (first : files.FirstFails paths (.refused reason)) :
      Unreported options files paths format (.refused reason)
  -- In the first file that the survey does not get past there is a literal without a value.
  | literal {sources : List SourceFile} {source : SourceFile}
      (expanded : files.expandPaths options.sourceSuffix paths = .ok sources)
      (first : sources.find? (fun source => !source.Passes options) = some source) (cut : ¬ Whole source.literals) :
      Unreported options files paths format (.literal .unicodeEscape)
  -- Everything has been read, and the report holds a surrogate.
  | surrogate {survey : Survey} {text : Text}
      (collected : (collect Logger.standard options files paths).result = .ok survey)
      (whole : Report.Complete format survey.endpoints text)
      (half : ∃ point ∈ text, 0xD800 ≤ point.val ∧ point.val < 0xE000) : Unreported options files paths format .unwritable

variable (logger : Logger) (options : Options) (files : FileSystem) (paths : List Text)

theorem collect_result (other : Logger) :
    (collect logger options files paths).result = (collect other options files paths).result := by
  rw [collect_keptBy logger, collect_keptBy other]
  rfl

section Expanded

variable {files paths} {sources : List SourceFile} (expanded : files.expandPaths options.sourceSuffix paths = .ok sources)
include expanded

theorem collect_result_of_expanded :
    (collect logger options files paths).result =
      (sources.findSome? (stop? options readMethods)).elim (.ok (result options.routingNames readMethods sources))
        .error := by
  simp only [collect_eq_collectPaths, collectPaths, expanded, collectFiles_result]

theorem collect_through (passes : sources.find? (fun source => !source.Passes options) = none) :
    (collect logger options files paths).result = .ok (result options.routingNames readMethods sources) := by
  have all : sources.findSome? (stop? options readMethods) = none := by
    rw [List.findSome?_eq_none_iff]
    intro source member
    exact source.stop?_of_passes (by simpa using List.find?_eq_none.mp passes source member)
  rw [collect_result_of_expanded logger options expanded, all, Option.elim_none]

theorem collect_stuck {source : SourceFile} {cause : Failure}
    (first : sources.find? (fun source => !source.Passes options) = some source)
    (stops : stop? options readMethods source = some cause) :
    (collect logger options files paths).result = .error cause := by
  obtain ⟨-, before, after, rfl, earlier⟩ := List.find?_eq_some_iff_append.mp first
  have ends : (before ++ source :: after).findSome? (stop? options readMethods) = some cause := by
    refine List.findSome?_eq_some_iff.mpr ⟨before, source, after, rfl, stops, fun other member => ?_⟩
    exact other.stop?_of_passes (by simpa using earlier other member)
  rw [collect_result_of_expanded logger options expanded, ends, Option.elim_some]

end Expanded

theorem collect_cases (format : Text) (asked : (ReportFormat.ofName? format).isSome = true) :
    let collected := (collect logger options files paths).result
    (∃ cause, collected = .error cause ∧ Command.reports cause = true) ∨
    (∃ cause, collected = .error cause ∧ Command.reports cause = false ∧ Unreported options files paths format cause) ∨
    ∃ survey pieces, collected = .ok survey ∧ ReportFormat.write format survey.endpoints = .ok pieces := by
  intro collected
  cases expanded : files.expandPaths options.sourceSuffix paths with
  | error cause =>
    have first := (FileSystem.expandPaths_eq_error_iff options.sourceSuffix).mp expanded
    have failed : collected = .error cause := result_unexpanded logger options files paths first
    rcases first.cause_cases with rfl | ⟨path, rfl⟩ | ⟨reason, rfl⟩
    · exact .inr (.inl ⟨_, failed, rfl, .home first⟩)
    · exact .inl ⟨_, failed, rfl⟩
    · exact .inr (.inl ⟨_, failed, rfl, .refused first⟩)
  | ok sources =>
    cases first : sources.find? fun source => !source.Passes options with
    | none =>
      obtain ⟨known, named⟩ := Option.isSome_iff_exists.mp asked
      have completes := collect_through logger options expanded first
      exact .inr (.inr ⟨_, _, completes, by rw [ReportFormat.write, named]⟩)
    | some source =>
      have stuck : ¬ source.Passes options := by simpa using List.find?_some first
      by_cases whole : Whole source.literals
      · obtain ⟨line, stops⟩ := source.stop?_of_refused whole stuck
        exact .inl ⟨_, collect_stuck logger options expanded first stops, rfl⟩
      · have failed := collect_stuck logger options expanded first (source.stop?_of_cut whole)
        exact .inr (.inl ⟨_, failed, rfl, .literal expanded first whole⟩)

end Survey

namespace Command

inductive Tells : Failure -> Text -> Prop
  | notJava (file : Text) (line : Nat) :
      Tells (.notJava file line) ("Java syntax error in " ++ file ++ ":" ++ Text.ofNat line)
  | missingPath (path : Text) : Tells (.missingPath path) ("No such file or directory: " ++ path)

/-- What a command promises when its survey ends in a certain way: the whole report of what was found and no error, or an
error and no report. -/
def Outcome.KeepsPromise (outcome : Outcome) (collected : Except Failure Survey) (format : Text) : Prop :=
  outcome.escaped = none ∧
  ((∃ survey, collected = .ok survey ∧
      outcome.exitCode = 0 ∧ Report.Complete format survey.endpoints outcome.output ∧ outcome.errors = []) ∨
    ∃ cause message, collected = .error cause ∧ Tells cause message ∧
      outcome.exitCode = 1 ∧ outcome.output = [] ∧
      outcome.errors = Report.ended (Wrap.wrapped 80 ("error: " ++ Markup.shown message)))

theorem errorReport_of_reports {cause : Failure} (reported : reports cause = true) :
    ∃ message, Tells cause message ∧
      errorReport cause = Report.ended (Wrap.wrapped 80 ("error: " ++ Markup.shown message)) := by
  cases cause with
  | notJava file line => exact ⟨_, .notJava file line, rfl⟩
  | missingPath path => exact ⟨_, .missingPath path, rfl⟩
  | _ => cases reported

theorem unprintable_iff {pieces : List Text} :
    pieces.all isPrintable = false ↔ ∃ point ∈ pieces.flatten, 0xD800 ≤ point.val ∧ point.val < 0xE000 := by
  have joined : pieces.all isPrintable = pieces.flatten.all fun point => !point.isSurrogate := List.all_flatten.symm
  rw [joined, List.all_eq_false]
  simp [CodePoint.isSurrogate]

theorem Outcome.breaks_promise {outcome : Outcome} {cause : Failure} (escaped : outcome.escaped = some cause)
    (collected : Except Failure Survey) (format : Text) : ¬ outcome.KeepsPromise collected format := by
  rintro ⟨nothing, -⟩
  simp [escaped] at nothing

theorem format_of_survey {arguments : List Text} {found : Arguments}
    (asked : Request.ofArguments arguments = .survey found) : (ReportFormat.ofName? found.format).isSome = true := by
  rw [Request.ofArguments] at asked
  split at asked
  · cases asked
  next given read =>
    split at asked
    · cases asked
    · dsimp only at asked
      split at asked
      · cases asked
      next known =>
        cases asked
        simp only [Bool.or_eq_true, not_or] at known
        simpa [Option.isSome_iff_ne_none] using known.2

variable (logger : Logger) (settings : Settings) (files : FileSystem) (found : Arguments)

theorem survey_of_error {cause : Failure}
    (failed :
      (Survey.collect .thorough (.ofSettings settings [] [] found.keepGoing) files found.paths).result = .error cause) :
    let outcome := survey logger settings files found
    outcome.exitCode = 1 ∧ outcome.output = [] ∧ outcome.errors = (if reports cause then errorReport cause else []) ∧
      outcome.escaped = if reports cause then none else some cause := by
  intro outcome
  have told : outcome = _ := survey_eq logger settings files found
  rw [told]
  simp [survey, Survey.runTo, failed]

section Written

variable {result : Survey} {pieces : List Text}
  (collected :
    (Survey.collect .thorough (.ofSettings settings [] [] found.keepGoing) files found.paths).result = .ok result)
  (written : ReportFormat.write found.format result.endpoints = .ok pieces)
include collected written

theorem survey_of_printable (printable : pieces.all isPrintable = true) :
    let outcome := survey logger settings files found
    outcome.exitCode = 0 ∧ outcome.output = pieces.flatten ∧ outcome.errors = [] ∧ outcome.escaped = none := by
  intro outcome
  have told : outcome = _ := survey_eq logger settings files found
  rw [told]
  simp [survey, Survey.runTo, collected, written, Survey.accepted, printable]

theorem survey_of_unprintable (unprintable : pieces.all isPrintable = false) :
    let outcome := survey logger settings files found
    outcome.exitCode = 1 ∧ outcome.errors = [] ∧ outcome.escaped = some .unwritable := by
  intro outcome
  have told : outcome = _ := survey_eq logger settings files found
  rw [told]
  simp [survey, Survey.runTo, collected, written, Survey.accepted, unprintable, reports]

end Written

theorem survey_of_escaping {cause : Failure}
    (failed :
      (Survey.collect .thorough (.ofSettings settings [] [] found.keepGoing) files found.paths).result = .error cause)
    (silent : reports cause = false) :
    let outcome := survey logger settings files found
    outcome.exitCode = 1 ∧ outcome.errors = [] ∧ outcome.escaped = some cause ∧
      (cause ≠ .unwritable -> outcome.output = []) := by
  intro outcome
  obtain ⟨code, output, errors, escaped⟩ := survey_of_error logger settings files found failed
  rw [silent, if_neg Bool.false_ne_true] at errors escaped
  exact ⟨code, errors, escaped, fun _ => output⟩

theorem survey_of_unreported {cause : Failure}
    (met : Survey.Unreported (.ofSettings settings [] [] found.keepGoing) files found.paths found.format cause) :
    let outcome := survey logger settings files found
    outcome.exitCode = 1 ∧ outcome.errors = [] ∧ outcome.escaped = some cause ∧
      (cause ≠ .unwritable -> outcome.output = []) := by
  intro outcome
  cases met with
  | home first =>
    have failed := Survey.result_unexpanded .thorough (.ofSettings settings [] [] found.keepGoing) files found.paths first
    exact survey_of_escaping logger settings files found failed rfl
  | refused first =>
    have failed := Survey.result_unexpanded .thorough (.ofSettings settings [] [] found.keepGoing) files found.paths first
    exact survey_of_escaping logger settings files found failed rfl
  | literal expanded first cut =>
    have failed := Survey.collect_stuck .thorough _ expanded first (SourceFile.stop?_of_cut cut)
    exact survey_of_escaping logger settings files found failed rfl
  | surrogate collected whole half =>
    obtain ⟨pieces, written, rfl⟩ := whole.pieces
    obtain ⟨code, errors, escaped⟩ := survey_of_unprintable logger settings files found
      ((Survey.collect_result .thorough _ files found.paths _).trans collected) written (unprintable_iff.mpr half)
    exact ⟨code, errors, escaped, fun other => absurd rfl other⟩

theorem survey_kept_or_unreported (named : (ReportFormat.ofName? found.format).isSome = true) :
    let options := Survey.Options.ofSettings settings [] [] found.keepGoing
    let outcome := survey logger settings files found
    outcome.KeepsPromise (Survey.collect .thorough options files found.paths).result found.format ∨
      ∃ cause, Survey.Unreported options files found.paths found.format cause := by
  intro options outcome
  rcases Survey.collect_cases .thorough options files found.paths found.format named with
    ⟨cause, failed, reported⟩ | ⟨cause, -, -, met⟩ | ⟨result, pieces, completes, written⟩
  · obtain ⟨code, output, errors, escaped⟩ := survey_of_error logger settings files found failed
    rw [reported, if_pos rfl] at errors escaped
    obtain ⟨message, tells, shown⟩ := errorReport_of_reports reported
    exact .inl ⟨escaped, .inr ⟨cause, message, failed, tells, code, output, errors.trans shown⟩⟩
  · exact .inr ⟨cause, met⟩
  · have whole := Report.complete_of_write written
    cases printable : pieces.all isPrintable with
    | true =>
      obtain ⟨code, output, errors, escaped⟩ :=
        survey_of_printable logger settings files found completes written printable
      rw [← output] at whole
      exact .inl ⟨escaped, .inl ⟨result, completes, code, whole, errors⟩⟩
    | false =>
      have collected := (Survey.collect_result Logger.standard options files found.paths _).trans completes
      exact .inr ⟨_, .surrogate collected whole (unprintable_iff.mp printable)⟩

section Surrogate

def surrogateFile : SourceFile :=
  Survey.sampleFile "Half.java" "class S\x7b@RequestMapping(path=\"\\uD83D\",method=GET)void m()\x7b\x7d\x7d"

def awkwardFiles : FileSystem :=
  FileSystem.ofEntries ([Survey.routedFile, Survey.cutFile, surrogateFile].map fun source =>
    .file source.name source.content)

end Surrogate

end Command

end RouteAtlas
