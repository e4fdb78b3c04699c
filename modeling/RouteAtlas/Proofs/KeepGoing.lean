import Mathlib.Data.List.TakeWhile
import RouteAtlas.Proofs.SurveyCompletion

set_option autoImplicit false

namespace RouteAtlas

namespace Logger

theorem keeps_warning (logger : Logger) (informed : logger.keeps .info = true) : logger.keeps .warning = true := by
  have low : logger.threshold ≤ Severity.info.value := of_decide_eq_true informed
  exact decide_eq_true (Int.le_trans low (by decide))

theorem kept_informed (logger : Logger) (informed : logger.keeps .info = true) (records : List LogRecord)
    (told : ∀ record ∈ records, record.severity = .info ∨ record.severity = .warning) :
    logger.kept records = records := by
  rw [kept, List.filter_eq_self]
  intro record member
  rcases told record member with severity | severity
  · rw [severity, informed]
  · rw [severity, keeps_warning logger informed]

end Logger

namespace Survey

variable (logger : Logger) (options : Options) (names : List Text)
  (read : SourceFile -> Except Failure (List Method))

def ReadOrRefused (source : SourceFile) : Prop :=
  (∃ methods, read source = .ok methods) ∨ ∃ file line, read source = .error (.notJava file line)

theorem stop?_strict (strict : options.keepGoing = false) : stop? options read = failure? read := by
  funext source
  rw [stop?]
  cases failure? read source with
  | none => rfl
  | some cause => cases cause <;> simp [Options.endsAt, strict]

theorem stop?_lenient (lenient : options.keepGoing = true) (source : SourceFile) (known : ReadOrRefused read source) :
    stop? options read source = none := by
  rcases known with ⟨methods, told⟩ | ⟨file, line, refused⟩
  · rw [stop?, failure?_of_ok read told, Option.filter_none]
  · rw [stop?, (failure?_eq_some read).mpr refused]
    simp [Options.endsAt, lenient]

theorem offered_unread (source : SourceFile) (unread : isRead read source = false) :
    offered names read source = Collection.empty := by
  obtain ⟨cause, failed⟩ := Option.isSome_iff_exists.mp (Option.isNone_eq_false_iff.mp unread)
  exact Collection.alone_error names _ cause ((failure?_eq_some read).mp failed)

theorem found_filter (sources : List SourceFile) :
    found names read (sources.filter (isRead read)) = found names read sources := by
  induction sources with
  | nil => rfl
  | cons source rest ih =>
    rw [← List.singleton_append, found_append, List.filter_append, found_append, ih]
    cases told : isRead read source with
    | true => rw [List.filter_cons_of_pos told, List.filter_nil]
    | false =>
      rw [List.filter_cons_of_neg (by simp [told]), List.filter_nil, found_singleton,
        offered_unread names read source told]
      rfl

def announcements (before : List SourceFile) : List SourceFile -> List LogRecord
  | [] => []
  | source :: rest => announcement names read source before :: announcements (before ++ [source]) rest

theorem severity_of_mem_trace (before sources : List SourceFile) (record : LogRecord)
    (member : record ∈ trace names read before sources) :
    record.severity = .info ∨ record.severity = .warning := by
  induction sources generalizing before with
  | nil => simp [trace] at member
  | cons source rest ih =>
    rw [trace, List.cons_append, List.mem_cons, List.mem_append] at member
    rcases member with rfl | warned | later
    · exact .inl rfl
    · obtain ⟨cause, -, rfl⟩ := List.mem_map.mp warned
      exact .inr rfl
    · exact ih _ later

theorem trace_read (before sources : List SourceFile) (all : ∀ source ∈ sources, failure? read source = none) :
    trace names read before sources = announcements names read before sources := by
  induction sources generalizing before with
  | nil => rfl
  | cons source rest ih =>
    obtain ⟨here, later⟩ := List.forall_mem_cons.mp all
    simp [trace, announcements, warnings, here, ih _ later]

theorem announcements_append (before first second : List SourceFile) :
    announcements names read before (first ++ second) =
      announcements names read before first ++ announcements names read (before ++ first) second := by
  induction first generalizing before with
  | nil => simp [announcements]
  | cons source rest ih => simp [announcements, ih]

theorem length_announcements (before sources : List SourceFile) :
    (announcements names read before sources).length = sources.length := by
  induction sources generalizing before with
  | nil => rfl
  | cons source rest ih => simp [announcements, ih]

theorem announcements_eq (before sources : List SourceFile) :
    announcements names read before sources =
      sources.mapIdx fun index source => announcement names read source (before ++ sources.take index) := by
  induction sources generalizing before with
  | nil => rfl
  | cons source rest ih => simp [announcements, List.mapIdx_cons, ih]

theorem trace_eq (before sources : List SourceFile) :
    trace names read before sources =
      (List.zipWith (fun record source => record :: warnings read source)
        (announcements names read before sources) sources).flatten := by
  induction sources generalizing before with
  | nil => rfl
  | cons source rest ih => simp [trace, announcements, ih]

theorem announcement_eq (source : SourceFile) (before : List SourceFile) :
    announcement names read source before = {
      severity := .info
      message := progressMessage (found names read (before.filter (isRead read))).endpoints.length source.name } := by
  rw [found_filter]
  rfl

theorem records_lenient (informed : logger.keeps .info = true) (sources : List SourceFile)
    (pass : ∀ source ∈ sources, stop? options read source = none) :
    (collectFiles logger options read sources).records = trace options.routingNames read [] sources := by
  rw [collectFiles_completes logger options read sources pass]
  exact Logger.kept_informed logger informed _ (severity_of_mem_trace options.routingNames read [] sources)

theorem records_strict (strict : options.keepGoing = false) (informed : logger.keeps .info = true)
    (sources : List SourceFile) :
    (collectFiles logger options read sources).records =
      (announcements options.routingNames read [] sources).take ((sources.takeWhile (isRead read)).length + 1) := by
  cases failing : sources.findSome? (failure? read) with
  | none =>
    rw [List.findSome?_eq_none_iff] at failing
    have all : sources.takeWhile (isRead read) = sources := by
      rw [List.takeWhile_eq_self_iff]
      exact fun source member => Option.isNone_iff_eq_none.mpr (failing source member)
    rw [records_lenient logger options read informed sources (by rwa [stop?_strict options read strict]), all,
      trace_read options.routingNames read [] sources failing, List.take_of_length_le]
    rw [length_announcements]
    omega
  | some cause =>
    obtain ⟨before, source, after, rfl, failed, reads⟩ := List.findSome?_eq_some_iff.mp failing
    have stops := stop?_strict options read strict
    rw [collectFiles_stops logger options read before after source cause (by rwa [stops]) (by rwa [stops])]
    have until_failure : (before ++ source :: after).takeWhile (isRead read) = before := by
      have read_before : ∀ other ∈ before, isRead read other = true :=
        fun other member => Option.isNone_iff_eq_none.mpr (reads other member)
      rw [List.takeWhile_append_of_pos read_before, List.takeWhile_cons_of_neg (by simp [isRead, failed]),
        List.append_nil]
    have known := severity_of_mem_trace options.routingNames read [] before
    rw [Logger.kept_append, Logger.kept_informed logger informed _ known,
      Logger.kept_informed logger informed _ (by simp [announcement]), trace_read options.routingNames read [] before reads,
      until_failure, announcements_append, announcements, ← length_announcements options.routingNames read [] before,
      List.take_length_add_append]
    rfl

theorem strict_without_failure (strict : options.keepGoing = false) (sources : List SourceFile)
    (all : ∀ source ∈ sources, isRead read source = true) :
    (collectFiles logger options read sources).result = .ok (result options.routingNames read sources) := by
  have unfailing : sources.findSome? (failure? read) = none :=
    List.findSome?_eq_none_iff.mpr fun source member => Option.isNone_iff_eq_none.mp (all source member)
  rw [collectFiles_result, stop?_strict options read strict, unfailing]
  rfl

end Survey

end RouteAtlas
