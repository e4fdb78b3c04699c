import RouteAtlas.Proofs.PathLookup
import RouteAtlas.Proofs.SurveyProgress
import RouteAtlas.Proofs.TreeReading

set_option autoImplicit false

namespace RouteAtlas

namespace SourceFile

def tree (source : SourceFile) : Except Nat Node :=
  Java.parse (Utf8.decode source.content)

def isJava (source : SourceFile) : Bool :=
  match source.tree with
  | .ok _ => true
  | .error _ => false

def literals (source : SourceFile) : List Text :=
  -- A file that does not follow the grammar is not read.
  match source.tree with
  | .ok root => readLiterals root
  | .error _ => []

def methods (source : SourceFile) : List Method :=
  match Survey.readMethods source with
  | .ok methods => methods
  | .error _ => []

def endpoints (names : List Text) (source : SourceFile) : List Endpoint :=
  source.methods.flatMap fun method => (Collection.ofMethod names source.name method).endpoints

def unresolved (names : List Text) (source : SourceFile) : List Text :=
  source.methods.flatMap fun method => (Collection.ofMethod names source.name method).unresolved

theorem readMethods_cases (source : SourceFile) :
    (∃ line, source.isJava = false ∧ Whole source.literals ∧
      Survey.readMethods source = .error (.notJava source.name line)) ∨
    (source.isJava = true ∧ Whole source.literals ∧ Survey.readMethods source = .ok source.methods) ∨
    (source.isJava = true ∧ ¬ Whole source.literals ∧
      Survey.readMethods source = .error (.literal .unicodeEscape)) := by
  cases parsed : source.tree with
  | error line =>
    left
    refine ⟨line, by simp [isJava, parsed], by simp [literals, parsed], ?_⟩
    rw [Survey.readMethods, Source.read_of_unparsed (show Java.parse (Utf8.decode source.content) = _ from parsed)]
    rfl
  | ok root =>
    right
    have java : source.isJava = true := by simp [isJava, parsed]
    have known : source.literals = readLiterals root := by simp [literals, parsed]
    have read : Survey.readMethods source =
        ((FileReading.ofRoot root).mapError Failure.literal).map FileReading.methods := by
      rw [Survey.readMethods, Source.read_of_parsed (show Java.parse (Utf8.decode source.content) = _ from parsed)]
    rw [known, ← FileReading.succeeds_ofRoot]
    cases told : FileReading.ofRoot root with
    | ok reading =>
      left
      refine ⟨java, succeeds_ok reading, ?_⟩
      rw [methods, read, told]
      rfl
    | error reason =>
      right
      cases reason
      refine ⟨java, not_succeeds_error _, ?_⟩
      rw [read, told]
      rfl

end SourceFile

namespace Survey

variable (logger : Logger) (options : Options)

theorem offered_readMethods (names : List Text) (source : SourceFile) :
    offered names readMethods source = {
      endpoints := source.endpoints names
      unresolved := source.unresolved names } := by
  rw [SourceFile.endpoints, SourceFile.unresolved, SourceFile.methods, offered]
  cases read : readMethods source with
  | ok methods =>
    simp only [Collection.alone, Collection.take, Collection.addCounted, Collection.empty_addFile, Collection.concat,
      List.flatMap_map]
  | error cause => rfl

theorem isRead_readMethods (source : SourceFile) (whole : Whole source.literals) :
    isRead readMethods source = source.isJava := by
  rw [isRead, failure?]
  rcases source.readMethods_cases with ⟨line, java, -, read⟩ | ⟨java, -, read⟩ | ⟨-, cut, -⟩
  · rw [java, read]
    rfl
  · rw [java, read]
    rfl
  · exact absurd whole cut

theorem result_readMethods (names : List Text) (sources : List SourceFile)
    (whole : ∀ source ∈ sources, Whole source.literals) :
    result names readMethods sources = {
      endpoints := sources.flatMap (SourceFile.endpoints names)
      filesScanned := sources.length
      unresolved := sources.flatMap (SourceFile.unresolved names)
      skipped := (sources.filter fun source => !source.isJava).map SourceFile.name } := by
  have refused : (sources.filter fun source => !isRead readMethods source) =
      sources.filter fun source => !source.isJava :=
    List.filter_congr fun source member => by rw [isRead_readMethods source (whole source member)]
  rw [result, refused, found]
  simp only [Collection.concat, List.flatMap_map, offered_readMethods]

theorem stop?_readMethods (keepGoing : options.keepGoing = true) (source : SourceFile) :
    stop? options readMethods source =
      if Whole source.literals then none else some (.literal .unicodeEscape) := by
  rw [stop?, failure?]
  rcases source.readMethods_cases with ⟨line, -, whole, read⟩ | ⟨-, whole, read⟩ | ⟨-, cut, read⟩
  · simp [read, whole, Options.endsAt, keepGoing]
  · simp [read, whole]
  · simp [read, cut, Options.endsAt]

section Collect

variable {files : FileSystem} {arguments : List Text} {sources : List SourceFile} (keepGoing : options.keepGoing = true)
  (expanded : files.expandPaths options.sourceSuffix arguments = .ok sources)
include keepGoing expanded

theorem collect_whole (whole : ∀ source ∈ sources, Whole source.literals) :
    (collect logger options files arguments).result = .ok {
      endpoints := sources.flatMap (SourceFile.endpoints options.routingNames)
      filesScanned := sources.length
      unresolved := sources.flatMap (SourceFile.unresolved options.routingNames)
      skipped := (sources.filter fun source => !source.isJava).map SourceFile.name } := by
  have pass : ∀ source ∈ sources, stop? options readMethods source = none := by
    intro source member
    rw [stop?_readMethods options keepGoing, if_pos (whole source member)]
  simp only [collect_eq_collectPaths, collectPaths, expanded, collectFiles_completes logger options readMethods sources pass,
    result_readMethods options.routingNames sources whole]

theorem collect_cut (cut : ∃ source ∈ sources, ¬ Whole source.literals) :
    (collect logger options files arguments).result = .error (.literal .unicodeEscape) := by
  obtain ⟨first, member, broken⟩ := cut
  have ends : sources.findSome? (stop? options readMethods) = some (.literal .unicodeEscape) := by
    cases stopped : sources.findSome? (stop? options readMethods) with
    | none =>
      have passes := List.findSome?_eq_none_iff.mp stopped first member
      simp [stop?_readMethods options keepGoing, broken] at passes
    | some cause =>
      obtain ⟨-, source, -, -, stops, -⟩ := List.findSome?_eq_some_iff.mp stopped
      rw [stop?_readMethods options keepGoing] at stops
      split at stops
      · exact absurd stops (by simp)
      · exact stops.symm
  simp only [collect_eq_collectPaths, collectPaths, expanded, collectFiles_result, ends, Option.elim_some]

end Collect

/-- A survey that keeps going fails only at a literal that cannot be read, in a file that follows the grammar. Otherwise
each file that does not is passed over, and each other one contributes what its methods declare. -/
theorem keep_going_completes_iff (files : FileSystem) (arguments : List Text) (keepGoing : options.keepGoing = true)
    (existing : ∀ argument ∈ arguments, files.Exists argument) :
    ∃ sources, files.expandPaths options.sourceSuffix arguments = .ok sources ∧
      let result := (collect logger options files arguments).result
      (Succeeds result ↔ ∀ source ∈ sources, Whole source.literals) ∧
      (∀ cause, result = .error cause -> cause = .literal .unicodeEscape) ∧
      ∀ survey, result = .ok survey ->
        survey.filesScanned = sources.length ∧
        survey.skipped = (sources.filter fun source => !source.isJava).map SourceFile.name ∧
        survey.endpoints = sources.flatMap (SourceFile.endpoints options.routingNames) ∧
        survey.unresolved = sources.flatMap (SourceFile.unresolved options.routingNames) ∧
        ∀ source ∈ sources, source.isJava = true -> readMethods source = .ok source.methods := by
  obtain ⟨sources, expanded⟩ := (FileSystem.succeeds_expandPaths_iff options.sourceSuffix).mpr existing
  refine ⟨sources, expanded, ?_⟩
  -- Without a literal that is cut short no file ends the run, and the first file with one does.
  by_cases whole : ∀ source ∈ sources, Whole source.literals
  · rw [collect_whole logger options keepGoing expanded whole]
    refine ⟨iff_of_true (succeeds_ok _) whole, by simp, ?_⟩
    intro survey same
    obtain rfl := Except.ok.inj same
    refine ⟨rfl, rfl, rfl, rfl, ?_⟩
    intro source member java
    rcases source.readMethods_cases with ⟨line, other, -, -⟩ | ⟨-, -, read⟩ | ⟨-, cut, -⟩
    · simp [java] at other
    · exact read
    · exact absurd (whole source member) cut
  · rw [collect_cut logger options keepGoing expanded (by simpa using whole)]
    refine ⟨iff_of_false (not_succeeds_error _) whole, ?_, by simp⟩
    intro cause same
    exact (Except.error.inj same).symm

section Cut

def sampleFile (name : String) (content : String) : SourceFile :=
  { path := { root := [], components := [name] }, content := content.toUTF8.toList }

def routedFile : SourceFile :=
  sampleFile "Routed.java" "class A\x7b@RequestMapping(path=\"/\\u0061\",method=GET)void m()\x7b\x7d\x7d"

def brokenFile : SourceFile :=
  sampleFile "Broken.java" "class\x7b"

def cutFile : SourceFile :=
  -- The grammar takes the escape in it, and the reader of literals does not.
  sampleFile "Cut.java" "class B\x7bfinal String P=\"\\u\x7b41\x7d\";\x7d"

def sampleFiles : FileSystem :=
  FileSystem.ofEntries ([routedFile, brokenFile, cutFile].map fun source => .file source.name source.content)

def sampleOptions : Options :=
  { sourceSuffix := ".java", routingNames := ["RequestMapping"], keepGoing := true }

end Cut

theorem broken_file_passed_over :
    let arguments := [routedFile.name, brokenFile.name]
    sampleOptions.keepGoing = true ∧ (∀ argument ∈ arguments, sampleFiles.Exists argument) ∧
    ∃ survey, (collect Logger.standard sampleOptions sampleFiles arguments).result = .ok survey ∧
      survey.filesScanned = 2 ∧ survey.skipped = [brokenFile.name] ∧
      survey.endpoints = [{ method := "GET", path := "/a", declaration := "A#m", file := routedFile.name }] := by
  intro arguments
  have existing : ∀ argument ∈ arguments, sampleFiles.Exists argument := by decide +kernel
  obtain ⟨sources, expanded, ends, -, told⟩ :=
    keep_going_completes_iff Logger.standard sampleOptions sampleFiles arguments rfl existing
  obtain rfl : [routedFile, brokenFile] = sources := Except.ok.inj expanded
  obtain ⟨survey, found⟩ := ends.mpr (by decide +kernel)
  obtain ⟨scanned, skipped, endpoints, -, -⟩ := told survey found
  refine ⟨rfl, existing, survey, found, scanned, ?_, ?_⟩
  · rw [skipped]
    decide +kernel
  · rw [endpoints]
    decide +kernel

theorem cut_literal_ends_survey :
    let arguments := [routedFile.name, cutFile.name]
    sampleOptions.keepGoing = true ∧ (∀ argument ∈ arguments, sampleFiles.Exists argument) ∧
    cutFile.isJava = true ∧ routedFile.endpoints sampleOptions.routingNames ≠ [] ∧
    (collect Logger.standard sampleOptions sampleFiles arguments).result = .error (.literal .unicodeEscape) := by
  intro arguments
  refine ⟨rfl, by decide +kernel, by decide +kernel, by decide +kernel, ?_⟩
  have expanded : sampleFiles.expandPaths sampleOptions.sourceSuffix arguments = .ok [routedFile, cutFile] := rfl
  exact collect_cut Logger.standard sampleOptions rfl expanded
    ⟨cutFile, List.mem_cons_of_mem _ List.mem_cons_self, by decide +kernel⟩

end Survey

end RouteAtlas
