import RouteAtlas.Proofs.DistinctTypeNames
import RouteAtlas.Proofs.RunOutcome

set_option autoImplicit false

namespace RouteAtlas

namespace Text

def lineFeeds (text : Text) : Nat :=
  text.count CodePoint.lineFeed

theorem lineFeeds_eq_zero {text : Text} : lineFeeds text = 0 ↔ CodePoint.lineFeed ∉ text :=
  List.count_eq_zero

@[simp] theorem lineFeeds_append (first second : Text) :
    lineFeeds (first ++ second) = lineFeeds first + lineFeeds second :=
  List.count_append

@[simp] theorem lineFeeds_spaces (count : Nat) : lineFeeds (spaces count) = 0 := by
  rw [lineFeeds_eq_zero]
  intro member
  exact absurd (List.eq_of_mem_replicate member) (by decide)

@[simp] theorem lineFeeds_ofNat (number : Nat) : lineFeeds (ofNat number) = 0 := by
  rw [lineFeeds_eq_zero]
  intro member
  exact absurd (isDigit_ofNat number _ member) (by decide)

end Text

namespace Endpoint

def fields (endpoint : Endpoint) : List Text :=
  [endpoint.path, endpoint.method, endpoint.declaration, endpoint.file]

def lineFeeds (endpoint : Endpoint) : Nat :=
  (endpoint.fields.map Text.lineFeeds).sum

theorem lineFeeds_eq_zero {endpoint : Endpoint} :
    endpoint.lineFeeds = 0 ↔ ∀ field ∈ endpoint.fields, CodePoint.lineFeed ∉ field := by
  simp [lineFeeds, fields, Text.lineFeeds_eq_zero]

end Endpoint

namespace Report

theorem lineFeeds_line (widths : Widths) (index : Nat) (endpoint : Endpoint) :
    (line widths index endpoint).lineFeeds = endpoint.lineFeeds := by
  have frame : ∀ part ∈ (["[", "] ", " ", " = ", " (", ")"] : List Text), part.lineFeeds = 0 := by decide
  simp only [List.forall_mem_cons] at frame
  simp [line, Text.padLeft_eq, Text.padRight_eq, frame, Endpoint.lineFeeds, Endpoint.fields]

theorem lineFeeds_ended (lines : List Text) :
    (ended lines).lineFeeds = lines.length + (lines.map Text.lineFeeds).sum := by
  induction lines with
  | nil => rfl
  | cons line rest ih =>
    have feed : Text.lineFeeds [CodePoint.lineFeed] = 1 := rfl
    rw [ended] at ih ⊢
    simp only [List.flatMap_cons, Text.lineFeeds_append, feed, ih, List.length_cons, List.map_cons, List.sum_cons]
    omega

theorem sum_lineFeeds_lines (endpoints : List Endpoint) :
    ((lines endpoints).map Text.lineFeeds).sum = (endpoints.map Endpoint.lineFeeds).sum := by
  have permuted : (Endpoint.sorted endpoints).Perm endpoints := List.mergeSort_perm endpoints Endpoint.le
  have shown : (lines endpoints).map Text.lineFeeds = (Endpoint.sorted endpoints).map Endpoint.lineFeeds := by
    apply List.ext_getElem?
    intro position
    simp only [lines, List.getElem?_map, List.getElem?_mapIdx, Option.map_map, Function.comp_def, lineFeeds_line]
  rw [shown, (permuted.map _).sum_nat]

def BeginsWithIndex (index : Nat) (line : Text) : Prop :=
  ∃ before rest, line = "[" ++ Text.spaces before ++ Text.ofNat index ++ "]" ++ rest

def HasNumberedLines (count : Nat) (text : Text) : Prop :=
  ∃ lines : List Text, lines.length = count ∧ text = ended lines ∧ (∀ line ∈ lines, CodePoint.lineFeed ∉ line) ∧
    ∀ position line, lines[position]? = some line -> BeginsWithIndex (position + 1) line

theorem HasNumberedLines.lineFeeds_eq {count : Nat} {text : Text} (numbered : HasNumberedLines count text) :
    text.lineFeeds = count := by
  obtain ⟨lines, length, rfl, unbroken, -⟩ := numbered
  have none : (lines.map Text.lineFeeds).sum = 0 := by
    rw [List.sum_eq_zero_iff_forall_eq_nat]
    exact List.forall_mem_map.mpr fun line member => Text.lineFeeds_eq_zero.mpr (unbroken line member)
  rw [lineFeeds_ended, none, length, Nat.add_zero]

theorem line_beginsWithIndex (widths : Widths) (index : Nat) (endpoint : Endpoint) :
    BeginsWithIndex index (line widths index endpoint) := by
  have closing : ("] " : Text) = "]" ++ " " := rfl
  let shown : Text := Text.padRight widths.path endpoint.path ++ " " ++ Text.padRight widths.method endpoint.method
    ++ " = " ++ Text.padRight widths.declaration endpoint.declaration ++ " (" ++ endpoint.file ++ ")"
  refine ⟨widths.index - (Text.ofNat index).length, " " ++ shown, ?_⟩
  simp only [line, shown, Text.padLeft_eq, closing, List.append_assoc]

theorem hasNumberedLines {endpoints : List Endpoint} (unbroken : (endpoints.map Endpoint.lineFeeds).sum = 0) :
    HasNumberedLines endpoints.length (ended (lines endpoints)) := by
  refine ⟨lines endpoints, length_lines endpoints, rfl, ?_, ?_⟩
  · rw [← sum_lineFeeds_lines, List.sum_eq_zero_iff_forall_eq_nat, List.forall_mem_map] at unbroken
    exact fun line member => Text.lineFeeds_eq_zero.mp (unbroken line member)
  · intro position line found
    rw [lines, List.getElem?_mapIdx, Option.map_eq_some_iff] at found
    obtain ⟨endpoint, -, rfl⟩ := found
    exact line_beginsWithIndex _ _ _

/-- The text of a report has a line feed for each endpoint and one for each in a field, and it has one numbered line for
each endpoint exactly if no field of an endpoint has a line feed. -/
theorem one_line_each_iff (endpoints : List Endpoint) :
    let text : Text := (ReportFormat.text.pieces endpoints).flatten
    text.lineFeeds = endpoints.length + (endpoints.map Endpoint.lineFeeds).sum ∧
    (HasNumberedLines endpoints.length text ↔
      ∀ endpoint ∈ endpoints, ∀ field ∈ endpoint.fields, CodePoint.lineFeed ∉ field) := by
  intro text
  have written : text = ended (lines endpoints) := flatten_writtenLines endpoints
  have feeds : text.lineFeeds = endpoints.length + (endpoints.map Endpoint.lineFeeds).sum := by
    rw [written, lineFeeds_ended, length_lines, sum_lineFeeds_lines]
  have free : (endpoints.map Endpoint.lineFeeds).sum = 0 ↔
      ∀ endpoint ∈ endpoints, ∀ field ∈ endpoint.fields, CodePoint.lineFeed ∉ field := by
    simp only [List.sum_eq_zero_iff_forall_eq_nat, List.forall_mem_map, Endpoint.lineFeeds_eq_zero]
  refine ⟨feeds, ?_⟩
  rw [← free, written]
  constructor
  · intro numbered
    have count := numbered.lineFeeds_eq
    rw [← written, feeds] at count
    omega
  · exact hasNumberedLines

def splitFile : SourceFile :=
  Survey.sampleFile "Split.java" "class A\x7b@RequestMapping(path=\"/a\\nb\",method=GET)void m()\x7b\x7d\x7d"

theorem path_split_over_lines :
    let files := FileSystem.ofEntries [.file splitFile.name splitFile.content]
    let done := Survey.run Logger.standard Survey.sampleOptions files [splitFile.name] "text"
    ∃ survey, done.result = .ok survey ∧ survey.endpoints.length = 1 ∧
      done.written.flatten = "[1] /a\nb GET = A#m (Split.java)\n" ∧
      ¬ HasNumberedLines survey.endpoints.length done.written.flatten := by
  intro files done
  let endpoint : Endpoint := { method := "GET", path := "/a\nb", declaration := "A#m", file := splitFile.name }
  let survey : Survey := { endpoints := [endpoint], filesScanned := 1, unresolved := [], skipped := [] }
  have collected :
      (Survey.collect Logger.standard Survey.sampleOptions files [splitFile.name]).result = .ok survey := by
    decide +kernel
  have finished : done = _ := Survey.run_of_known Logger.standard Survey.sampleOptions files [splitFile.name] "text"
    survey collected .text rfl
  have alone : Endpoint.sorted [endpoint] = [endpoint] := List.mergeSort_singleton endpoint
  have written : done.written.flatten = "[1] /a\nb GET = A#m (Split.java)\n" := by
    rw [finished]
    change (writtenLines [endpoint]).flatten = _
    rw [writtenLines, lines, alone]
    decide
  refine ⟨survey, by rw [finished], rfl, written, fun numbered => ?_⟩
  have feeds := numbered.lineFeeds_eq
  rw [written] at feeds
  exact absurd feeds (by decide)

end Report

end RouteAtlas
