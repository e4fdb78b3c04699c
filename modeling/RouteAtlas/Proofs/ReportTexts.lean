import RouteAtlas.Proofs.ReportColumns
import RouteAtlas.Proofs.ReportOrder

set_option autoImplicit false

namespace RouteAtlas.Report

def ended (lines : List Text) : Text :=
  lines.flatMap fun line => line ++ [CodePoint.lineFeed]

theorem flatten_writtenLines (endpoints : List Endpoint) :
    (writtenLines endpoints).flatten = ended (lines endpoints) :=
  (List.flatMap_def ..).symm

section Spelled

variable (ordered : List Endpoint)

def longest (texts : List Text) : Nat :=
  (texts.map List.length).max?.getD 0

def column (texts : List Text) (text : Text) : Text :=
  text ++ Text.spaces (longest texts - text.length)

def spelledLine (number : Nat) (endpoint : Endpoint) : Text :=
  "[" ++ Text.spaces ((Text.ofNat ordered.length).length - (Text.ofNat number).length) ++ Text.ofNat number ++ "] "
    ++ column (ordered.map Endpoint.path) endpoint.path ++ " "
    ++ column (ordered.map Endpoint.method) endpoint.method ++ " = "
    ++ column (ordered.map Endpoint.declaration) endpoint.declaration ++ " ("
    ++ endpoint.file ++ ")"

def spelledPoint (point : CodePoint) : Text :=
  if point = '"' then "\\\""
  else if point = '\\' then "\\\\"
  else if point = '\n' then "\\n"
  else if point = '\r' then "\\r"
  else if point = '\t' then "\\t"
  else if point = '\x08' then "\\b"
  else if point = '\x0C' then "\\f"
  else if point.val < 0x10 then "\\u000" ++ Text.ofChars (Nat.toDigits 16 point.val)
  else if point.val < 0x20 then "\\u00" ++ Text.ofChars (Nat.toDigits 16 point.val)
  else [point]

def spelledString (text : Text) : Text :=
  "\"" ++ text.flatMap spelledPoint ++ "\""

def spelledObject (endpoint : Endpoint) : Text :=
  "\x7b\n    \"http_method\": " ++ spelledString endpoint.method
    ++ ",\n    \"http_path\": " ++ spelledString endpoint.path
    ++ ",\n    \"file_path\": " ++ spelledString endpoint.file
    ++ ",\n    \"declaration_id\": " ++ spelledString endpoint.declaration ++ "\n  \x7d"

def spelledLines : Text :=
  ended (ordered.mapIdx fun index endpoint => spelledLine ordered (index + 1) endpoint)

def spelledTable : Text :=
  if ordered.isEmpty then []
  else ended (Table.drawRows (ordered.mapIdx fun index endpoint =>
    [Text.ofNat (index + 1), endpoint.path, endpoint.method, endpoint.declaration, endpoint.file]))

def spelledDocument : Text :=
  if ordered.isEmpty then "[]\n"
  else "[\n  " ++ List.intercalate ",\n  " (ordered.map spelledObject) ++ "\n]\n"

def formats : List Text :=
  ["text", "table", "json"]

/-- The report of some endpoints, in the order in which it shows them. -/
def Spells (format text : Text) : Prop :=
  format = "text" ∧ text = spelledLines ordered ∨ format = "table" ∧ text = spelledTable ordered ∨
    format = "json" ∧ text = spelledDocument ordered

end Spelled

/-- The whole report of some endpoints: each of them, in the order of their routes, laid out in a format. -/
def Complete (format : Text) (endpoints : List Endpoint) (text : Text) : Prop :=
  ∃ ordered, ordered.Perm endpoints ∧
    (ordered.Pairwise fun first second => Endpoint.Earlier first second ∨ first.route = second.route) ∧
    (∀ route, Endpoint.ofRoute route ordered = Endpoint.ofRoute route endpoints) ∧ Spells ordered format text

theorem Complete.alone {format text : Text} {endpoint : Endpoint} (complete : Complete format [endpoint] text) :
    Spells [endpoint] format text := by
  obtain ⟨ordered, permuted, -, -, spelled⟩ := complete
  rwa [List.perm_singleton.mp permuted] at spelled

theorem widest_eq (texts : List Text) : widest texts = longest texts := by
  rw [widest, longest, List.foldl_max, Nat.zero_max]

theorem lines_eq (endpoints : List Endpoint) :
    lines endpoints = (Endpoint.sorted endpoints).mapIdx fun index endpoint =>
      spelledLine (Endpoint.sorted endpoints) (index + 1) endpoint := by
  simp only [lines, line, Widths.ofEndpoints, widest_eq, Text.padLeft_eq, Text.padRight_eq, spelledLine, column,
    List.append_assoc]

namespace Json

theorem escaped_control {value : Nat} (control : value < 0x20) :
    ("\\u00" : Text) ++ [hexDigit (value / 16), hexDigit (value % 16)] =
      if value < 0x10 then "\\u000" ++ Text.ofChars (Nat.toDigits 16 value)
      else "\\u00" ++ Text.ofChars (Nat.toDigits 16 value) := by
  have each : ∀ value < 0x20, ("\\u00" : Text) ++ [hexDigit (value / 16), hexDigit (value % 16)] =
      if value < 0x10 then "\\u000" ++ Text.ofChars (Nat.toDigits 16 value)
      else "\\u00" ++ Text.ofChars (Nat.toDigits 16 value) := by
    decide +kernel
  exact each value control

theorem escaped_eq (point : CodePoint) : escaped point = spelledPoint point := by
  by_cases short : point ∈ shortEscapes.map Prod.fst
  · simp only [shortEscapes, List.map_cons, List.map_nil, List.mem_cons, List.not_mem_nil, or_false] at short
    rcases short with rfl | rfl | rfl | rfl | rfl | rfl | rfl <;> rfl
  · have unknown : shortEscapes.lookup point = none := by
      rw [List.lookup_eq_none_iff]
      intro pair member
      rw [bne_iff_ne]
      rintro rfl
      exact short (List.mem_map_of_mem member)
    simp only [shortEscapes, List.map_cons, List.map_nil, List.mem_cons, List.not_mem_nil, or_false, not_or] at short
    simp only [escaped, unknown, spelledPoint, short, if_false]
    by_cases control : point.val < 0x20
    next =>
      rw [if_pos control, if_pos control, escaped_control control]
    next =>
      rw [if_neg control, if_neg control, if_neg fun digit => control (Nat.lt_trans digit (by decide))]

theorem quoted_eq (text : Text) : quoted text = spelledString text := by
  have same : escaped = spelledPoint := funext escaped_eq
  rw [quoted, same]
  rfl

theorem map_flatten_intersperse (separator : Text) (items : List (List Text)) :
    (items.intersperse [separator]).map List.flatten = (items.map List.flatten).intersperse separator := by
  induction items with
  | nil => rfl
  | cons first rest ih =>
    cases rest with
    | nil => rfl
    | cons second others =>
      simp only [List.intersperse_cons_cons, List.map_cons, List.flatten_singleton] at ih ⊢
      rw [ih]

theorem flatten_enclosed_eq (opening separator closing : Text) (items : List (List Text)) :
    (enclosed opening separator closing items).flatten =
      opening ++ List.intercalate separator (items.map List.flatten) ++ closing := by
  rw [enclosed, List.flatten_append, List.flatten_cons, List.flatten_flatten, map_flatten_intersperse,
    List.flatten_singleton]
  rfl

theorem flatten_objectPieces (endpoint : Endpoint) : (objectPieces endpoint).flatten = spelledObject endpoint := by
  rw [objectPieces, flatten_enclosed_eq]
  simp only [members, memberPieces, quoted_eq, List.map_cons, List.map_nil, List.flatten_cons, List.flatten_nil,
    List.append_nil, List.intercalate_cons_cons, List.intercalate_singleton, spelledObject, List.append_assoc]
  rfl

theorem document_eq (endpoints : List Endpoint) :
    document endpoints = spelledDocument (Endpoint.sorted endpoints) := by
  rw [document, writtenPieces, spelledDocument]
  split
  next none =>
    rw [none]
    rfl
  next present =>
    have objects : (Endpoint.sorted endpoints).map (List.flatten ∘ objectPieces) =
        (Endpoint.sorted endpoints).map spelledObject :=
      List.map_congr_left fun endpoint _ => flatten_objectPieces endpoint
    rw [if_neg (mt List.isEmpty_iff.mp present), flatten_enclosed_eq, List.map_map, objects]

end Json

theorem flatten_text (endpoints : List Endpoint) :
    (ReportFormat.text.pieces endpoints).flatten = spelledLines (Endpoint.sorted endpoints) := by
  rw [spelledLines, ← lines_eq]
  exact flatten_writtenLines endpoints

theorem flatten_table (endpoints : List Endpoint) :
    (ReportFormat.table.pieces endpoints).flatten = spelledTable (Endpoint.sorted endpoints) := by
  have empty : (Endpoint.sorted endpoints).isEmpty = endpoints.isEmpty := by
    rw [Bool.eq_iff_iff, List.isEmpty_iff_length_eq_zero, List.isEmpty_iff_length_eq_zero, Endpoint.sorted,
      List.length_mergeSort]
  rw [ReportFormat.pieces, List.flatten_singleton, Table.document, spelledTable, empty]
  rfl

theorem ofName?_cases {format : Text} {known : ReportFormat} (named : ReportFormat.ofName? format = some known) :
    format = "text" ∧ known = .text ∨ format = "table" ∧ known = .table ∨ format = "json" ∧ known = .json := by
  obtain ⟨before, after, pairs, -⟩ := List.lookup_eq_some_iff.mp named
  have member : (format, known) ∈ [(("text" : Text), ReportFormat.text), ("table", .table), ("json", .json)] := by
    simp [pairs]
  simpa only [List.mem_cons, Prod.mk.injEq, List.not_mem_nil, or_false] using member

theorem isSome_ofName?_iff {format : Text} :
    (ReportFormat.ofName? format).isSome = true ↔ format ∈ formats := by
  constructor
  · intro asked
    obtain ⟨known, named⟩ := Option.isSome_iff_exists.mp asked
    rcases ofName?_cases named with ⟨rfl, -⟩ | ⟨rfl, -⟩ | ⟨rfl, -⟩ <;> decide
  · simp only [formats, List.mem_cons, List.not_mem_nil, or_false]
    rintro (rfl | rfl | rfl) <;> rfl

theorem complete_pieces {format : Text} {known : ReportFormat} (named : ReportFormat.ofName? format = some known)
    (endpoints : List Endpoint) : Complete format endpoints (known.pieces endpoints).flatten := by
  refine ⟨Endpoint.sorted endpoints, List.mergeSort_perm _ _, ?_, fun route => Endpoint.ofRoute_sorted route endpoints, ?_⟩
  · exact (Endpoint.pairwise_sorted endpoints).imp (Endpoint.le_iff_earlier _ _).mp
  · rcases ofName?_cases named with ⟨rfl, rfl⟩ | ⟨rfl, rfl⟩ | ⟨rfl, rfl⟩
    · exact .inl ⟨rfl, flatten_text endpoints⟩
    · exact .inr (.inl ⟨rfl, flatten_table endpoints⟩)
    · exact .inr (.inr ⟨rfl, Json.document_eq endpoints⟩)

theorem complete_of_write {format : Text} {endpoints : List Endpoint} {pieces : List Text}
    (written : ReportFormat.write format endpoints = .ok pieces) : Complete format endpoints pieces.flatten := by
  rw [ReportFormat.write] at written
  split at written
  next known named =>
    obtain rfl := Except.ok.inj written
    exact complete_pieces named endpoints
  next => cases written

theorem Complete.pieces {format text : Text} {endpoints : List Endpoint} (complete : Complete format endpoints text) :
    ∃ pieces, ReportFormat.write format endpoints = .ok pieces ∧ text = pieces.flatten := by
  obtain ⟨ordered, -, inOrder, alike, spelled⟩ := complete
  have same : ordered = Endpoint.sorted endpoints :=
    Endpoint.eq_of_ofRoute (inOrder.imp (Endpoint.le_iff_earlier _ _).mpr) (Endpoint.pairwise_sorted endpoints)
      fun route => (alike route).trans (Endpoint.ofRoute_sorted route endpoints).symm
  rw [same] at spelled
  rcases spelled with ⟨rfl, written⟩ | ⟨rfl, written⟩ | ⟨rfl, written⟩
  · exact ⟨_, rfl, written.trans (flatten_text endpoints).symm⟩
  · exact ⟨_, rfl, written.trans (flatten_table endpoints).symm⟩
  · exact ⟨_, rfl, written.trans (Json.document_eq endpoints).symm⟩

end RouteAtlas.Report
