import RouteAtlas.Proofs.JsonReader
import RouteAtlas.Report.Json

set_option autoImplicit false

namespace RouteAtlas

def Text.NoSurrogates (text : Text) : Prop :=
  (text.all fun point => !point.isSurrogate) = true

instance (text : Text) : Decidable text.NoSurrogates :=
  inferInstanceAs (Decidable (_ = _))

structure Endpoint.NoSurrogates (endpoint : Endpoint) : Prop where
  method : endpoint.method.NoSurrogates
  path : endpoint.path.NoSurrogates
  declaration : endpoint.declaration.NoSurrogates
  file : endpoint.file.NoSurrogates

namespace Report.Json

open JsonGrammar (Gap CodeUnit Character Characters Padded Separated Enclosed Named Denotes IsReader read? comma
  openBracket closeBracket openBrace closeBrace)

theorem fourHexDigits?_control {value : Nat} (control : value < 0x20) :
    Text.fourHexDigits? ['0', '0', hexDigit (value / 16), hexDigit (value % 16)] = some value := by
  have each : ∀ value < 0x20,
      Text.fourHexDigits? ['0', '0', hexDigit (value / 16), hexDigit (value % 16)] = some value := by
    decide
  exact each value control

theorem lookup_shortEscapes {point letter : CodePoint} (found : shortEscapes.lookup point = some letter) :
    JsonGrammar.shortEscapes.lookup letter = some point := by
  have each : (shortEscapes.all fun pair => JsonGrammar.shortEscapes.lookup pair.2 = some pair.1) = true := rfl
  obtain ⟨before, after, pairs, -⟩ := List.lookup_eq_some_iff.mp found
  have member : (point, letter) ∈ shortEscapes := by simp [pairs]
  exact of_decide_eq_true (List.all_eq_true.mp each (point, letter) member)

theorem character_escaped {point : CodePoint} (whole : point.isSurrogate = false) :
    Character (escaped point) point := by
  rw [escaped]
  split
  next letter found => exact .short (lookup_shortEscapes found)
  next kept =>
    split
    next control =>
      have unit : CodeUnit ("\\u00" ++ [hexDigit (point.val / 16), hexDigit (point.val % 16)]) point.val :=
        .intro (fourHexDigits?_control control)
      have character := Character.unit unit (by simp [JsonGrammar.isHigh]; omega) (by simp [JsonGrammar.isLow]; omega)
      rwa [CodePoint.ofNat_val] at character
    next visible =>
      have apart (other letter : CodePoint) (short : shortEscapes.lookup other = some letter) : point ≠ other := by
        rintro rfl
        rw [kept] at short
        contradiction
      apply Character.plain
      simp [JsonGrammar.isPlain, whole, apart CodePoint.quote _ rfl, apart CodePoint.backslash _ rfl,
        Nat.le_of_not_lt visible]

theorem characters_escaped {text : Text} (whole : text.NoSurrogates) : Characters (text.flatMap escaped) text := by
  induction text with
  | nil => exact .nil
  | cons point rest ih =>
    simp only [Text.NoSurrogates, List.all_cons, Bool.and_eq_true, Bool.not_eq_eq_eq_not, Bool.not_true] at whole
    obtain ⟨first, others⟩ := whole
    exact .cons (character_escaped first) (ih others)

theorem denotes_quoted {text : Text} (whole : text.NoSurrogates) : Denotes (quoted text) (.string text) :=
  .string (characters_escaped whole)

def listed (gap : Text) (items : List (List Text)) : Text :=
  (items.intersperse [comma :: gap]).flatten.flatten

theorem listed_cons_cons (gap : Text) (first second : List Text) (rest : List (List Text)) :
    listed gap (first :: second :: rest) = first.flatten ++ comma :: (gap ++ listed gap (second :: rest)) := by
  simp [listed, List.intersperse]

theorem flatten_enclosed (opening gap closing : Text) (items : List (List Text)) :
    (enclosed opening (comma :: gap) closing items).flatten = opening ++ listed gap items ++ closing := by
  simp [enclosed, listed]

section

variable {σ α : Type} {write : σ -> List Text} {meaning : σ -> α} {Item : Text -> α -> Prop} {gap last : Text}

theorem separated_listed (blank : Gap gap) (lastBlank : Gap last) (source : σ) (sources : List σ)
    (each : ∀ item ∈ source :: sources, Item (write item).flatten (meaning item)) :
    Separated (Padded Item) (gap ++ listed gap ((source :: sources).map write) ++ last)
      ((source :: sources).map meaning) := by
  induction sources generalizing source with
  | nil =>
    have alone : listed gap ([source].map write) = (write source).flatten := by simp [listed]
    rw [alone]
    exact .last (.intro blank (each source List.mem_cons_self) lastBlank)
  | cons next rest ih =>
    obtain ⟨first, others⟩ := List.forall_mem_cons.mp each
    have split : gap ++ listed gap ((source :: next :: rest).map write) ++ last =
        (gap ++ (write source).flatten ++ []) ++ comma :: (gap ++ listed gap ((next :: rest).map write) ++ last) := by
      simp only [List.map_cons, listed_cons_cons, List.append_assoc, List.cons_append, List.nil_append]
    rw [split]
    exact .more (.intro blank first (by rintro _ ⟨⟩)) (ih next others)

theorem enclosed_written (opening closing : CodePoint) (blank : Gap gap) (lastBlank : Gap last) (after : Text)
    (source : σ) (sources : List σ) (each : ∀ item ∈ source :: sources, Item (write item).flatten (meaning item)) :
    ∃ text,
      (enclosed (opening :: gap) (comma :: gap) (last ++ closing :: after) ((source :: sources).map write)).flatten =
        text ++ after ∧
      Enclosed opening closing (Padded Item) text ((source :: sources).map meaning) := by
  refine ⟨_, ?_, .some (separated_listed blank lastBlank source sources each)⟩
  simp only [flatten_enclosed, List.append_assoc, List.cons_append, List.nil_append]

end

def described (endpoint : Endpoint) : JsonGrammar.Value :=
  .object [("http_method", .string endpoint.method), ("http_path", .string endpoint.path),
    ("file_path", .string endpoint.file), ("declaration_id", .string endpoint.declaration)]

theorem named_memberPieces {member : Text × Text} (named : member.1.NoSurrogates) (whole : member.2.NoSurrogates) :
    Named Denotes (memberPieces member).flatten (member.1, .string member.2) := by
  have written : (memberPieces member).flatten = CodePoint.quote :: (member.1.flatMap escaped ++
      CodePoint.quote :: ([] ++ JsonGrammar.colon :: ([CodePoint.space] ++ quoted member.2))) := by
    have sign : (": " : Text) = [JsonGrammar.colon, CodePoint.space] := rfl
    simp [memberPieces, quoted, sign]
  rw [written]
  exact .intro (characters_escaped named) (List.all_eq_true.mp rfl) (List.all_eq_true.mp rfl) (denotes_quoted whole)

theorem members_noSurrogates {endpoint : Endpoint} (whole : endpoint.NoSurrogates) :
    ∀ member ∈ members endpoint, member.1.NoSurrogates ∧ member.2.NoSurrogates := by
  simp only [members, List.forall_mem_cons]
  refine ⟨⟨?_, whole.method⟩, ⟨?_, whole.path⟩, ⟨?_, whole.file⟩, ⟨?_, whole.declaration⟩, by rintro _ ⟨⟩⟩
  all_goals exact rfl

theorem denotes_objectPieces {endpoint : Endpoint} (whole : endpoint.NoSurrogates) :
    Denotes (objectPieces endpoint).flatten (described endpoint) := by
  have each : ∀ member ∈ members endpoint, Named Denotes (memberPieces member).flatten (member.1, .string member.2) := by
    intro member listed
    obtain ⟨named, whole⟩ := members_noSurrogates whole member listed
    exact named_memberPieces named whole
  have gap : Gap "\n    " := List.all_eq_true.mp rfl
  have last : Gap "\n  " := List.all_eq_true.mp rfl
  have pieces : objectPieces endpoint = enclosed (openBrace :: "\n    ") (comma :: "\n    ") ("\n  " ++ [closeBrace])
      ((members endpoint).map memberPieces) := rfl
  obtain ⟨text, written, items⟩ := enclosed_written openBrace closeBrace gap last [] _ _ each
  rw [pieces, members, written, List.append_nil]
  exact .object items

theorem denotes_document {endpoints : List Endpoint} (whole : ∀ endpoint ∈ endpoints, endpoint.NoSurrogates) :
    ∃ text, document endpoints = text ++ [CodePoint.lineFeed] ∧
      Denotes text (.array ((Endpoint.sorted endpoints).map described)) := by
  rw [document, writtenPieces]
  split
  next none =>
    have gap : Gap [] := List.forall_mem_nil _
    rw [none]
    exact ⟨[openBracket, closeBracket], rfl, .array (.none gap)⟩
  next ordered _ =>
    cases sorted : Endpoint.sorted endpoints with
    | nil => contradiction
    | cons first rest =>
      have each : ∀ endpoint ∈ first :: rest, Denotes (objectPieces endpoint).flatten (described endpoint) := by
        intro endpoint member
        rw [← sorted] at member
        exact denotes_objectPieces (whole endpoint (List.mem_mergeSort.mp member))
      have gap : Gap "\n  " := List.all_eq_true.mp rfl
      have last : Gap "\n" := List.all_eq_true.mp rfl
      obtain ⟨text, written, items⟩ :=
        enclosed_written openBracket closeBracket gap last [CodePoint.lineFeed] first rest each
      exact ⟨text, written, .array items⟩

theorem described_injective {first second : Endpoint} (same : described first = described second) : first = second := by
  cases first
  cases second
  simp only [described, JsonGrammar.Value.object.injEq, List.cons.injEq, Prod.mk.injEq, JsonGrammar.Value.string.injEq,
    true_and, and_true] at same
  obtain ⟨rfl, rfl, rfl, rfl⟩ := same
  rfl

theorem read_document {read : Text -> Option JsonGrammar.Value} (reader : IsReader read) {endpoints : List Endpoint}
    (whole : ∀ endpoint ∈ endpoints, endpoint.NoSurrogates) :
    read (document endpoints) = some (.array ((Endpoint.sorted endpoints).map described)) := by
  obtain ⟨text, written, denotes⟩ := denotes_document whole
  have padded : Padded Denotes ([] ++ text ++ [CodePoint.lineFeed]) _ :=
    .intro (List.forall_mem_nil _) denotes (List.all_eq_true.mp rfl)
  rw [written]
  exact reader _ _ padded

/-- Readers of JSON get the endpoints back, in the order of the report. -/
theorem document_read_back (endpoints : List Endpoint) (whole : ∀ endpoint ∈ endpoints, endpoint.NoSurrogates) :
    let meant : JsonGrammar.Value := .array ((Endpoint.sorted endpoints).map described)
    (Endpoint.sorted endpoints).Perm endpoints ∧
    (∃ text, document endpoints = text ++ [CodePoint.lineFeed] ∧ Denotes text meant) ∧
    read? (document endpoints) = some meant ∧
    (∀ read, IsReader read -> read (document endpoints) = some meant) ∧
    ∀ others : List Endpoint, (∀ endpoint ∈ others, endpoint.NoSurrogates) ->
      document endpoints = document others -> Endpoint.sorted endpoints = Endpoint.sorted others := by
  have meant := read_document JsonGrammar.isReader_read? whole
  refine ⟨List.mergeSort_perm _ _, denotes_document whole, meant, fun read reader => read_document reader whole, ?_⟩
  intro others othersWhole same
  rw [same, read_document JsonGrammar.isReader_read? othersWhole, Option.some.injEq,
    JsonGrammar.Value.array.injEq] at meant
  exact ((List.map_inj_right fun _ _ => described_injective).mp meant).symm

theorem escaped_endpoint_read_back :
    let endpoint : Endpoint := { method := "GET", path := "/\"\\\x01", declaration := "Ä#m", file := "a\n" }
    (∀ each ∈ [endpoint], Endpoint.NoSurrogates each) ∧
    document [endpoint] = "[\n  \x7b\n    \"http_method\": \"GET\",\n    \"http_path\": \"/\\\"\\\\\\u0001\",\n" ++
      "    \"file_path\": \"a\\n\",\n    \"declaration_id\": \"Ä#m\"\n  \x7d\n]\n" ∧
    read? (document [endpoint]) = some (.array [described endpoint]) := by
  intro endpoint
  have whole : ∀ each ∈ [endpoint], Endpoint.NoSurrogates each := by
    rintro _ (_ | ⟨_, ⟨⟩⟩)
    exact { method := rfl, path := rfl, declaration := rfl, file := rfl }
  have alone : Endpoint.sorted [endpoint] = [endpoint] := List.mergeSort_singleton _
  refine ⟨whole, ?_, ?_⟩
  · rw [document, writtenPieces, alone]
    decide +kernel
  · have meant := (document_read_back [endpoint] whole).2.2.1
    rwa [alone] at meant

end Report.Json

end RouteAtlas
