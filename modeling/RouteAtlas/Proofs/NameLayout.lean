import RouteAtlas.Proofs.NameParts
import RouteAtlas.Routing.Scope
import RouteAtlas.Source

set_option autoImplicit false

namespace RouteAtlas

namespace CodePoint

def rangesApart (first second : List (Nat × Nat)) : Bool :=
  first.all fun range => second.all fun other => Nat.blt range.2 other.1 || Nat.blt other.2 range.1

theorem inRanges_iff {ranges : List (Nat × Nat)} {point : CodePoint} :
    point.inRanges ranges = true ↔ ∃ range ∈ ranges, range.1 ≤ point.val ∧ point.val ≤ range.2 := by
  simp [inRanges]

theorem not_inRanges_of_apart {first second : List (Nat × Nat)} (apart : rangesApart first second = true)
    {point : CodePoint} (inside : point.inRanges first = true) : point.inRanges second = false := by
  obtain ⟨range, member, within⟩ := inRanges_iff.mp inside
  rw [Bool.eq_false_iff, ne_eq, inRanges_iff]
  rintro ⟨other, present, both⟩
  have disjoint := List.all_eq_true.mp (List.all_eq_true.mp apart range member) other present
  simp only [Bool.or_eq_true, Nat.blt_eq] at disjoint
  omega

end CodePoint

namespace Java

def delimiterRanges : List (Nat × Nat) :=
  (0x2E, 0x2F) :: blankRanges

theorem letterRanges_apart : CodePoint.rangesApart letterRanges delimiterRanges = true := by
  decide +kernel

theorem continuationRanges_apart : CodePoint.rangesApart continuationRanges delimiterRanges = true := by
  decide +kernel

theorem asciiNames_apart : ∀ number : Fin 0x80, continuesIdentifier (Char.ofNat number) = true ->
    (CodePoint.ofChar (Char.ofNat number)).inRanges delimiterRanges = false := by
  decide +kernel

theorem not_delimiter {char : Char} (continues : continuesIdentifier char = true) :
    (CodePoint.ofChar char).inRanges delimiterRanges = false := by
  by_cases ascii : char.toNat < 0x80
  next =>
    have apart := asciiNames_apart ⟨char.toNat, ascii⟩
    rw [Char.ofNat_toNat] at apart
    exact apart continues
  next =>
    rw [continuesIdentifier, if_neg ascii, Bool.or_eq_true, Bool.or_eq_true, decide_eq_true_eq] at continues
    rcases continues with (cent | letter) | further
    · obtain rfl : char = Char.ofNat 0xA2 := by rw [← cent, Char.ofNat_toNat]
      decide
    · exact CodePoint.not_inRanges_of_apart letterRanges_apart letter
    · exact CodePoint.not_inRanges_of_apart continuationRanges_apart further

theorem continues_of_starts {char : Char} (starts : startsIdentifier char = true) :
    continuesIdentifier char = true := by
  rw [startsIdentifier] at starts
  rw [continuesIdentifier]
  by_cases ascii : char.toNat < 0x80
  next =>
    rw [if_pos ascii, Bool.or_eq_true, Bool.or_eq_true] at starts ⊢
    rcases starts with (letter | underscore) | dollar
    · exact .inl (.inl (by rw [Char.isAlphanum, letter, Bool.true_or]))
    · exact .inl (.inr underscore)
    · exact .inr dollar
  next =>
    rw [if_neg ascii] at starts ⊢
    rw [starts, Bool.or_true, Bool.true_or]

structure Identifier where
  first : Char
  rest : List Char
  starts : startsIdentifier first = true
  continues : ∀ char ∈ rest, continuesIdentifier char = true

namespace Identifier

variable (name : Identifier)

def text : Text :=
  Text.ofChars (name.first :: name.rest)

theorem not_delimiter (point : CodePoint) (member : point ∈ name.text) : point.inRanges delimiterRanges = false := by
  obtain ⟨char, present, rfl⟩ := List.mem_map.mp member
  apply Java.not_delimiter
  rcases List.mem_cons.mp present with rfl | later
  · exact continues_of_starts name.starts
  · exact name.continues char later

theorem dot_not_mem : CodePoint.dot ∉ name.text :=
  fun member => absurd (name.not_delimiter CodePoint.dot member) (by decide)

theorem slash_not_mem : CodePoint.slash ∉ name.text :=
  fun member => absurd (name.not_delimiter CodePoint.slash member) (by decide)

theorem compact_text : Text.compact name.text = name.text := by
  rw [Text.compact, List.filter_eq_self]
  intro point member
  have apart := name.not_delimiter point member
  rw [CodePoint.inRanges, delimiterRanges, List.any_cons, Bool.or_eq_false_iff] at apart
  rw [CodePoint.isBlank, CodePoint.inRanges, apart.2]
  rfl

end Identifier

inductive Filler where
  | space (char : Char) (blank : Lexer.isSpace char = true)
  | block (body : List Char) (unclosed : ¬ ['*', '/'] <:+: body)
  | line (body : List Char) (unended : '\n' ∉ body)

namespace Filler

def chars : Filler -> List Char
  | space char _ => [char]
  | block body _ => '/' :: '*' :: body ++ ['*', '/']
  | line body _ => '/' :: '/' :: body ++ ['\n']

def isComment : Filler -> Bool
  | space _ _ => false
  | block _ _ | line _ _ => true

def isLine : Filler -> Bool
  | line _ _ => true
  | space _ _ | block _ _ => false

def textAll (gap : List Filler) : Text :=
  gap.flatMap fun filler => Text.ofChars filler.chars

theorem isBlank_of_isSpace {char : Char} (blank : Lexer.isSpace char = true) :
    (CodePoint.ofChar char).isBlank = true := by
  rw [CodePoint.isBlank, CodePoint.inRanges_iff]
  rw [Lexer.isSpace, Bool.or_eq_true, Bool.and_eq_true, decide_eq_true_eq, decide_eq_true_eq, decide_eq_true_eq] at blank
  rcases blank with rfl | ⟨low, high⟩
  · exact ⟨(0x1C, 0x20), by decide, by decide⟩
  · exact ⟨(0x09, 0x0D), by decide, low, high⟩

theorem compact_block (body : List Char) (unclosed : ¬ ['*', '/'] <:+: body) :
    ∃ front, Text.compact (Text.ofChars (block body unclosed).chars) = front ++ [CodePoint.slash] := by
  refine ⟨Text.compact (Text.ofChars ('/' :: '*' :: body ++ ['*'])), ?_⟩
  have last : Text.compact [CodePoint.slash] = [CodePoint.slash] := by decide
  rw [← last, ← Text.compact_append]
  simp [chars, Text.ofChars]

theorem compact_line (body : List Char) (unended : '\n' ∉ body) :
    ∃ rest, Text.compact (Text.ofChars (line body unended).chars) = CodePoint.slash :: rest := by
  exact ⟨_, rfl⟩

theorem compact_eq_nil_iff (gap : List Filler) :
    Text.compact (textAll gap) = [] ↔ ∀ filler ∈ gap, filler.isComment = false := by
  induction gap with
  | nil => simp [textAll, Text.compact]
  | cons filler rest ih =>
    rw [textAll, List.flatMap_cons, Text.compact_append, List.append_eq_nil_iff, List.forall_mem_cons]
    refine and_congr ?_ ih
    cases filler with
    | space char blank => simp [chars, Text.ofChars, Text.compact, isBlank_of_isSpace blank, isComment]
    | block body unclosed =>
      obtain ⟨front, kept⟩ := compact_block body unclosed
      simp [kept, isComment]
    | line body unended =>
      obtain ⟨rest, kept⟩ := compact_line body unended
      simp [kept, isComment]

theorem compact_ends (gap : List Filler) (closed : ∀ filler ∈ gap, filler.isLine = false) :
    Text.compact (textAll gap) = [] ∨ ∃ front, Text.compact (textAll gap) = front ++ [CodePoint.slash] := by
  induction gap with
  | nil => exact .inl rfl
  | cons filler rest ih =>
    rw [List.forall_mem_cons] at closed
    rw [textAll, List.flatMap_cons, Text.compact_append]
    rcases ih closed.2 with nothing | ⟨front, ends⟩
    · rw [textAll] at nothing
      rw [nothing, List.append_nil]
      cases filler with
      | space char blank => exact .inl (by simp [chars, Text.ofChars, Text.compact, isBlank_of_isSpace blank])
      | block body unclosed => exact .inr (compact_block body unclosed)
      | line body unended => exact absurd closed.1 (by simp [isLine])
    · rw [textAll] at ends
      exact .inr ⟨_, by rw [ends, ← List.append_assoc]⟩

end Filler

/-- A name of one or more identifiers with a dot between each two and layout around the dots. -/
inductive DottedName where
  | simple (name : Identifier)
  | member (outer : DottedName) (before behind : List Filler) (name : Identifier)

namespace DottedName

def text : DottedName -> Text
  | simple name => name.text
  | member outer before behind name =>
    outer.text ++ Filler.textAll before ++ CodePoint.dot :: (Filler.textAll behind ++ name.text)

def bare : DottedName -> DottedName
  | simple name => simple name
  | member outer _ _ name => member outer.bare [] [] name

def last : DottedName -> Identifier
  | simple name => name
  | member _ _ _ name => name

def lead : DottedName -> List Filler
  | simple _ => []
  | member _ _ behind _ => behind

theorem last_bare (name : DottedName) : name.bare.last = name.last := by
  cases name <;> rfl

theorem lead_bare (name : DottedName) : name.bare.lead = [] := by
  cases name <;> rfl

theorem compact_dot (rest : Text) : Text.compact (CodePoint.dot :: rest) = CodePoint.dot :: Text.compact rest :=
  rfl

theorem compact_text (name : DottedName) :
    ∃ front, CodePoint.dot :: Text.compact name.text =
      front ++ CodePoint.dot :: (Text.compact (Filler.textAll name.lead) ++ name.last.text) := by
  cases name with
  | simple name => exact ⟨[], by rw [text, name.compact_text]; rfl⟩
  | member outer before behind name =>
    refine ⟨CodePoint.dot :: Text.compact (outer.text ++ Filler.textAll before), ?_⟩
    simp only [text, lead, last, Text.compact_append, compact_dot, name.compact_text, List.cons_append]

theorem compact_member (outer : DottedName) (before behind : List Filler) (name : Identifier) :
    ∃ front, CodePoint.dot :: Text.compact (member outer before behind name).text =
      front ++ CodePoint.dot :: (Text.compact (Filler.textAll outer.lead) ++ outer.last.text ++
        Text.compact (Filler.textAll before)) ++
          CodePoint.dot :: (Text.compact (Filler.textAll behind) ++ name.text) := by
  obtain ⟨front, known⟩ := outer.compact_text
  refine ⟨front, ?_⟩
  simp only [text, Text.compact_append, compact_dot, name.compact_text, ← List.cons_append, known]
  simp only [List.append_assoc, List.cons_append]

def EndsWith (text : Text) (qualifier name : Identifier) : Prop :=
  CodePoint.dot :: qualifier.text ++ CodePoint.dot :: name.text <:+ CodePoint.dot :: text

/-- The layout next to the last two names, behind the dots in front of them and before the second one. -/
def near (outer : DottedName) (before behind : List Filler) : List Filler :=
  outer.lead ++ before ++ behind

theorem name_suffix (outer : DottedName) (before behind : List Filler) (name : Identifier) :
    name.text <:+ Text.compact (member outer before behind name).text := by
  simp only [text, Text.compact_append, compact_dot, name.compact_text, ← List.cons_append, ← List.append_assoc]
  exact List.suffix_append _ name.text

theorem endsWith_of_spaces (outer : DottedName) (before behind : List Filler) (name : Identifier)
    (spaces : ∀ filler ∈ near outer before behind, filler.isComment = false) :
    EndsWith (Text.compact (member outer before behind name).text) outer.last name := by
  rw [near, List.forall_mem_append, List.forall_mem_append] at spaces
  obtain ⟨⟨lead, before⟩, behind⟩ := spaces
  rw [← Filler.compact_eq_nil_iff] at lead before behind
  obtain ⟨front, known⟩ := compact_member outer _ _ name
  refine ⟨front, ?_⟩
  rw [known, lead, before, behind]
  simp

theorem gap_eq_nil {ending front gap : Text} (given : ending ≠ []) (free : CodePoint.slash ∉ ending)
    (closed : gap = [] ∨ ∃ start, gap = start ++ [CodePoint.slash]) (inside : ending <:+ front ++ gap) : gap = [] := by
  rcases closed with nothing | ⟨start, rfl⟩
  · exact nothing
  · rw [← List.append_assoc] at inside
    rcases List.suffix_concat_iff.mp inside with nothing | ⟨rest, same, -⟩
    · exact absurd nothing given
    · exact absurd (same ▸ List.mem_append_right rest (List.mem_singleton.mpr rfl)) free

theorem spaces_of_endsWith (outer : DottedName) (before behind : List Filler) (name : Identifier)
    (closed : ∀ filler ∈ near outer before behind, filler.isLine = false)
    (kept : EndsWith (Text.compact (member outer before behind name).text) outer.last name) :
    ∀ filler ∈ near outer before behind, filler.isComment = false := by
  rw [near, List.forall_mem_append, List.forall_mem_append] at closed ⊢
  obtain ⟨⟨leadClosed, beforeClosed⟩, behindClosed⟩ := closed
  simp only [← Filler.compact_eq_nil_iff]
  obtain ⟨front, known⟩ := compact_member outer before behind name
  rw [EndsWith, known] at kept
  let dot : Text := [CodePoint.dot]
  let qualifier := outer.last.text
  let gap := fun fillers => Text.compact (Filler.textAll fillers)
  have dotFree : CodePoint.slash ∉ dot := by decide
  have free : CodePoint.slash ∉ dot ++ qualifier := by
    rw [List.mem_append, not_or]
    exact ⟨dotFree, outer.last.slash_not_mem⟩
  have allFree : CodePoint.slash ∉ dot ++ qualifier ++ dot := by
    rw [List.mem_append, not_or]
    exact ⟨free, dotFree⟩
  -- From the right, each gap is empty and what stands behind it falls away on both sides.
  have third : dot ++ qualifier ++ dot <:+
      front ++ dot ++ gap outer.lead ++ qualifier ++ gap before ++ dot ++ gap behind := by
    have aligned : dot ++ qualifier ++ dot ++ name.text <:+
        front ++ dot ++ gap outer.lead ++ qualifier ++ gap before ++ dot ++ gap behind ++ name.text := by
      simpa [dot, qualifier, gap] using kept
    exact ((List.suffix_append_inj_of_length_eq rfl).mp aligned).1
  have behindNil : gap behind = [] :=
    gap_eq_nil (by simp [dot]) allFree (Filler.compact_ends behind behindClosed) third
  have second : dot ++ qualifier <:+ front ++ dot ++ gap outer.lead ++ qualifier ++ gap before := by
    rw [behindNil, List.append_nil] at third
    exact ((List.suffix_append_inj_of_length_eq rfl).mp third).1
  have beforeNil : gap before = [] := gap_eq_nil (by simp [dot]) free (Filler.compact_ends before beforeClosed) second
  have first : dot <:+ front ++ dot ++ gap outer.lead := by
    rw [beforeNil, List.append_nil] at second
    exact ((List.suffix_append_inj_of_length_eq rfl).mp second).1
  have leadNil : gap outer.lead = [] :=
    gap_eq_nil (by simp [dot]) dotFree (Filler.compact_ends outer.lead leadClosed) first
  exact ⟨⟨leadNil, beforeNil⟩, behindNil⟩

end DottedName

end Java

open Java

structure Node.IsDotted (node : Node) (text : Text) : Prop where
  kind : node.kind = .fieldAccess ∨ node.kind = .scopedIdentifier
  text : node.text = text

namespace Constants

variable (constants : Constants) (owners : List Text)

theorem value?_dotted {node : Node} {text : Text} (dotted : node.IsDotted text) :
    constants.value? owners node = .ok (some (constants.dottedValue text)) := by
  have written : node.reference? = some (.dotted text) := by
    rcases dotted.kind with kind | kind <;> rw [Node.reference?, kind, dotted.text]
  exact constants.value?_reference owners node _ written

def namedIn (type name : Text) : Value :=
  (constants.inType? type name).elim (.symbol name) .string

theorem dottedValue_eq {text type name : Text}
    (parts : Text.lastTwo (Text.split CodePoint.dot (Text.compact text)) = (some type, name)) :
    constants.dottedValue text = constants.namedIn type name := by
  rw [dottedValue, parts, namedIn]
  cases known : constants.inType? type name <;> simp [known]

end Constants

namespace Java.DottedName

variable (outer : DottedName) (before behind : List Filler) (name : Identifier)

theorem names_iff (text : Text) :
    Text.lastTwo (Text.split CodePoint.dot text) = (some outer.last.text, name.text) ↔ EndsWith text outer.last name :=
  Text.lastTwo_split_iff text outer.last.dot_not_mem name.dot_not_mem

theorem dottedValue_bare (constants : Constants) :
    constants.dottedValue (member outer before behind name).bare.text =
      constants.namedIn outer.last.text name.text := by
  apply constants.dottedValue_eq
  rw [names_iff, ← last_bare outer]
  exact endsWith_of_spaces outer.bare [] [] name (by simp [near, lead_bare])

theorem endsWith_of_same {text : Text}
    (same : ∀ constants : Constants, constants.dottedValue text = constants.namedIn outer.last.text name.text) :
    EndsWith (Text.compact text) outer.last name := by
  let constants : Constants := { ofTypes := [(outer.last.text, [(name.text, [])])], ofFile := [] }
  have single {Entry : Type} (key : Text) (entry : Entry) (asked : Text) (told : Entry)
      (known : [(key, entry)].lookup asked = some told) : asked = key ∧ told = entry := by
    rw [List.lookup_cons] at known
    split at known
    next same => exact ⟨beq_iff_eq.mp same, (Option.some.inj known).symm⟩
    next => simp at known
  have only {type label value : Text} (known : constants.inType? type label = some value) :
      type = outer.last.text ∧ label = name.text := by
    obtain ⟨table, owned, held⟩ := Option.bind_eq_some_iff.mp known
    obtain ⟨owner, rfl⟩ := single _ _ _ _ owned
    exact ⟨owner, (single _ _ _ _ held).1⟩
  have worth : constants.dottedValue text = .string [] := by
    rw [same constants]
    simp [Constants.namedIn, Constants.inType?, constants]
  rw [Constants.dottedValue] at worth
  rw [← names_iff]
  split at worth
  next value found =>
    obtain ⟨type, before, known⟩ := Option.bind_eq_some_iff.mp found
    obtain ⟨rfl, label⟩ := only known
    exact Prod.ext before label
  next => simp at worth

end Java.DottedName

open Java.DottedName in
/-- A dotted name means the constant of its last name in the type named before that, or its last name alone, and with
layout it means the same in all tables exactly if its source text, white space apart, ends with these two names. White
space never matters, and neither does a comment further in front; of the comments next to the two names each one matters
that is closed. What a name with layout comes out as still ends with its last name. -/
theorem name_read_alike_iff (outer : Java.DottedName) (before behind : List Java.Filler) (name : Java.Identifier)
    (written plain : Node) (spelled : written.IsDotted (member outer before behind name).text)
    (unspaced : plain.IsDotted (member outer before behind name).bare.text) :
    let source := Text.compact written.text
    let gaps := near outer before behind
    (∀ constants owners, Constants.value? constants owners plain =
      .ok (some ((constants.inType? outer.last.text name.text).elim (.symbol name.text) .string))) ∧
    ((∀ constants owners, Constants.value? constants owners written = constants.value? owners plain) ↔
      EndsWith source outer.last name) ∧
    ((∀ filler ∈ gaps, filler.isComment = false) -> EndsWith source outer.last name) ∧
    ((∀ filler ∈ gaps, filler.isLine = false) -> EndsWith source outer.last name ->
      ∀ filler ∈ gaps, filler.isComment = false) ∧
    ∀ constants owners label, Constants.value? constants owners written = .ok (some (.symbol label)) ->
      name.text <:+ label ∧ (label = name.text ↔ CodePoint.dot :: name.text <:+ CodePoint.dot :: source) := by
  intro source gaps
  have source_eq : source = Text.compact (member outer before behind name).text := congrArg Text.compact spelled.text
  have plainly (constants : Constants) (owners : List Text) :
      constants.value? owners plain = .ok (some (constants.namedIn outer.last.text name.text)) := by
    rw [constants.value?_dotted owners unspaced, dottedValue_bare]
  refine ⟨plainly, ?_, ?_, ?_, ?_⟩
  · constructor
    · intro same
      rw [source_eq]
      apply endsWith_of_same
      intro constants
      have alike := same constants []
      rw [constants.value?_dotted [] spelled, plainly] at alike
      exact Option.some.inj (Except.ok.inj alike)
    · intro kept constants owners
      rw [source_eq, ← names_iff] at kept
      rw [constants.value?_dotted owners spelled, plainly, constants.dottedValue_eq kept]
  · intro spaces
    rw [source_eq]
    exact endsWith_of_spaces outer before behind name spaces
  · intro closed kept
    rw [source_eq] at kept
    exact spaces_of_endsWith outer before behind name closed kept
  · intro constants owners label worth
    rw [constants.value?_dotted owners spelled] at worth
    obtain rfl := constants.label_of_meaning owners (.dotted _) (Option.some.inj (Except.ok.inj worth))
    rw [Operand.label_dotted, ← source_eq]
    have ends : name.text <:+ source := source_eq ▸ name_suffix outer before behind name
    exact ⟨Text.suffix_lastPart name.dot_not_mem ends, Text.lastPart_eq_iff source name.dot_not_mem⟩

namespace Java

def letter (char : Char) (starts : startsIdentifier char = true) : Identifier :=
  { first := char, rest := [], starts := starts, continues := by simp }

def spacedOuter : DottedName :=
  .member (.simple (letter 'a' rfl)) [.space ' ' rfl, .block [' ', 'x', '.', 'y', ' '] (by decide), .space ' ' rfl]
    [.space ' ' rfl] (letter 'B' rfl)

def put : Identifier :=
  { first := 'P'
    rest := ['U', 'T']
    starts := rfl
    continues := List.forall_mem_cons.mpr ⟨rfl, List.forall_mem_singleton.mpr rfl⟩ }

def remark : Filler :=
  .block [' ', 'c', ' '] (by decide)

def routedSource : List Char :=
  "class C \x7b @M(method = R./* c */PUT) void m() \x7b \x7d \x7d".toList

end Java

open Java Sketch

theorem spaced_name_read_alike :
    let written := leaf .fieldAccess none "a /* x.y */ . B\n.\tC"
    let plain := leaf .fieldAccess none "a.B.C"
    let before := [Filler.space '\n' rfl]
    let behind := [Filler.space '\t' rfl]
    let reference := DottedName.member spacedOuter before behind (letter 'C' rfl)
    let constants : Constants := { ofTypes := [("B", [("C", "/c")])], ofFile := [] }
    written.IsDotted reference.text ∧ plain.IsDotted reference.bare.text ∧
    (∀ filler ∈ DottedName.near spacedOuter before behind, filler.isComment = false) ∧
    constants.value? [] written = .ok (some (.string "/c")) := by
  intro written plain before behind reference constants
  have spelled : written.IsDotted reference.text := ⟨.inl rfl, rfl⟩
  have unspaced : plain.IsDotted reference.bare.text := ⟨.inl rfl, rfl⟩
  have spaces : ∀ filler ∈ DottedName.near spacedOuter before behind, filler.isComment = false := by decide
  obtain ⟨-, alike, kept, -⟩ :=
    name_read_alike_iff spacedOuter before behind (letter 'C' rfl) written plain spelled unspaced
  exact ⟨spelled, unspaced, spaces, alike.mpr (kept spaces) constants []⟩

theorem comment_kept_in_name :
    let reference := DottedName.member (.simple (letter 'R' rfl)) [] [remark] put
    let value? := fun text : Text => Constants.empty.value? [] (leaf .fieldAccess none text)
    reference.text = "R./* c */PUT" ∧ reference.bare.text = "R.PUT" ∧
    value? reference.bare.text = .ok (some (.symbol "PUT")) ∧
    value? reference.text = .ok (some (.symbol "/*c*/PUT")) ∧
    (FileReading.ofRoot (Source.tree routedSource)).map (fun reading =>
      reading.methods.map fun method => method.annotations.map fun use => (Scope.ofUse use).methods) =
      .ok [[["/*c*/PUT"]]] := by
  intro reference value?
  refine ⟨rfl, rfl, rfl, rfl, ?_⟩
  decide +kernel

end RouteAtlas
