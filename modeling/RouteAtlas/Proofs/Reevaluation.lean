import Mathlib.Data.List.TakeWhile
import RouteAtlas.Proofs.ConstantHistory

set_option autoImplicit false

namespace RouteAtlas

inductive Operand where
  | literal (text : Text)
  | bare (name : Text)
  | dotted (source : Text)
deriving DecidableEq, Repr

namespace Operand

def value? (recorded : List Recording) (owners : List Text) : Operand -> Option Text
  | literal text => some text
  | bare name => (source? recorded owners name).map Recording.value
  | dotted source =>
    let parts := Text.lastTwo (Text.split CodePoint.dot (Text.compact source))
    (parts.1.bind fun type => firstOf recorded type parts.2).map Recording.value

end Operand

def spelled? (recorded : List Recording) (owners : List Text) : List Operand -> Option Text
  | [] => some []
  | operand :: rest =>
    (operand.value? recorded owners).bind fun text => (spelled? recorded owners rest).map fun others => text ++ others

theorem spelled?_append (recorded : List Recording) (owners : List Text) (first second : List Operand) :
    spelled? recorded owners (first ++ second) =
      (spelled? recorded owners first).bind fun left =>
        (spelled? recorded owners second).map fun right => left ++ right := by
  induction first with
  | nil => simp [spelled?]
  | cons operand rest ih =>
    rw [List.cons_append, spelled?, spelled?, ih]
    cases operand.value? recorded owners with
    | none => rfl
    | some text =>
      cases spelled? recorded owners rest with
      | none => rfl
      | some others => cases spelled? recorded owners second <;> simp

theorem spelled?_singleton (recorded : List Recording) (owners : List Text) (operand : Operand) :
    spelled? recorded owners [operand] = operand.value? recorded owners := by
  simp only [spelled?, Option.map_some, List.append_nil]
  cases operand.value? recorded owners <;> rfl

namespace Node

mutual

def operands? : Node -> Option (List Operand)
  | ⟨kind, text, _, _, _, _, children⟩ =>
    match kind with
    | .stringLiteral =>
      match Literal.decode text with
      | .ok (some decoded) => some [.literal decoded]
      | _ => none
    | .identifier => some [.bare text]
    | .fieldAccess => some [.dotted text]
    | .scopedIdentifier => some [.dotted text]
    | .parenthesizedExpression =>
      if (children.filter fun child => child.named && !child.isComment).length = 1 then onlyOperands? children
      else none
    | .binaryExpression =>
      let operator := (children.find? fun child => child.field = some .operator).elim [] Node.text
      let has := fun place => children.any fun child => child.field = some place
      if operator = Constants.plus && has .left && has .right then
        (operandsAt? .left children).bind fun left => (operandsAt? .right children).map fun right => left ++ right
      else none
    | _ => none

def onlyOperands? : List Node -> Option (List Operand)
  | [] => none
  | node :: rest => if node.named && !node.isComment then operands? node else onlyOperands? rest

def operandsAt? (field : Field) : List Node -> Option (List Operand)
  | [] => none
  | node :: rest => if node.field = some field then operands? node else operandsAt? field rest

end

end Node

def text? : Except LiteralError (Option Value) -> Option Text
  | .ok (some (.string text)) => some text
  | _ => none

theorem text?_eq_some (result : Except LiteralError (Option Value)) (text : Text) :
    text? result = some text ↔ result = .ok (some (.string text)) := by
  constructor
  · intro found
    unfold text? at found
    split at found
    · rw [Option.some.inj found]
    · simp at found
  · rintro rfl
    rfl

theorem text?_append (left right : Except LiteralError (Option Value)) :
    text? (do
      let first <- left
      let second <- right
      return Value.append? first second) =
      (text? left).bind fun first => (text? right).map fun second => first ++ second := by
  rcases left with _ | _ | first | _ <;> rcases right with _ | _ | second | _ <;> rfl

theorem text?_of_map (result : Except LiteralError (Option Value)) (text : Text)
    (evaluated : (result.map fun value => value.bind Value.string?) = .ok (some text)) :
    text? result = some text := by
  rcases result with reason | _ | known | name
  · simp [Except.map] at evaluated
  · simp [Except.map] at evaluated
  · simpa [Except.map, Value.string?, text?] using evaluated
  · simp [Except.map, Value.string?] at evaluated

theorem text?_ok (text : Option Text) (symbol : Value) (unknown : symbol.string? = none) :
    text? (.ok (some (match text with
      | some value => .string value
      | none => symbol))) = text := by
  cases text with
  | some value => rfl
  | none =>
    cases symbol with
    | string other => simp [Value.string?] at unknown
    | symbol name => rfl

theorem text?_bare {constants : Constants} {recorded : List Recording} (agrees : Agrees constants recorded)
    (owners : List Text) (name : Text) :
    text? (.ok (some (constants.nameValue owners name))) = Operand.value? recorded owners (.bare name) := by
  rw [Operand.value?, ← agrees.lookup?_eq]
  exact text?_ok _ (.symbol name) rfl

theorem text?_dotted {constants : Constants} {recorded : List Recording} (agrees : Agrees constants recorded)
    (owners : List Text) (source : Text) :
    text? (.ok (some (constants.dottedValue source))) = Operand.value? recorded owners (.dotted source) := by
  let parts := Text.lastTwo (Text.split CodePoint.dot (Text.compact source))
  have known : (parts.1.bind fun type => constants.inType? type parts.2) =
      (parts.1.bind fun type => firstOf recorded type parts.2).map Recording.value := by
    cases parts.1 with
    | none => rfl
    | some type => exact agrees.ofType type parts.2
  rw [Operand.value?, ← known]
  exact text?_ok _ (.symbol parts.2) rfl

mutual

theorem text?_value? {constants : Constants} {recorded : List Recording} (agrees : Agrees constants recorded)
    (owners : List Text) : (node : Node) ->
    text? (constants.value? owners node) = node.operands?.bind (spelled? recorded owners)
  | ⟨kind, text, line, named, field, missing, children⟩ => by
    cases kind with
    | stringLiteral =>
      simp only [Constants.value?, Node.operands?]
      rcases Literal.decode text with _ | _ | decoded
      · rfl
      · rfl
      · exact (spelled?_singleton recorded owners (.literal decoded)).symm
    | identifier =>
      rw [Constants.value?, text?_bare agrees, Node.operands?, Option.bind_some, spelled?_singleton]
    | fieldAccess =>
      rw [Constants.value?, text?_dotted agrees owners, Node.operands?, Option.bind_some, spelled?_singleton]
    | scopedIdentifier =>
      rw [Constants.value?, text?_dotted agrees owners, Node.operands?, Option.bind_some, spelled?_singleton]
    | parenthesizedExpression =>
      simp only [Constants.value?, Node.operands?]
      split
      · exact text?_onlyValue? agrees owners children
      · rfl
    | binaryExpression =>
      simp only [Constants.value?, Node.operands?]
      split
      · rw [text?_append, text?_operandValue? agrees owners .left children, text?_operandValue? agrees owners .right children]
        cases Node.operandsAt? .left children with
        | none => rfl
        | some left =>
          cases Node.operandsAt? .right children with
          | none => simp
          | some right => exact (spelled?_append recorded owners left right).symm
      · rfl
    | _ => rfl

theorem text?_onlyValue? {constants : Constants} {recorded : List Recording} (agrees : Agrees constants recorded)
    (owners : List Text) : (nodes : List Node) ->
    text? (constants.onlyValue? owners nodes) = (Node.onlyOperands? nodes).bind (spelled? recorded owners)
  | [] => rfl
  | node :: rest => by
    rw [Constants.onlyValue?, Node.onlyOperands?]
    split
    · exact text?_value? agrees owners node
    · exact text?_onlyValue? agrees owners rest

theorem text?_operandValue? {constants : Constants} {recorded : List Recording} (agrees : Agrees constants recorded)
    (owners : List Text) (field : Field) : (nodes : List Node) ->
    text? (constants.operandValue? owners field nodes) =
      (Node.operandsAt? field nodes).bind (spelled? recorded owners)
  | [] => rfl
  | node :: rest => by
    rw [Constants.operandValue?, Node.operandsAt?]
    split
    · exact text?_value? agrees owners node
    · exact text?_operandValue? agrees owners field rest

end

theorem spelled?_isSome {recorded : List Recording} {owners : List Text} {operands : List Operand} :
    (spelled? recorded owners operands).isSome = true ↔
      ∀ operand ∈ operands, (operand.value? recorded owners).isSome = true := by
  induction operands with
  | nil => simp [spelled?]
  | cons operand rest ih =>
    rw [List.forall_mem_cons, ← ih, spelled?]
    cases operand.value? recorded owners with
    | none => simp
    | some text => simp

theorem spelled?_congr {first second : List Recording} {owners : List Text} {operands : List Operand}
    (agree : ∀ operand ∈ operands, operand.value? first owners = operand.value? second owners) :
    spelled? first owners operands = spelled? second owners operands := by
  induction operands with
  | nil => rfl
  | cons operand rest ih =>
    obtain ⟨head, tail⟩ := List.forall_mem_cons.mp agree
    rw [spelled?, spelled?, head, ih tail]

def asked (recorded : List Recording) (owners : List Text) (name : Text) : List Text :=
  -- The types that are asked for a name in vain before one that knows it, or all of them.
  owners.takeWhile fun owner => (firstOf recorded owner name).isNone

theorem innermost?_asked (recorded : List Recording) (owners : List Text) (name : Text) :
    innermost? recorded (asked recorded owners name) name = none := by
  rw [innermost?, List.findSome?_eq_none_iff]
  intro owner inside
  have vain := List.mem_takeWhile_imp inside
  simpa using vain

theorem asked_or (recorded : List Recording) (owners : List Text) (name : Text) :
    asked recorded owners name = owners ∨
      ∃ owner rest recording, owners = asked recorded owners name ++ owner :: rest ∧
        firstOf recorded owner name = some recording := by
  induction owners with
  | nil => exact .inl rfl
  | cons first rest ih =>
    cases found : firstOf recorded first name with
    | some recording => exact .inr ⟨first, rest, recording, by simp [asked, found], found⟩
    | none =>
      have step : asked recorded (first :: rest) name = first :: asked recorded rest name := by simp [asked, found]
      rw [step]
      rcases ih with all | ⟨owner, others, recording, split, known⟩
      · exact .inl (congrArg (first :: ·) all)
      · exact .inr ⟨owner, others, recording, congrArg (first :: ·) split, known⟩

theorem innermost?_append_of_none {earlier later : List Recording} {owners : List Text} {name : Text}
    (vain : innermost? earlier owners name = none) :
    innermost? (earlier ++ later) owners name = innermost? later owners name := by
  induction owners with
  | nil => rfl
  | cons owner rest ih =>
    simp only [innermost?, List.findSome?_cons, firstOf_append] at vain ih ⊢
    cases found : firstOf earlier owner name with
    | some recording => simp [found] at vain
    | none =>
      simp only [found] at vain
      rw [Option.none_or, ih vain]

theorem source?_nil_eq_some {recorded : List Recording} {name : Text} {only : Recording} :
    source? recorded [] name = some only ↔ allOf recorded name = [only] := by
  rw [source?]
  split
  · next single all => simp [all]
  · next several => simpa using several only

/-- None of the recordings that follow is for a type that has been asked for the name in vain, and none at all is of the
name if it has been taken from the whole file. -/
def Undisturbed (earlier later : List Recording) (owners : List Text) (name : Text) : Prop :=
  ∀ recording ∈ later, recording.name = name ->
    recording.owner ∉ asked earlier owners name ∧ asked earlier owners name ≠ owners

theorem source?_extended {earlier : List Recording} {owners : List Text} {name : Text} {source : Recording}
    (later : List Recording) (meant : source? earlier owners name = some source) :
    source? (earlier ++ later) owners name = some source ↔ Undisturbed earlier later owners name := by
  have vain := innermost?_asked earlier owners name
  have since : innermost? (earlier ++ later) (asked earlier owners name) name =
      innermost? later (asked earlier owners name) name := innermost?_append_of_none vain
  rcases asked_or earlier owners name with all | ⟨owner, rest, known, split, found⟩
  · -- The name has been taken from the whole file, so its one recording is for none of the types around.
    rw [all] at vain since
    rw [source?_eq, vain, Option.none_or, source?_nil_eq_some] at meant
    obtain ⟨here, named⟩ := (mem_allOf earlier name source).mp (by rw [meant]; exact List.mem_cons_self)
    rw [source?_eq, since]
    constructor
    · intro same recording member label
      exfalso
      rcases Option.or_eq_some_iff.mp same with inside | ⟨-, only⟩
      · exact innermost?_eq_none.mp vain source here named (innermost?_eq_some inside).2.1
      · rw [source?_nil_eq_some, allOf_append, meant, List.singleton_append, List.cons_eq_cons] at only
        have listed := (mem_allOf later name recording).mpr ⟨member, label⟩
        simp [only.2] at listed
    · intro undisturbed
      have nothing : allOf later name = [] := by
        rw [List.eq_nil_iff_forall_not_mem]
        intro recording member
        obtain ⟨present, label⟩ := (mem_allOf later name recording).mp member
        exact (undisturbed recording present label).2 all
      have nowhere : innermost? later owners name = none := by
        rw [innermost?_eq_none]
        intro recording member label
        exact absurd all (undisturbed recording member label).2
      rw [nowhere, Option.none_or, source?_nil_eq_some, allOf_append, meant, nothing, List.append_nil]
  · -- The name has been found in a type, and only the types inside that one can come in between.
    have proper : asked earlier owners name ≠ owners := by
      intro all
      rw [all] at split
      simp at split
    have before := source?_append earlier (asked earlier owners name) (owner :: rest) name
    have after := source?_append (earlier ++ later) (asked earlier owners name) (owner :: rest) name
    rw [← split, vain, Option.none_or, source?, found, Option.some_or, meant] at before
    rw [← split, since, source?, firstOf_append, found, Option.some_or, Option.some_or, ← before] at after
    rw [after]
    have undisturbed : Undisturbed earlier later owners name ↔
        innermost? later (asked earlier owners name) name = none := by
      rw [innermost?_eq_none]
      constructor
      · intro still recording member label
        exact (still recording member label).1
      · intro away recording member label
        exact ⟨away recording member label, proper⟩
    rw [undisturbed]
    constructor
    · intro same
      rcases Option.or_eq_some_iff.mp same with inside | ⟨nowhere, -⟩
      · -- A recording for a type that was asked in vain is not the one that was found.
        exfalso
        obtain ⟨member, owned, named⟩ := firstOf_eq_some found
        obtain rfl := Option.some.inj before
        exact innermost?_eq_none.mp vain source member named (innermost?_eq_some inside).2.1
      · exact nowhere
    · intro nowhere
      rw [nowhere, Option.none_or]

/-- A recording that follows is of the name, and none at all is for a type around. -/
def Withdrawn (earlier later : List Recording) (owners : List Text) (name : Text) : Prop :=
  (∀ recording ∈ earlier ++ later, recording.name = name -> recording.owner ∉ owners) ∧
    ∃ recording ∈ later, recording.name = name

theorem source?_withdrawn {earlier : List Recording} {owners : List Text} {name : Text} {source : Recording}
    (later : List Recording) (meant : source? earlier owners name = some source) :
    source? (earlier ++ later) owners name = none ↔ Withdrawn earlier later owners name := by
  rw [source?_eq, Option.or_eq_none_iff, innermost?_eq_none]
  apply and_congr_right
  intro away
  have nowhere : innermost? earlier owners name = none := by
    rw [innermost?_eq_none]
    intro recording member
    exact away recording (List.mem_append_left _ member)
  rw [source?_eq, nowhere, Option.none_or, source?_nil_eq_some] at meant
  rw [source?, allOf_append, meant]
  constructor
  · intro withdrawn
    cases again : allOf later name with
    | nil => simp [again] at withdrawn
    | cons recording others =>
      have member : recording ∈ allOf later name := by rw [again]; exact List.mem_cons_self
      obtain ⟨present, label⟩ := (mem_allOf later name recording).mp member
      exact ⟨recording, present, label⟩
  · rintro ⟨recording, member, label⟩
    have listed := (mem_allOf later name recording).mpr ⟨member, label⟩
    cases again : allOf later name with
    | nil => simp [again] at listed
    | cons other others => rfl

namespace Operand

theorem meant {recorded : List Recording} {owners : List Text} {name : Text}
    (known : ((bare name).value? recorded owners).isSome = true) :
    ∃ source, source? recorded owners name = some source := by
  rw [value?, Option.isSome_map] at known
  exact Option.isSome_iff_exists.mp known

theorem value?_append {earlier : List Recording} {owners : List Text} {operand : Operand} (later : List Recording)
    (known : (operand.value? earlier owners).isSome = true)
    (undisturbed : ∀ name, operand = .bare name -> Undisturbed earlier later owners name) :
    operand.value? (earlier ++ later) owners = operand.value? earlier owners := by
  cases operand with
  | literal text => rfl
  | bare name =>
    obtain ⟨source, before⟩ := meant known
    rw [value?, value?, (source?_extended later before).mpr (undisturbed name rfl), before]
  | dotted source =>
    simp only [value?] at known ⊢
    cases type : (Text.lastTwo (Text.split CodePoint.dot (Text.compact source))).1 with
    | none => rfl
    | some owner =>
      simp only [type, Option.bind_some, firstOf_append] at known ⊢
      cases found : firstOf earlier owner (Text.lastTwo (Text.split CodePoint.dot (Text.compact source))).2 with
      | none => simp [found] at known
      | some recording => rfl

theorem isSome_append_iff {earlier : List Recording} {owners : List Text} {operand : Operand}
    (later : List Recording) (known : (operand.value? earlier owners).isSome = true) :
    (operand.value? (earlier ++ later) owners).isSome = true ↔
      ∀ name, operand = .bare name -> ¬ Withdrawn earlier later owners name := by
  cases operand with
  | literal text => simp [value?]
  | bare name =>
    obtain ⟨source, before⟩ := meant known
    rw [value?, Option.isSome_map, Option.isSome_iff_ne_none, ne_eq, source?_withdrawn later before]
    simp
  | dotted source =>
    rw [value?_append later known (by simp)]
    simp [known]

end Operand

theorem History.Reached.spelled {root : Node} {history : History} (reached : History.Reached root history)
    {earlier later : List Recording} {own : Recording} (recorded : history.recorded = earlier ++ own :: later) :
    ∃ initializer operands, own.declarator.node.child? .value = some initializer ∧
      initializer.operands? = some operands ∧
      spelled? earlier (own.declarator.owner :: own.declarator.outer) operands = some own.value := by
  obtain ⟨before, after, split, steps⟩ := reached
  obtain ⟨first, second, moment, order, run, known, evaluated⟩ :=
    History.run_makes before History.start history earlier later own steps recorded
  obtain rfl : moment.recorded = earlier := known
  have agrees := Agrees.run first History.start moment Agrees.start run
  rw [Declarator.value?] at evaluated
  cases written : own.declarator.node.child? .value with
  | none => simp [written] at evaluated
  | some initializer =>
    rw [written] at evaluated
    have string := text?_of_map _ own.value evaluated
    rw [text?_value? agrees] at string
    obtain ⟨operands, parts, spelled⟩ := Option.bind_eq_some_iff.mp string
    exact ⟨initializer, operands, rfl, parts, spelled⟩

/-- Evaluated again at the end, an initializer gives what its operands spell by then. It gives the recorded value if no
name in it has been disturbed, and a string at all exactly if no name in it has been withdrawn. -/
theorem recorded_value_again (root : Node) (final : History) (earlier later : List Recording) (own : Recording)
    (read : History.ofRoot root = .ok final)
    (recorded : final.recorded = earlier ++ own :: later) :
    let owners := own.declarator.owner :: own.declarator.outer
    Constants.ofRoot root = .ok final.constants ∧
    ∃ initializer operands, own.declarator.node.child? .value = some initializer ∧
      initializer.operands? = some operands ∧
      spelled? earlier owners operands = some own.value ∧
      (∀ text, final.constants.value? owners initializer = .ok (some (.string text)) ↔
        spelled? final.recorded owners operands = some text) ∧
      (∀ name, .bare name ∈ operands ->
        (source? final.recorded owners name = source? earlier owners name ↔
          Undisturbed earlier (own :: later) owners name)) ∧
      ((∀ name, .bare name ∈ operands -> Undisturbed earlier (own :: later) owners name) ->
        final.constants.value? owners initializer = .ok (some (.string own.value))) ∧
      ((∃ text, final.constants.value? owners initializer = .ok (some (.string text))) ↔
        ∀ name, .bare name ∈ operands -> ¬ Withdrawn earlier (own :: later) owners name) := by
  intro owners
  have reached := History.reached_of_ofRoot read
  have agrees := Agrees.of_reached reached
  obtain ⟨initializer, operands, written, parts, spelled⟩ := reached.spelled recorded
  have value (text : Text) : final.constants.value? owners initializer = .ok (some (.string text)) ↔
      spelled? final.recorded owners operands = some text := by
    rw [← text?_eq_some, text?_value? agrees, parts, Option.bind_some]
  -- The constant had a value, so every operand was known when it was recorded.
  have known := spelled?_isSome.mp (Option.isSome_iff_exists.mpr ⟨own.value, spelled⟩)
  refine ⟨?_, initializer, operands, written, parts, spelled, value, ?_, ?_, ?_⟩
  · rw [constants_eq, read]
    rfl
  · intro name inside
    obtain ⟨source, meant⟩ := Operand.meant (known _ inside)
    rw [recorded, meant]
    exact source?_extended (own :: later) meant
  · intro undisturbed
    rw [value, ← spelled, recorded]
    apply spelled?_congr
    intro operand inside
    apply Operand.value?_append (own :: later) (known operand inside)
    rintro name rfl
    exact undisturbed name inside
  · simp only [value]
    rw [← Option.isSome_iff_exists, spelled?_isSome, recorded]
    constructor
    · intro remains name inside
      exact (Operand.isSome_append_iff _ (known _ inside)).mp (remains _ inside) name rfl
    · intro kept operand inside
      rw [Operand.isSome_append_iff _ (known operand inside)]
      rintro name rfl
      exact kept name inside

section Withdrawn

open Sketch

variable (label : Text)

def firstMembers : List Node :=
  [constant ['P'] (quoted (some .value) ['/', 'a'])]

def extension : Node :=
  sum (bare (some .left) ['P']) (quoted (some .right) ['/', 'b'])

def lastMembers : List Node :=
  [constant label (quoted (some .value) ['/', 'c'])]

def threeTypes : Node :=
  file [classOf ['A'] firstMembers, classOf ['B'] [constant ['Q'] extension], classOf ['C'] (lastMembers label)]

def firstRecording : Recording :=
  { declarator := declared 0 ['P'] (quoted (some .value) ['/', 'a'])
      (within 0 ['A'] firstMembers [(0, threeTypes label)]) ['A'] []
    value := ['/', 'a'] }

def extendedRecording : Recording :=
  { declarator := declared 0 ['Q'] extension
      (within 1 ['B'] [constant ['Q'] extension] [(0, threeTypes label)]) ['B'] []
    value := ['/', 'a', '/', 'b'] }

def lastRecording : Recording :=
  { declarator := declared 0 label (quoted (some .value) ['/', 'c'])
      (within 2 ['C'] (lastMembers label) [(0, threeTypes label)]) ['C'] []
    value := ['/', 'c'] }

def threeTypesRead (ofFile : List (Text × Option Text)) : History :=
  { constants :=
      { ofTypes := [(['A'], [(['P'], ['/', 'a'])]), (['B'], [(['Q'], ['/', 'a', '/', 'b'])]),
          (['C'], [(label, ['/', 'c'])])]
        ofFile := ofFile }
    recorded := [firstRecording label, extendedRecording label, lastRecording label] }

end Withdrawn

open Sketch

theorem undisturbed_value_again :
    let history := threeTypesRead ['R']
      [(['P'], some ['/', 'a']), (['Q'], some ['/', 'a', '/', 'b']), (['R'], some ['/', 'c'])]
    let own := extendedRecording ['R']
    History.ofRoot (threeTypes ['R']) = .ok history ∧
    history.recorded = [firstRecording ['R']] ++ own :: [lastRecording ['R']] ∧
    own.declarator.node.child? .value = some extension ∧
    history.constants.value? (own.declarator.owner :: own.declarator.outer) extension =
      .ok (some (.string own.value)) := by
  intro history own
  obtain ⟨-, initializer, operands, written, parts, -, -, -, again, -⟩ :=
    recorded_value_again (threeTypes ['R']) history [firstRecording ['R']] [lastRecording ['R']] own rfl rfl
  obtain rfl : extension = initializer := Option.some.inj written
  obtain rfl : [.bare ['P'], .literal ['/', 'b']] = operands := Option.some.inj parts
  refine ⟨rfl, rfl, rfl, again ?_⟩
  intro name inside recording member named
  obtain rfl : name = (['P'] : Text) := by simpa using inside
  simp only [List.mem_cons, List.not_mem_nil, or_false] at member
  rcases member with rfl | rfl
  · exact absurd named (by decide)
  · exact absurd named (by decide)

theorem withdrawn_name_still_spelled :
    let history := threeTypesRead ['P'] [(['P'], none), (['Q'], some ['/', 'a', '/', 'b'])]
    let own := extendedRecording ['P']
    let owners := own.declarator.owner :: own.declarator.outer
    History.ofRoot (threeTypes ['P']) = .ok history ∧
    Constants.ofRoot (threeTypes ['P']) = .ok history.constants ∧
    own ∈ history.recorded ∧ own.declarator.node.child? .value = some extension ∧
    extension.operands? = some [.bare ['P'], .literal ['/', 'b']] ∧
    (allOf history.recorded ['P']).map Recording.owner = ([['A'], ['C']] : List Text) ∧
    history.constants.inType? own.owner own.name = some own.value ∧
    history.constants.value? owners extension ≠ .ok (some (.string own.value)) := by
  intro history own owners
  refine ⟨rfl, rfl, ?_, rfl, rfl, rfl, rfl, by decide⟩
  exact List.mem_cons_of_mem _ List.mem_cons_self

end RouteAtlas
