import Mathlib.Logic.Relation
import RouteAtlas.Proofs.ReadLiterals
import RouteAtlas.Proofs.Sums
import RouteAtlas.Routing.Scope

set_option autoImplicit false

namespace RouteAtlas

namespace Node

def arguments (written : Node) : List Node :=
  (written.child? .arguments).elim [] namedChildren

/-- Elements of an attribute, and the same ones after one change: braces around one of them, an array in place of which
its elements stand, or one more comment; at the top or inside one of the arrays. A value is a list of one element. -/
inductive Respelled : List Node -> List Node -> Prop
  | wrap (before after : List Node) {value array inner : Node} (kind : array.kind = .elementValueArray)
      (only : array.namedChildren = [inner]) (same : inner.unplaced = value.unplaced) :
      Respelled (before ++ value :: after) (before ++ array :: after)
  | flatten (before after : List Node) {array : Node} (kind : array.kind = .elementValueArray) :
      Respelled (before ++ array :: after) (before ++ array.namedChildren ++ after)
  | comment (before after : List Node) {remark : Node} (kind : remark.isComment = true) :
      Respelled (before ++ after) (before ++ remark :: after)
  | inside (before after : List Node) {array other : Node} (kind : array.kind = .elementValueArray)
      (otherKind : other.kind = .elementValueArray) (elements : Respelled array.namedChildren other.namedChildren) :
      Respelled (before ++ array :: after) (before ++ other :: after)

/-- Arguments, and the same ones after one change: a value gets the key that it has anyway, a value with or without a
key is respelled, one more comment, or two neighbours with different keys change places. -/
inductive Rearranged : List Node -> List Node -> Prop
  | keyed (before after : List Node) {argument pair value : Node} (positional : argument.kind ≠ .elementValuePair)
      (kind : pair.kind = .elementValuePair) (key : pair.textAt .key = AnnotationUse.defaultKey)
      (given : pair.child? .value = some value) (same : value.unplaced = argument.unplaced) :
      Rearranged (before ++ argument :: after) (before ++ pair :: after)
  | withoutKey (before after : List Node) {argument other : Node} (kind : argument.kind ≠ .elementValuePair)
      (otherKind : other.kind ≠ .elementValuePair) (respelled : Respelled [argument] [other]) :
      Rearranged (before ++ argument :: after) (before ++ other :: after)
  | withKey (before after : List Node) {pair other value otherValue : Node} (kind : pair.kind = .elementValuePair)
      (otherKind : other.kind = .elementValuePair) (key : other.textAt .key = pair.textAt .key)
      (given : pair.child? .value = some value) (otherGiven : other.child? .value = some otherValue)
      (respelled : Respelled [value] [otherValue]) : Rearranged (before ++ pair :: after) (before ++ other :: after)
  | comment (before after : List Node) {remark : Node} (kind : remark.isComment = true) :
      Rearranged (before ++ after) (before ++ remark :: after)
  | exchange (before after : List Node) {first second : Node}
      (apart : (AnnotationUse.argumentParts first).1 ≠ (AnnotationUse.argumentParts second).1) :
      Rearranged (before ++ first :: second :: after) (before ++ second :: first :: after)

def SpelledAlike (first second : Node) : Prop :=
  Relation.EqvGen Rearranged first.arguments second.arguments

theorem elementsAmong_eq (nodes : List Node) : elementsAmong nodes = (nodes.filter named).flatMap elements := by
  induction nodes with
  | nil => rfl
  | cons node rest ih =>
    rw [elementsAmong, ih, List.filter_cons]
    split <;> simp

theorem elements_array {node : Node} (kind : node.kind = .elementValueArray) :
    node.elements = node.namedChildren.flatMap elements := by
  obtain ⟨category, text, line, named, field, missing, children⟩ := node
  obtain rfl : category = .elementValueArray := kind
  rw [elements, if_pos rfl, elementsAmong_eq]
  rfl

theorem elements_comment {node : Node} (comment : node.isComment = true) : node.elements = [] := by
  obtain ⟨kind, text, line, named, field, missing, children⟩ := node
  have other : kind ≠ .elementValueArray := by
    rintro rfl
    exact Bool.false_ne_true comment
  rw [elements, if_neg other]
  exact if_pos comment

theorem elements_unplaced (node : Node) : node.unplaced.elements.map unplaced = node.elements.map unplaced := by
  obtain ⟨kind, text, line, named, field, missing, children⟩ := node
  simp only [unplaced, elements]
  split
  · rfl
  · split <;> rfl

theorem argumentElements_eq (key : Text) (argument : Node) :
    argument.argumentElements key =
      if (AnnotationUse.argumentParts argument).1 = key then
        (AnnotationUse.argumentParts argument).2.elim [] elements
      else [] := by
  rw [argumentElements]
  split
  next comment =>
    have positional : argument.kind ≠ .elementValuePair := by
      intro pair
      rw [isComment, pair] at comment
      exact Bool.false_ne_true comment
    rw [AnnotationUse.argumentParts, if_neg positional]
    simp [elements_comment comment]
  next => rfl

end Node

namespace AnnotationUse

open Node

variable (constants : Constants) (owners : List Text)

def worth (node : Node) : List (Except LiteralError (Option Value)) :=
  node.elements.map (constants.value? owners)

def argumentWorth (key : Text) (argument : Node) : List (Except LiteralError (Option Value)) :=
  (argument.argumentElements key).map (constants.value? owners)

theorem worth_congr {first second : Node} (same : first.unplaced = second.unplaced) :
    worth constants owners first = worth constants owners second := by
  have unplace (node : Node) :
      worth constants owners node = (node.unplaced.elements.map unplaced).map (constants.value? owners) := by
    rw [elements_unplaced, List.map_map, worth]
    congr 1
    funext element
    exact (constants.value?_unplaced owners element).symm
  rw [unplace first, unplace second, same]

theorem worth_array {array : Node} (kind : array.kind = .elementValueArray) :
    worth constants owners array = array.namedChildren.flatMap (worth constants owners) := by
  rw [worth, elements_array kind, List.map_flatMap]
  rfl

theorem worth_comment {remark : Node} (comment : remark.isComment = true) : worth constants owners remark = [] := by
  rw [worth, elements_comment comment, List.map_nil]

theorem argumentWorth_eq (key : Text) (argument : Node) :
    argumentWorth constants owners key argument =
      if (argumentParts argument).1 = key then (argumentParts argument).2.elim [] (worth constants owners) else [] := by
  rw [argumentWorth, argumentElements_eq]
  split
  · cases (argumentParts argument).2 <;> rfl
  · rfl

theorem argumentParts_positional {argument : Node} (kind : argument.kind ≠ .elementValuePair) :
    argumentParts argument = (defaultKey, some argument) :=
  if_neg kind

theorem argumentParts_pair {pair value : Node} (kind : pair.kind = .elementValuePair)
    (given : pair.child? .value = some value) : argumentParts pair = (pair.textAt .key, some value) := by
  rw [argumentParts, if_pos kind, given]

theorem worth_respelled {first second : List Node} (respelled : Respelled first second) :
    first.flatMap (worth constants owners) = second.flatMap (worth constants owners) := by
  induction respelled with
  | @wrap before after value array inner kind only same =>
    have own : worth constants owners array = worth constants owners value := by
      rw [worth_array constants owners kind, only, List.flatMap_singleton, worth_congr constants owners same]
    simp only [List.flatMap_append, List.flatMap_cons, own]
  | flatten before after kind =>
    simp only [List.flatMap_append, List.flatMap_cons, worth_array constants owners kind, List.append_assoc]
  | comment before after kind =>
    simp only [List.flatMap_append, List.flatMap_cons, worth_comment constants owners kind, List.nil_append]
  | inside before after kind otherKind elements ih =>
    simp only [List.flatMap_append, List.flatMap_cons, worth_array constants owners kind,
      worth_array constants owners otherKind, ih]

theorem worth_value {first second : Node} (respelled : Respelled [first] [second]) :
    worth constants owners first = worth constants owners second := by
  simpa using worth_respelled constants owners respelled

theorem argumentWorth_rearranged {first second : List Node} (rearranged : Rearranged first second) (key : Text) :
    first.flatMap (argumentWorth constants owners key) = second.flatMap (argumentWorth constants owners key) := by
  -- All changes but the exchange are made to a single argument.
  have replaced (before after : List Node) {argument other : Node}
      (same : argumentWorth constants owners key argument = argumentWorth constants owners key other) :
      (before ++ argument :: after).flatMap (argumentWorth constants owners key) =
        (before ++ other :: after).flatMap (argumentWorth constants owners key) := by
    simp only [List.flatMap_append, List.flatMap_cons, same]
  cases rearranged with
  | keyed before after positional kind sameKey given same =>
    apply replaced
    simp only [argumentWorth_eq, argumentParts_positional positional, argumentParts_pair kind given, sameKey,
      Option.elim_some, worth_congr constants owners same]
  | withoutKey before after kind otherKind respelled =>
    apply replaced
    simp only [argumentWorth_eq, argumentParts_positional kind, argumentParts_positional otherKind, Option.elim_some,
      worth_value constants owners respelled]
  | withKey before after kind otherKind sameKey given otherGiven respelled =>
    apply replaced
    simp only [argumentWorth_eq, argumentParts_pair kind given, argumentParts_pair otherKind otherGiven, sameKey,
      Option.elim_some, worth_value constants owners respelled]
  | @comment before after remark kind =>
    have nothing : argumentWorth constants owners key remark = [] := by
      rw [argumentWorth, argumentElements, if_pos kind, List.map_nil]
    simp only [List.flatMap_append, List.flatMap_cons, nothing, List.nil_append]
  | @exchange before after first second apart =>
    have alone : argumentWorth constants owners key first = [] ∨ argumentWorth constants owners key second = [] := by
      by_cases own : (argumentParts first).1 = key
      · right
        rw [argumentWorth_eq, if_neg fun other => apart (own.trans other.symm)]
      · left
        rw [argumentWorth_eq, if_neg own]
    simp only [List.flatMap_append, List.flatMap_cons]
    rcases alone with nothing | nothing <;> simp [nothing]

theorem elementsOf_alike {first second : Node} (alike : first.SpelledAlike second) (key : Text) :
    (first.elementsOf key).map (constants.value? owners) = (second.elementsOf key).map (constants.value? owners) := by
  have inArguments (written : Node) : (written.elementsOf key).map (constants.value? owners) =
      written.arguments.flatMap (argumentWorth constants owners key) := by
    rw [elementsOf, List.map_flatMap]
    rfl
  rw [inArguments, inArguments]
  rw [SpelledAlike] at alike
  generalize first.arguments = arguments at alike
  generalize second.arguments = others at alike
  induction alike with
  | rel arguments others step => exact argumentWorth_rearranged constants owners step key
  | refl arguments => rfl
  | symm arguments others _ ih => exact ih.symm
  | trans arguments between others _ _ ih later => exact ih.trans later

end AnnotationUse

namespace Node

mutual

theorem elementLiterals_eq : (node : Node) -> node.elementLiterals = node.elements.flatMap literals
  | ⟨kind, text, line, named, field, missing, children⟩ => by
    rw [elementLiterals, elements]
    split
    · exact arrayLiterals_eq children
    · split <;> simp

theorem arrayLiterals_eq : (nodes : List Node) -> arrayLiterals nodes = (elementsAmong nodes).flatMap literals
  | [] => rfl
  | node :: rest => by
    rw [arrayLiterals, elementsAmong, List.flatMap_append, arrayLiterals_eq rest]
    split
    · rw [elementLiterals_eq node]
    · rfl

end

end Node

namespace AnnotationUse

open Node

variable (constants : Constants) (owners : List Text)

theorem whole_argumentLiterals (argument : Node) :
    Whole argument.argumentLiterals ↔
      ∀ key, ∀ element ∈ argument.argumentElements key, Succeeds (constants.value? owners element) := by
  simp only [argumentLiterals, argumentElements]
  split
  · simp
  · cases (argumentParts argument).2 with
    | none => simp
    | some value =>
      simp only [Option.elim_some, elementLiterals_eq, whole_flatMap, ← Constants.succeeds_value? constants owners]
      constructor
      · intro all key element member
        split at member
        · exact all element member
        · simp at member
      · intro all element member
        exact all (argumentParts argument).1 element (by rwa [if_pos rfl])

theorem succeeds_ofNode (written : Node) :
    Succeeds (ofNode constants owners written) ↔
      ∀ key, ∀ element ∈ written.elementsOf key, Succeeds (constants.value? owners element) := by
  rw [ofNode, succeeds_bind_pure, succeeds_foldlM (succeeds_addArgument constants owners) _ []]
  simp only [whole_argumentLiterals constants owners, elementsOf, List.mem_flatMap]
  constructor
  · rintro all key element ⟨argument, member, inside⟩
    exact all argument member key element inside
  · intro all argument member key element inside
    exact all key element ⟨argument, member, inside⟩

def present : Except LiteralError (Option Value) -> List Value
  | .ok (some value) => [value]
  | _ => []

theorem contributions_eq (elements : List Node) :
    elements.flatMap (contribution constants owners) = (elements.map (constants.value? owners)).flatMap present := by
  rw [List.flatMap_map]
  rfl

theorem ofNode_alike {first second : Node} (alike : first.SpelledAlike second) {Answer : Type}
    (ask : AnnotationUse -> Answer)
    (only : ∀ use other, (∀ key, use.valuesOf key = other.valuesOf key) -> ask use = ask other) :
    (ofNode constants owners second).map ask = (ofNode constants owners first).map ask := by
  have elements := elementsOf_alike constants owners alike
  have readable : Succeeds (ofNode constants owners second) ↔ Succeeds (ofNode constants owners first) := by
    rw [succeeds_ofNode, succeeds_ofNode]
    apply forall_congr'
    intro key
    have outcomes (written : Node) :
        (∀ element ∈ written.elementsOf key, Succeeds (constants.value? owners element)) ↔
          ∀ outcome ∈ (written.elementsOf key).map (constants.value? owners), Succeeds outcome := by
      rw [List.forall_mem_map]
    rw [outcomes, outcomes, elements]
  cases firstRead : ofNode constants owners first with
  | error reason =>
    cases secondRead : ofNode constants owners second with
    | error other => rfl
    | ok use =>
      rw [firstRead, secondRead] at readable
      exact absurd (readable.mp (succeeds_ok use)) (not_succeeds_error reason)
  | ok use =>
    cases secondRead : ofNode constants owners second with
    | error reason =>
      rw [firstRead, secondRead] at readable
      exact absurd (readable.mpr (succeeds_ok use)) (not_succeeds_error reason)
    | ok other =>
      have same : ask other = ask use := by
        apply only
        intro key
        rw [valuesOf_ofNode constants owners firstRead, valuesOf_ofNode constants owners secondRead,
          contributions_eq, contributions_eq, elements]
      rw [Except.map, Except.map, same]

end AnnotationUse

open AnnotationUse in
/-- What is read of an annotation is the same however its arguments are spelled: the values of every key, and the
methods and the paths. The values of a key are what its elements are worth, in their order, and the paths are those of
the key `path` followed by those of the key `value`. -/
theorem spellings_read_alike (constants : Constants) (owners : List Text) (written : Node) :
    (∀ other : Node, written.SpelledAlike other ->
      (ofNode constants owners other).map Scope.ofUse = (ofNode constants owners written).map Scope.ofUse ∧
      ∀ key,
        (ofNode constants owners other).map (fun use => (use.strings key, use.symbols key)) =
          (ofNode constants owners written).map fun use => (use.strings key, use.symbols key)) ∧
    (Succeeds (ofNode constants owners written) ↔
      ∀ key, ∀ element ∈ written.elementsOf key, Succeeds (constants.value? owners element)) ∧
    ∀ use, ofNode constants owners written = .ok use ->
      (∀ key, use.valuesOf key = (written.elementsOf key).flatMap (contribution constants owners)) ∧
      (Scope.ofUse use).paths = use.strings Scope.pathKey ++ use.strings defaultKey := by
  refine ⟨fun other alike => ⟨?_, fun key => ?_⟩, succeeds_ofNode constants owners written, fun use read => ?_⟩
  · apply ofNode_alike constants owners alike
    intro use another same
    simp only [Scope.ofUse, strings, symbols, same]
  · apply ofNode_alike constants owners alike
    intro use another same
    simp only [strings, symbols, same]
  · exact ⟨valuesOf_ofNode constants owners read, rfl⟩

open Sketch

def paired (key : Text) (value : Node) : Node :=
  branch .elementValuePair none [bare (some .key) key, value]

def tersely : List Node :=
  [quoted none ['/', 'a'], paired Scope.methodKey (bare (some .value) ['G', 'E', 'T'])]

def fully : List Node :=
  [paired Scope.methodKey (bare (some .value) ['G', 'E', 'T']),
    paired AnnotationUse.defaultKey
      (branch .elementValueArray (some .value) [leaf .blockComment none [], quoted none ['/', 'a']])]

theorem terse_and_full_read_alike :
    let use : AnnotationUse := {
      name := ['M']
      attributes := [(AnnotationUse.defaultKey, [.string ['/', 'a']]), (Scope.methodKey, [.symbol ['G', 'E', 'T']])] }
    (marker tersely).SpelledAlike (marker fully) ∧
    AnnotationUse.ofNode Constants.empty [] (marker tersely) = .ok use ∧ (Scope.ofUse use).paths = ["/a"] ∧
    (AnnotationUse.ofNode Constants.empty [] (marker fully)).map Scope.ofUse = .ok (Scope.ofUse use) := by
  intro use
  let route := paired Scope.methodKey (bare (some .value) ['G', 'E', 'T'])
  let keyed := paired AnnotationUse.defaultKey (quoted (some .value) ['/', 'a'])
  let braced := paired AnnotationUse.defaultKey (branch .elementValueArray (some .value) [quoted none ['/', 'a']])
  let remarked := paired AnnotationUse.defaultKey
    (branch .elementValueArray (some .value) [leaf .blockComment none [], quoted none ['/', 'a']])
  have first : Node.Rearranged tersely [keyed, route] := .keyed [] [route] (by decide) rfl rfl rfl rfl
  have second : Node.Rearranged [keyed, route] [braced, route] :=
    .withKey [] [route] rfl rfl rfl rfl rfl (.wrap [] [] rfl rfl rfl)
  have third : Node.Rearranged [braced, route] [remarked, route] :=
    .withKey [] [route] rfl rfl rfl rfl rfl (.inside [] [] rfl rfl (.comment [] [quoted none ['/', 'a']] rfl))
  have fourth : Node.Rearranged [remarked, route] fully := .exchange [] [] (by decide)
  have alike : (marker tersely).SpelledAlike (marker fully) :=
    .trans _ _ _ (.rel _ _ first) (.trans _ _ _ (.rel _ _ second) (.trans _ _ _ (.rel _ _ third) (.rel _ _ fourth)))
  have read : AnnotationUse.ofNode Constants.empty [] (marker tersely) = .ok use := rfl
  obtain ⟨alikeRead, -, told⟩ := spellings_read_alike Constants.empty [] (marker tersely)
  obtain ⟨same, -⟩ := alikeRead (marker fully) alike
  rw [read] at same
  exact ⟨alike, read, (told use read).2, same⟩

end RouteAtlas
