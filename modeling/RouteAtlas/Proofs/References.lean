import RouteAtlas.Proofs.Reevaluation
import RouteAtlas.Reading.AnnotationUse

set_option autoImplicit false

namespace RouteAtlas

theorem bind_eq_ok {Error First Second : Type} {first : Except Error First} {next : First -> Except Error Second}
    {result : Second} : (first >>= next) = .ok result ↔ ∃ value, first = .ok value ∧ next value = .ok result := by
  cases first with
  | error reason =>
    change Except.error reason = Except.ok result ↔ _
    simp
  | ok value =>
    change next value = .ok result ↔ _
    simp

theorem Text.lastTwo_append (path : List Text) (before last : Text) :
    Text.lastTwo (path ++ [before, last]) = (some before, last) := by
  induction path with
  | nil => rfl
  | cons first rest ih =>
    rw [← ih]
    rcases rest with _ | ⟨second, _ | ⟨third, others⟩⟩ <;> rfl

namespace Operand

/-- The recording that an operand is read from. -/
def recording? (recorded : List Recording) (owners : List Text) : Operand -> Option Recording
  | literal _ => none
  | bare name => source? recorded owners name
  | dotted source =>
    let parts := Text.lastTwo (Text.split CodePoint.dot (Text.compact source))
    parts.1.bind fun type => firstOf recorded type parts.2

def label : Operand -> Text
  | literal text => text
  | bare name => name
  | dotted source => (Text.lastTwo (Text.split CodePoint.dot (Text.compact source))).2

end Operand

namespace Node

def reference? (node : Node) : Option Operand :=
  match node.kind with
  | .identifier => some (.bare node.text)
  | .fieldAccess => some (.dotted node.text)
  | .scopedIdentifier => some (.dotted node.text)
  | _ => none

end Node

namespace Constants

def meaning (constants : Constants) (owners : List Text) : Operand -> Value
  | .literal text => .string text
  | .bare name => constants.nameValue owners name
  | .dotted source => constants.dottedValue source

theorem value?_reference (constants : Constants) (owners : List Text) (node : Node) (reference : Operand)
    (written : node.reference? = some reference) :
    constants.value? owners node = .ok (some (constants.meaning owners reference)) := by
  obtain ⟨kind, text, line, named, field, missing, children⟩ := node
  dsimp only [Node.reference?] at written
  split at written
  case h_4 => simp at written
  all_goals
    obtain rfl := Option.some.inj written
    rfl

end Constants

namespace Agrees

variable {constants : Constants} {recorded : List Recording}

theorem meaning_bare (agrees : Agrees constants recorded) (owners : List Text) (name : Text) :
    constants.meaning owners (.bare name) =
      ((Operand.bare name).recording? recorded owners).elim (.symbol name) fun found => .string found.value := by
  rw [Constants.meaning, Constants.nameValue, agrees.lookup?_eq, Operand.recording?]
  cases source? recorded owners name <;> rfl

theorem meaning_dotted (agrees : Agrees constants recorded) (owners : List Text) (source : Text) :
    constants.meaning owners (.dotted source) =
      ((Operand.dotted source).recording? recorded owners).elim (.symbol (Operand.dotted source).label)
        fun found => .string found.value := by
  simp only [Constants.meaning, Constants.dottedValue, Operand.recording?, Operand.label]
  cases (Text.lastTwo (Text.split CodePoint.dot (Text.compact source))).1 with
  | none => rfl
  | some type =>
    simp only [Option.bind_some, agrees.ofType]
    cases firstOf recorded type _ <;> rfl

theorem meaning_reference (agrees : Agrees constants recorded) (owners : List Text) (node : Node) (reference : Operand)
    (written : node.reference? = some reference) :
    constants.meaning owners reference =
      (reference.recording? recorded owners).elim (.symbol reference.label) fun found => .string found.value := by
  rw [Node.reference?] at written
  split at written
  case h_4 => simp at written
  all_goals obtain rfl := Option.some.inj written
  case h_1 => exact agrees.meaning_bare owners node.text
  all_goals exact agrees.meaning_dotted owners node.text

theorem value?_reference (agrees : Agrees constants recorded) (owners : List Text) (node : Node) (reference : Operand)
    (written : node.reference? = some reference) :
    constants.value? owners node = .ok (some
      ((reference.recording? recorded owners).elim (.symbol reference.label) fun found => .string found.value)) := by
  rw [constants.value?_reference owners node reference written, agrees.meaning_reference owners node reference written]

theorem meaning_congr {other : Constants} {known : List Recording} (agrees : Agrees constants recorded)
    (agree : Agrees other known) {owners outer : List Text} {reference : Operand}
    (same : reference.recording? recorded owners = reference.recording? known outer) :
    constants.meaning owners reference = other.meaning outer reference := by
  cases reference with
  | literal text => rfl
  | bare name => rw [agrees.meaning_bare, agree.meaning_bare, same]
  | dotted source => rw [agrees.meaning_dotted, agree.meaning_dotted, same]

end Agrees

namespace Node

mutual

def leaves : Node -> List Node
  | ⟨.parenthesizedExpression, _, _, _, _, _, children⟩ =>
    if (children.filter fun child => child.named && !child.isComment).length = 1 then onlyLeaves children else []
  | ⟨.binaryExpression, _, _, _, _, _, children⟩ =>
    let operator := (children.find? fun child => child.field = some .operator).elim [] Node.text
    let has := fun place => children.any fun child => child.field = some place
    if operator = Constants.plus && has .left && has .right then leavesAt .left children ++ leavesAt .right children
    else []
  | node => [node]

def onlyLeaves : List Node -> List Node
  | [] => []
  | node :: rest => if node.named && !node.isComment then leaves node else onlyLeaves rest

def leavesAt (field : Field) : List Node -> List Node
  | [] => []
  | node :: rest => if node.field = some field then leaves node else leavesAt field rest

end

def references (node : Node) : List Operand :=
  node.leaves.filterMap reference?

end Node

namespace Constants

def AgreeOn (first second : Constants) (owners others : List Text) (references : List Operand) : Prop :=
  ∀ reference ∈ references, first.meaning owners reference = second.meaning others reference

section Congr

variable (first second : Constants) (owners others : List Text)

mutual

theorem value?_congr : (node : Node) -> AgreeOn first second owners others node.references ->
    first.value? owners node = second.value? others node
  | ⟨kind, text, line, named, field, missing, children⟩, agree => by
    cases kind with
    | parenthesizedExpression =>
      simp only [Node.references, Node.leaves] at agree
      simp only [value?]
      split
      next single =>
        rw [if_pos single] at agree
        exact onlyValue?_congr children agree
      next => rfl
    | binaryExpression =>
      simp only [Node.references, Node.leaves] at agree
      simp only [value?]
      split
      next whole =>
        rw [if_pos whole, List.filterMap_append, AgreeOn, List.forall_mem_append] at agree
        rw [operandValue?_congr .left children agree.1, operandValue?_congr .right children agree.2]
      next => rfl
    | identifier =>
      rw [value?, value?]
      exact congrArg (fun value => Except.ok (some value)) (agree (.bare text) List.mem_cons_self)
    | fieldAccess =>
      rw [value?, value?]
      exact congrArg (fun value => Except.ok (some value)) (agree (.dotted text) List.mem_cons_self)
    | scopedIdentifier =>
      rw [value?, value?]
      exact congrArg (fun value => Except.ok (some value)) (agree (.dotted text) List.mem_cons_self)
    | _ => rfl

theorem onlyValue?_congr : (nodes : List Node) ->
    AgreeOn first second owners others ((Node.onlyLeaves nodes).filterMap Node.reference?) ->
    first.onlyValue? owners nodes = second.onlyValue? others nodes
  | [], _ => rfl
  | node :: rest, agree => by
    rw [Node.onlyLeaves] at agree
    rw [onlyValue?, onlyValue?]
    split
    next passes =>
      rw [if_pos passes] at agree
      exact value?_congr node agree
    next fails =>
      rw [if_neg fails] at agree
      exact onlyValue?_congr rest agree

theorem operandValue?_congr (field : Field) : (nodes : List Node) ->
    AgreeOn first second owners others ((Node.leavesAt field nodes).filterMap Node.reference?) ->
    first.operandValue? owners field nodes = second.operandValue? others field nodes
  | [], _ => rfl
  | node :: rest, agree => by
    rw [Node.leavesAt] at agree
    rw [operandValue?, operandValue?]
    split
    next placed =>
      rw [if_pos placed] at agree
      exact value?_congr node agree
    next elsewhere =>
      rw [if_neg elsewhere] at agree
      exact operandValue?_congr field rest agree

end

end Congr

end Constants

namespace Node

mutual

def elements : Node -> List Node
  | ⟨kind, text, line, named, field, missing, children⟩ =>
    if kind = .elementValueArray then elementsAmong children
    else if kind.isComment then []
    else [⟨kind, text, line, named, field, missing, children⟩]

def elementsAmong : List Node -> List Node
  | [] => []
  | node :: rest => (if node.named then elements node else []) ++ elementsAmong rest

end

def argumentElements (key : Text) (argument : Node) : List Node :=
  if argument.isComment then []
  else
    let parts := AnnotationUse.argumentParts argument
    if parts.1 = key then parts.2.elim [] elements else []

def elementsOf (written : Node) (key : Text) : List Node :=
  ((written.child? .arguments).elim [] namedChildren).flatMap (argumentElements key)

end Node

namespace AnnotationUse

variable (constants : Constants) (owners : List Text)

def contribution (element : Node) : List Value :=
  match constants.value? owners element with
  | .ok (some value) => [value]
  | _ => []

mutual

theorem elementValues_eq : (node : Node) -> (values : List Value) ->
    elementValues constants owners node = .ok values -> values = node.elements.flatMap (contribution constants owners)
  | ⟨kind, text, line, named, field, missing, children⟩, values, read => by
    rw [elementValues] at read
    rw [Node.elements]
    split at read
    next array =>
      rw [if_pos array]
      exact arrayValues_eq children values read
    next other =>
      rw [if_neg other]
      split at read
      next comment =>
        rw [if_pos comment]
        exact (Except.ok.inj read).symm
      next element =>
        rw [if_neg element, List.flatMap_singleton, contribution]
        cases value : constants.value? owners ⟨kind, text, line, named, field, missing, children⟩ with
        | error reason => simp [value, Except.map] at read
        | ok found =>
          obtain rfl : found.toList = values := by simpa [value, Except.map] using read
          cases found <;> rfl

theorem arrayValues_eq : (nodes : List Node) -> (values : List Value) ->
    arrayValues constants owners nodes = .ok values ->
      values = (Node.elementsAmong nodes).flatMap (contribution constants owners)
  | [], values, read => (Except.ok.inj read).symm
  | node :: rest, values, read => by
    rw [arrayValues] at read
    rw [Node.elementsAmong, List.flatMap_append]
    split at read
    next named =>
      obtain ⟨own, first, remaining⟩ := bind_eq_ok.mp read
      obtain ⟨others, later, joined⟩ := bind_eq_ok.mp remaining
      obtain rfl : own ++ others = values := Except.ok.inj joined
      rw [if_pos named, ← elementValues_eq node own first, ← arrayValues_eq rest others later]
    next unnamed =>
      obtain ⟨own, skipped, remaining⟩ := bind_eq_ok.mp read
      obtain rfl : [] = own := Except.ok.inj skipped
      obtain ⟨others, later, joined⟩ := bind_eq_ok.mp remaining
      obtain rfl : others = values := Except.ok.inj joined
      rw [if_neg unnamed, List.flatMap_nil, List.nil_append, ← arrayValues_eq rest others later]

end

theorem lookup_addArgument {attributes after : List (Text × List Value)} {argument : Node} (key : Text)
    (added : addArgument constants owners attributes argument = .ok after) :
    (after.lookup key).getD [] =
      (attributes.lookup key).getD [] ++ (argument.argumentElements key).flatMap (contribution constants owners) := by
  rw [addArgument] at added
  rw [Node.argumentElements]
  split at added
  next comment =>
    rw [if_pos comment, List.flatMap_nil, List.append_nil, Except.ok.inj added]
  next argued =>
    rw [if_neg argued]
    obtain ⟨values, read, altered⟩ := bind_eq_ok.mp added
    obtain rfl : alter (fun known => known.getD [] ++ values) (argumentParts argument).1 attributes = after :=
      Except.ok.inj altered
    have own : values = ((argumentParts argument).2.elim [] Node.elements).flatMap (contribution constants owners) := by
      cases value : (argumentParts argument).2 with
      | none =>
        rw [value] at read
        exact (Except.ok.inj read).symm
      | some node =>
        rw [value] at read
        exact elementValues_eq constants owners node values read
    by_cases same : (argumentParts argument).1 = key
    · rw [if_pos same, ← same, lookup_alter_self, Option.getD_some, own]
    · rw [if_neg same, lookup_alter_of_ne _ _ _ _ (Ne.symm same), List.flatMap_nil, List.append_nil]

theorem lookup_addArguments (key : Text) (arguments : List Node) {attributes after : List (Text × List Value)}
    (added : arguments.foldlM (addArgument constants owners) attributes = .ok after) :
    (after.lookup key).getD [] = (attributes.lookup key).getD [] ++
      (arguments.flatMap (Node.argumentElements key)).flatMap (contribution constants owners) := by
  induction arguments generalizing attributes with
  | nil =>
    obtain rfl : attributes = after := Except.ok.inj added
    simp
  | cons argument rest ih =>
    rw [List.foldlM_cons] at added
    obtain ⟨between, step, remaining⟩ := bind_eq_ok.mp added
    rw [ih remaining, lookup_addArgument constants owners key step, List.flatMap_cons, List.flatMap_append,
      List.append_assoc]

theorem valuesOf_ofNode {node : Node} {use : AnnotationUse} (read : ofNode constants owners node = .ok use)
    (key : Text) : use.valuesOf key = (node.elementsOf key).flatMap (contribution constants owners) := by
  obtain ⟨attributes, added, known⟩ := bind_eq_ok.mp read
  obtain rfl : { name := Text.compact (node.textAt .name), attributes := attributes } = use := Except.ok.inj known
  rw [valuesOf, lookup_addArguments constants owners key _ added]
  rfl

end AnnotationUse

namespace Node

def argumentReferences (argument : Node) : List Operand :=
  if argument.isComment then []
  else (AnnotationUse.argumentParts argument).2.elim [] fun value => value.elements.flatMap references

def annotationReferences (declaration : Node) : List Operand :=
  declaration.annotationNodes.flatMap fun written =>
    ((written.child? .arguments).elim [] namedChildren).flatMap argumentReferences

end Node

namespace AnnotationUse

open Constants

section Congr

variable (first second : Constants) (owners others : List Text)

mutual

theorem elementValues_congr : (node : Node) ->
    AgreeOn first second owners others (node.elements.flatMap Node.references) ->
    elementValues first owners node = elementValues second others node
  | ⟨kind, text, line, named, field, missing, children⟩, agree => by
    rw [Node.elements] at agree
    rw [elementValues, elementValues]
    split
    next array =>
      rw [if_pos array] at agree
      exact arrayValues_congr children agree
    next other =>
      rw [if_neg other] at agree
      split
      next => rfl
      next element =>
        rw [if_neg element, List.flatMap_singleton] at agree
        rw [value?_congr first second owners others _ agree]

theorem arrayValues_congr : (nodes : List Node) ->
    AgreeOn first second owners others ((Node.elementsAmong nodes).flatMap Node.references) ->
    arrayValues first owners nodes = arrayValues second others nodes
  | [], _ => rfl
  | node :: rest, agree => by
    rw [Node.elementsAmong, List.flatMap_append, AgreeOn, List.forall_mem_append] at agree
    rw [arrayValues, arrayValues, arrayValues_congr rest agree.2]
    split
    next named =>
      have own := agree.1
      rw [if_pos named] at own
      rw [elementValues_congr node own]
    next => rfl

end

theorem addArgument_congr (argument : Node) (agree : AgreeOn first second owners others argument.argumentReferences)
    (attributes : List (Text × List Value)) :
    addArgument first owners attributes argument = addArgument second others attributes argument := by
  rw [Node.argumentReferences] at agree
  rw [addArgument, addArgument]
  split
  next => rfl
  next argued =>
    rw [if_neg argued] at agree
    have values : (argumentParts argument).2.elim (.ok []) (elementValues first owners) =
        (argumentParts argument).2.elim (.ok []) (elementValues second others) := by
      cases given : (argumentParts argument).2 with
      | none => rfl
      | some value =>
        rw [given] at agree
        exact elementValues_congr first second owners others value agree
    simp only [values]

theorem addArguments_congr (arguments : List Node)
    (agree : AgreeOn first second owners others (arguments.flatMap Node.argumentReferences))
    (attributes : List (Text × List Value)) :
    arguments.foldlM (addArgument first owners) attributes =
      arguments.foldlM (addArgument second others) attributes := by
  induction arguments generalizing attributes with
  | nil => rfl
  | cons argument rest ih =>
    rw [List.flatMap_cons, AgreeOn, List.forall_mem_append] at agree
    rw [List.foldlM_cons, List.foldlM_cons, addArgument_congr first second owners others argument agree.1]
    exact congrArg (_ >>= ·) (funext (ih agree.2))

theorem ofDeclaration_congr (declaration : Node)
    (agree : AgreeOn first second owners others declaration.annotationReferences) :
    ofDeclaration first owners declaration = ofDeclaration second others declaration := by
  rw [Node.annotationReferences] at agree
  rw [ofDeclaration, ofDeclaration]
  generalize declaration.annotationNodes = annotations at agree
  induction annotations with
  | nil => rfl
  | cons written rest ih =>
    rw [List.flatMap_cons, AgreeOn, List.forall_mem_append] at agree
    rw [List.mapM_cons, List.mapM_cons, ih agree.2, ofNode, ofNode,
      addArguments_congr first second owners others _ agree.1]

end Congr

end AnnotationUse

end RouteAtlas
