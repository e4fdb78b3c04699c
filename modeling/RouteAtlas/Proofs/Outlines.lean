import Mathlib.Data.List.Forall2
import RouteAtlas.Proofs.References
import RouteAtlas.Proofs.TypeNames

set_option autoImplicit false

namespace RouteAtlas

namespace Node

mutual

/-- A tree with nothing in its anonymous bodies. -/
def outline (parent : Option Kind) : Node -> Node
  | ⟨kind, text, line, named, field, missing, children⟩ =>
    ⟨kind, text, line, named, field, missing,
      if kind.isAnonymousBody parent then [] else outlineAll (some kind) children⟩

def outlineAll (parent : Option Kind) : List Node -> List Node
  | [] => []
  | node :: rest => outline parent node :: outlineAll parent rest

end

section Outline

variable (parent : Option Kind) (node : Node)

theorem outlineAll_eq (nodes : List Node) : outlineAll parent nodes = nodes.map (outline parent) := by
  induction nodes with
  | nil => rfl
  | cons node rest ih => rw [outlineAll, ih, List.map_cons]

@[simp]
theorem outline_kind : (node.outline parent).kind = node.kind := by
  cases node
  rfl

@[simp]
theorem outline_text : (node.outline parent).text = node.text := by
  cases node
  rfl

@[simp]
theorem outline_named : (node.outline parent).named = node.named := by
  cases node
  rfl

@[simp]
theorem outline_field : (node.outline parent).field = node.field := by
  cases node
  rfl

@[simp]
theorem outline_isComment : (node.outline parent).isComment = node.isComment := by
  simp [isComment]

theorem children_outline (plain : node.kind.isAnonymousBody parent = false) :
    (node.outline parent).children = node.children.map (outline (some node.kind)) := by
  cases node
  simp_all [outline, outlineAll_eq]

end Outline

theorem plain_of_ne (parent : Option Kind) {kind : Kind} (other : kind ≠ .classBody) :
    kind.isAnonymousBody parent = false := by
  simp [Kind.isAnonymousBody, other]

theorem plain_of_kind (parent : Option Kind) {kind : Kind} (test : Kind -> Bool) (other : test .classBody = false)
    (passes : test kind = true) : kind.isAnonymousBody parent = false := by
  apply plain_of_ne parent
  rintro rfl
  simp [other] at passes

theorem plain_below {parent : Kind} (other : parent.ownsAnonymousBody = false) (kind : Kind) :
    kind.isAnonymousBody (some parent) = false := by
  simp [Kind.isAnonymousBody, other]

section Picked

variable (parent : Option Kind) {test : Node -> Bool} (seen : ∀ node, test (outline parent node) = test node)
include seen

theorem filter_outline (nodes : List Node) :
    (nodes.map (outline parent)).filter test = (nodes.filter test).map (outline parent) := by
  rw [List.filter_map]
  congr 2
  funext node
  exact seen node

theorem find?_outline (nodes : List Node) :
    (nodes.map (outline parent)).find? test = (nodes.find? test).map (outline parent) := by
  rw [List.find?_map]
  congr 2
  funext node
  exact seen node

theorem any_outline (nodes : List Node) : (nodes.map (outline parent)).any test = nodes.any test := by
  rw [List.any_map]
  congr 1
  funext node
  exact seen node

end Picked

section Plain

variable {parent : Option Kind} {node : Node} (plain : node.kind.isAnonymousBody parent = false)
include plain

theorem child?_outline (field : Field) :
    (node.outline parent).child? field = (node.child? field).map (outline (some node.kind)) := by
  rw [child?, children_outline parent node plain, find?_outline _ (by simp)]
  rfl

theorem childrenAt_outline (field : Field) :
    (node.outline parent).childrenAt field = (node.childrenAt field).map (outline (some node.kind)) := by
  rw [childrenAt, children_outline parent node plain, filter_outline _ (by simp)]
  rfl

theorem textAt_outline (field : Field) : (node.outline parent).textAt field = node.textAt field := by
  rw [textAt, child?_outline plain, textAt]
  cases node.child? field <;> simp

theorem namedChildren_outline :
    (node.outline parent).namedChildren = node.namedChildren.map (outline (some node.kind)) := by
  rw [namedChildren, children_outline parent node plain, filter_outline _ (by simp)]
  rfl

theorem modifiers?_outline :
    (node.outline parent).modifiers? = node.modifiers?.map (outline (some node.kind)) := by
  rw [modifiers?, children_outline parent node plain, find?_outline _ (by simp)]
  rfl

end Plain

theorem plain_modifiers {node modifiers : Node} (found : node.modifiers? = some modifiers) :
    modifiers.kind = .modifiers ∧ modifiers.kind.isAnonymousBody (some node.kind) = false := by
  have kind : modifiers.kind = .modifiers := by simpa using List.find?_some found
  exact ⟨kind, plain_of_ne _ (by simp [kind])⟩

theorem isFinal_outline {parent : Option Kind} {node : Node} (plain : node.kind.isAnonymousBody parent = false) :
    (node.outline parent).isFinal = node.isFinal := by
  rw [isFinal, modifiers?_outline plain, isFinal]
  cases found : node.modifiers? with
  | none => rfl
  | some modifiers =>
    rw [Option.map_some, Option.any_some, Option.any_some, children_outline _ modifiers (plain_modifiers found).2,
      any_outline _ (by simp)]

theorem annotationNodes_outline {parent : Option Kind} {node : Node}
    (plain : node.kind.isAnonymousBody parent = false) :
    (node.outline parent).annotationNodes = node.annotationNodes.map (outline (some .modifiers)) := by
  rw [annotationNodes, modifiers?_outline plain, annotationNodes]
  cases found : node.modifiers? with
  | none => rfl
  | some modifiers =>
    obtain ⟨kind, inner⟩ := plain_modifiers found
    dsimp only [Option.map_some]
    rw [namedChildren_outline inner, kind, filter_outline _ (by simp)]

end Node

namespace Constants

open Node

variable (constants : Constants) (owners : List Text)

mutual

theorem value?_outline (parent : Option Kind) : (node : Node) ->
    constants.value? owners (node.outline parent) = constants.value? owners node
  | ⟨kind, text, line, named, field, missing, children⟩ => by
    cases kind with
    | parenthesizedExpression =>
      have plain := plain_of_ne parent (by simp : Kind.parenthesizedExpression ≠ .classBody)
      have count : ((children.map (outline (some .parenthesizedExpression))).filter
          fun child => child.named && !child.isComment) = _ := filter_outline _ (by simp) children
      have only := onlyValue?_outline (some .parenthesizedExpression) children
      simp only [outline, plain, Bool.false_eq_true, if_false, value?, only]
      rw [outlineAll_eq, count, List.length_map]
    | binaryExpression =>
      have plain := plain_of_ne parent (by simp : Kind.binaryExpression ≠ .classBody)
      have operator : ((children.map (outline (some .binaryExpression))).find? fun child =>
          child.field = some .operator).elim [] Node.text =
            (children.find? fun child => child.field = some .operator).elim [] Node.text := by
        rw [find?_outline _ (by simp)]
        cases children.find? fun child => child.field = some .operator <;> simp
      have has (place : Field) : ((children.map (outline (some .binaryExpression))).any fun child =>
          child.field = some place) = _ := any_outline _ (by simp) children
      have operand (place : Field) := operandValue?_outline (some .binaryExpression) place children
      simp only [outline, plain, Bool.false_eq_true, if_false, value?, operand]
      simp only [outlineAll_eq, operator, has]
    | _ => rfl

theorem onlyValue?_outline (parent : Option Kind) : (nodes : List Node) ->
    constants.onlyValue? owners (outlineAll parent nodes) = constants.onlyValue? owners nodes
  | [] => rfl
  | node :: rest => by
    rw [outlineAll, onlyValue?, onlyValue?, value?_outline parent node, onlyValue?_outline parent rest, outline_named,
      outline_isComment]

theorem operandValue?_outline (parent : Option Kind) (field : Field) : (nodes : List Node) ->
    constants.operandValue? owners field (outlineAll parent nodes) = constants.operandValue? owners field nodes
  | [] => rfl
  | node :: rest => by
    rw [outlineAll, operandValue?, operandValue?, value?_outline parent node, operandValue?_outline parent field rest,
      outline_field]

end

end Constants

namespace AnnotationUse

open Node

variable (constants : Constants) (owners : List Text)

mutual

theorem elementValues_outline (parent : Option Kind) : (node : Node) ->
    elementValues constants owners (node.outline parent) = elementValues constants owners node
  | ⟨kind, text, line, named, field, missing, children⟩ => by
    have value := Constants.value?_outline constants owners parent ⟨kind, text, line, named, field, missing, children⟩
    have array := arrayValues_outline (some kind) children
    simp only [outline] at value ⊢
    rw [elementValues, elementValues, value]
    split
    next same => rw [if_neg (by simp [plain_of_ne parent (same ▸ by simp : kind ≠ .classBody)]), array]
    next => rfl

theorem arrayValues_outline (parent : Option Kind) : (nodes : List Node) ->
    arrayValues constants owners (outlineAll parent nodes) = arrayValues constants owners nodes
  | [] => rfl
  | node :: rest => by
    rw [outlineAll, arrayValues, arrayValues, elementValues_outline parent node, arrayValues_outline parent rest,
      outline_named]

end

theorem addArgument_outline (parent : Option Kind) (attributes : List (Text × List Value)) (argument : Node) :
    addArgument constants owners attributes (argument.outline parent) =
      addArgument constants owners attributes argument := by
  have key : (argumentParts (argument.outline parent)).1 = (argumentParts argument).1 := by
    rw [argumentParts, argumentParts, outline_kind]
    split
    next pair => exact textAt_outline (plain_of_ne parent (by simp [pair])) .key
    next => rfl
  have values : (argumentParts (argument.outline parent)).2.elim (.ok []) (elementValues constants owners) =
      (argumentParts argument).2.elim (.ok []) (elementValues constants owners) := by
    rw [argumentParts, argumentParts, outline_kind]
    split
    next pair =>
      rw [child?_outline (plain_of_ne parent (by simp [pair]))]
      cases argument.child? .value with
      | none => rfl
      | some value => exact elementValues_outline constants owners _ value
    next => exact elementValues_outline constants owners parent argument
  simp only [addArgument, outline_isComment, key, values]

theorem ofNode_outline {parent : Option Kind} {node : Node} (marks : node.kind.isAnnotation = true) :
    ofNode constants owners (node.outline parent) = ofNode constants owners node := by
  have plain : node.kind.isAnonymousBody parent = false := plain_of_kind parent Kind.isAnnotation rfl marks
  have under (argument : Node) : argument.kind.isAnonymousBody (some node.kind) = false := by
    apply plain_below
    cases kind : node.kind <;> simp_all [Kind.isAnnotation, Kind.ownsAnonymousBody]
  rw [ofNode, ofNode, textAt_outline plain, child?_outline plain]
  cases node.child? .arguments with
  | none => rfl
  | some arguments =>
    simp only [Option.map_some, Option.elim_some, namedChildren_outline (under arguments), List.foldlM_map,
      addArgument_outline]

theorem ofDeclaration_outline {parent : Option Kind} {node : Node}
    (plain : node.kind.isAnonymousBody parent = false) :
    ofDeclaration constants owners (node.outline parent) = ofDeclaration constants owners node := by
  rw [ofDeclaration, ofDeclaration, annotationNodes_outline plain]
  have marks : ∀ written ∈ node.annotationNodes, written.kind.isAnnotation = true := by
    intro written member
    rw [annotationNodes] at member
    split at member
    · simp at member
    · exact (List.mem_filter.mp member).2
  generalize node.annotationNodes = annotations at marks
  induction annotations with
  | nil => rfl
  | cons written rest ih =>
    obtain ⟨first, others⟩ := List.forall_mem_cons.mp marks
    rw [List.map_cons, List.mapM_cons, List.mapM_cons, ofNode_outline constants owners first, ih others]

end AnnotationUse

namespace Node

def Alike (parent : Option Kind) (node other : Node) : Prop :=
  node.outline parent = other.outline parent

namespace Alike

variable {parent : Option Kind} {node other : Node}

theorem kind_eq (alike : node.Alike parent other) : node.kind = other.kind := by
  simpa using congrArg Node.kind alike

section Plain

variable (alike : node.Alike parent other) (plain : node.kind.isAnonymousBody parent = false)
include alike plain

theorem plain_other : other.kind.isAnonymousBody parent = false :=
  alike.kind_eq ▸ plain

theorem textAt_eq (field : Field) : node.textAt field = other.textAt field := by
  rw [← textAt_outline plain, alike, textAt_outline (alike.plain_other plain)]

theorem isFinal_eq : node.isFinal = other.isFinal := by
  rw [← isFinal_outline plain, alike, isFinal_outline (alike.plain_other plain)]

theorem childrenAt (field : Field) :
    List.Forall₂ (Alike (some node.kind)) (node.childrenAt field) (other.childrenAt field) := by
  have same := congrArg (Node.childrenAt · field) alike
  rw [childrenAt_outline plain, childrenAt_outline (alike.plain_other plain), ← alike.kind_eq, ← List.forall₂_eq_eq_eq,
    List.forall₂_map_left_iff, List.forall₂_map_right_iff] at same
  exact same

theorem value?_child_eq (constants : Constants) (owners : List Text) (field : Field) :
    (node.child? field).map (constants.value? owners) = (other.child? field).map (constants.value? owners) := by
  have same := congrArg (fun found : Node => (found.child? field).map (constants.value? owners)) alike
  simpa [child?_outline plain, child?_outline (alike.plain_other plain), Function.comp_def,
    Constants.value?_outline] using same

theorem ofDeclaration_eq (constants : Constants) (owners : List Text) :
    AnnotationUse.ofDeclaration constants owners node = AnnotationUse.ofDeclaration constants owners other := by
  rw [← AnnotationUse.ofDeclaration_outline constants owners plain, alike,
    AnnotationUse.ofDeclaration_outline constants owners (alike.plain_other plain)]

end Plain

end Alike

end Node

namespace Trail

inductive Alike : Trail -> Trail -> Prop
  | nil : Alike [] []
  | cons {position index : Nat} {node other : Node} {above beyond : Trail} (here : node.Alike (kind? above) other)
      (outside : Alike above beyond) : Alike ((position, node) :: above) ((index, other) :: beyond)

namespace Alike

variable {above beyond : Trail}

theorem kind?_eq (alike : Alike above beyond) : kind? above = kind? beyond := by
  cases alike with
  | nil => rfl
  | cons here outside => simp [here.kind_eq]

theorem isField_eq (alike : Alike above beyond) :
    (above.any fun step => step.2.kind.isField) = beyond.any fun step => step.2.kind.isField := by
  induction alike with
  | nil => rfl
  | cons here outside ih => rw [List.any_cons, List.any_cons, ih, here.kind_eq]

theorem frame?_isSome_eq (alike : Alike above beyond) : (frame? above).isSome = (frame? beyond).isSome := by
  induction alike with
  | nil => rfl
  | cons here outside ih =>
    simp only [frame?, here.kind_eq, outside.kind?_eq]
    split
    · rfl
    · split
      · simpa using ih
      · exact ih

theorem owners_eq (alike : Alike above beyond) : owners above = owners beyond := by
  induction alike with
  | nil => rfl
  | @cons position index node other above beyond here outside ih =>
    rw [owners, owners, ← here.kind_eq, ih]
    split
    next type => rw [here.textAt_eq (Node.plain_of_kind _ Kind.isTypeDeclaration rfl type)]
    next => rfl

theorem holders_eq (alike : Alike above beyond) : holders above = holders beyond := by
  induction alike with
  | nil => rfl
  | @cons position index node other above beyond here outside ih =>
    simp only [holders, ← here.kind_eq, ih, ← outside.kind?_eq]
    split
    next type => rw [here.textAt_eq (Node.plain_of_kind _ Kind.isTypeDeclaration rfl type)]
    next => rfl

theorem typeAnnotations_eq (alike : Alike above beyond) (file : FileContext) :
    typeAnnotations file above = typeAnnotations file beyond := by
  induction alike with
  | nil => rfl
  | @cons position index node other above beyond here outside ih =>
    rw [typeAnnotations, typeAnnotations, ← here.kind_eq, ih, ← outside.kind?_eq, ← outside.owners_eq]
    split
    next type => exact here.ofDeclaration_eq (Node.plain_of_kind _ Kind.isTypeDeclaration rfl type) file.constants _
    next => rfl

end Alike

theorem typeAnnotations_eq_frame? (file : FileContext) (trail : Trail) :
    typeAnnotations file trail = (frame? trail).elim (.ok []) fun type =>
      if type.node.kind.isTypeDeclaration then type.annotations file else .ok [] := by
  induction trail with
  | nil => rfl
  | cons step above ih =>
    obtain ⟨position, node⟩ := step
    rw [typeAnnotations, frame?]
    split
    next type => simp [type, Site.annotations]
    next unnamed =>
      split
      next body => cases frame? above <;> simp [unnamed]
      next => exact ih

end Trail

theorem exists_of_forall₂ {First Second : Type} {Related : First -> Second -> Prop} {firsts : List First}
    {seconds : List Second} (related : List.Forall₂ Related firsts seconds) :
    ∀ first ∈ firsts, ∃ second ∈ seconds, Related first second := by
  induction related with
  | nil => simp
  | cons here rest ih =>
    rw [List.forall_mem_cons]
    refine ⟨⟨_, List.mem_cons_self, here⟩, ?_⟩
    intro first member
    obtain ⟨second, present, same⟩ := ih first member
    exact ⟨second, List.mem_cons_of_mem _ present, same⟩

theorem forall₂_zipIdx {First Second : Type} {Related : First -> Second -> Prop} {firsts : List First}
    {seconds : List Second} (related : List.Forall₂ Related firsts seconds) (start : Nat) :
    List.Forall₂ (fun first second => Related first.1 second.1 ∧ first.2 = second.2) (firsts.zipIdx start)
      (seconds.zipIdx start) := by
  induction related generalizing start with
  | nil => exact .nil
  | cons here rest ih => exact .cons ⟨here, rfl⟩ (ih (start + 1))

theorem Declarator.value?_eq (declarator : Declarator) (constants : Constants) :
    declarator.value? constants =
      ((declarator.node.child? .value).map (constants.value? (declarator.owner :: declarator.outer))).elim (.ok none)
        fun value => value.map fun found => found.bind Value.string? := by
  rw [value?]
  cases declarator.node.child? .value <;> rfl

structure Declarator.Alike (first second : Declarator) : Prop where
  index : first.index = second.index
  owner : first.owner = second.owner
  outer : first.outer = second.outer
  name : first.name = second.name
  value : ∀ constants, first.value? constants = second.value? constants

namespace Site

def Alike (site other : Site) : Prop :=
  site.trail.Alike other.trail

namespace Alike

variable {site other : Site}

theorem here (alike : Alike site other) : site.node.Alike (Trail.kind? site.above) other.node := by
  cases alike with
  | cons here outside => exact here

theorem outside (alike : Alike site other) : site.above.Alike other.above := by
  cases alike with
  | cons here outside => exact outside

theorem declaresMethod_eq (alike : Alike site other) : site.declaresMethod = other.declaresMethod := by
  rw [declaresMethod, declaresMethod, alike.here.kind_eq, alike.outside.frame?_isSome_eq]

theorem declaresField_eq (alike : Alike site other) : site.declaresField = other.declaresField := by
  rw [declaresField, declaresField, alike.here.kind_eq, alike.outside.isField_eq]

theorem annotations_eq (alike : Alike site other) (file : FileContext)
    (plain : site.node.kind.isAnonymousBody (Trail.kind? site.above) = false) :
    site.annotations file = other.annotations file := by
  rw [annotations, annotations, ← alike.outside.owners_eq]
  exact alike.here.ofDeclaration_eq plain file.constants _

theorem declarators (alike : Alike site other) (field : site.node.kind.isField = true) :
    List.Forall₂ (fun first second => first.field = site ∧ second.field = other ∧ first.Alike second) site.declarators
      other.declarators := by
  have plain := Node.plain_of_kind (Trail.kind? site.above) Kind.isField rfl field
  rw [Site.declarators, Site.declarators, ← alike.outside.holders_eq, ← alike.here.kind_eq,
    ← alike.here.isFinal_eq plain]
  cases Trail.holders site.above with
  | nil => exact .nil
  | cons owner outer =>
    dsimp only
    split
    next constant =>
      rw [List.forall₂_map_left_iff, List.forall₂_map_right_iff]
      refine (forall₂_zipIdx (alike.here.childrenAt plain .declarator) 0).imp ?_
      rintro ⟨first, index⟩ ⟨second, place⟩ ⟨same, numbered⟩
      have under : first.kind.isAnonymousBody (some site.node.kind) = false := by
        apply Node.plain_below
        cases kind : site.node.kind <;> simp_all [Kind.isField, Kind.ownsAnonymousBody]
      refine ⟨rfl, rfl, numbered, rfl, rfl, same.textAt_eq under .name, ?_⟩
      intro constants
      have value := same.value?_child_eq under constants (owner :: outer) .value
      rw [Declarator.value?_eq, Declarator.value?_eq, value]
    next => exact .nil

end Alike

end Site

end RouteAtlas
