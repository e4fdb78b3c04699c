import Mathlib.Data.List.Forall2
import RouteAtlas.Proofs.ErrorSearch
import RouteAtlas.Proofs.MethodWalk
import RouteAtlas.Proofs.Sketch
import RouteAtlas.Reading.File

set_option autoImplicit false

namespace RouteAtlas

namespace Node

structure IsRemark (node : Node) : Prop where
  kind : node.kind = .lineComment ∨ node.kind = .blockComment
  field : node.field = none
  missing : node.missing = false
  children : node.children = []

/-- Nodes, and the same nodes after comments have been put between them and between the nodes below. -/
inductive Inserted : List Node -> List Node -> Prop
  | nil : Inserted [] []
  | keep (node : Node) {children rest more : List Node} (below : Inserted node.children children)
      (later : Inserted rest more) : Inserted (node :: rest) ({ node with children := children } :: more)
  | insert {remark : Node} {rest more : List Node} (comment : remark.IsRemark) (later : Inserted rest more) :
      Inserted rest (remark :: more)

def Commented (plain commented : Node) : Prop :=
  ∃ children, Inserted plain.children children ∧ commented = { plain with children := children }

theorem IsRemark.isComment {node : Node} (remark : node.IsRemark) : node.isComment = true := by
  rw [Node.isComment]
  rcases remark.kind with same | same <;> rw [same] <;> rfl

theorem IsRemark.nodes {node : Node} (remark : node.IsRemark) : node.nodes = [node] := by
  rw [nodes_eq, remark.children]
  rfl

theorem IsRemark.isBroken {node : Node} (remark : node.IsRemark) : node.isBroken = false := by
  rw [Node.isBroken, remark.missing]
  rcases remark.kind with same | same <;> rw [same] <;> rfl

structure Overlooks (test : Node -> Bool) : Prop where
  remark : ∀ node : Node, node.IsRemark -> test node = false
  inside : ∀ (node : Node) (children : List Node), test { node with children := children } = test node

theorem overlooks_field (field : Field) : Overlooks fun child => child.field = some field where
  remark := fun node remark => by simp [remark.field]
  inside := fun _ _ => rfl

theorem overlooks_kind (wanted : Kind -> Bool) (line : wanted .lineComment = false)
    (block : wanted .blockComment = false) : Overlooks fun child => wanted child.kind where
  remark := fun node remark => by rcases remark.kind with same | same <;> simp [same, line, block]
  inside := fun _ _ => rfl

theorem overlooks_comments : Overlooks fun child => child.named && !child.isComment where
  remark := fun node remark => by simp [remark.isComment]
  inside := fun _ _ => rfl

theorem Overlooks.and {test : Node -> Bool} (overlooks : Overlooks test) (other : Node -> Bool)
    (inside : ∀ (node : Node) (children : List Node), other { node with children := children } = other node) :
    Overlooks fun child => test child && other child where
  remark := fun node remark => by simp [overlooks.remark node remark]
  inside := fun node children => by simp only [inside, overlooks.inside]

namespace Inserted

variable {plain commented : List Node} {test : Node -> Bool}

theorem filter (inserted : Inserted plain commented) (overlooks : Overlooks test) :
    List.Forall₂ Commented (plain.filter test) (commented.filter test) := by
  induction inserted with
  | nil => exact .nil
  | @keep node children rest more below later _ others =>
    have same := overlooks.inside node children
    cases passes : test node with
    | true =>
      rw [List.filter_cons_of_pos passes, List.filter_cons_of_pos (same.trans passes)]
      exact .cons ⟨children, below, rfl⟩ others
    | false =>
      rw [List.filter_cons_of_neg (by simp [passes]), List.filter_cons_of_neg (by simp [same, passes])]
      exact others
  | insert comment later others =>
    rw [List.filter_cons_of_neg (by simp [overlooks.remark _ comment])]
    exact others

theorem head?_picked {first second : List Node} (all : List.Forall₂ Commented first second) :
    Option.Rel Commented first.head? second.head? := by
  cases all with
  | nil => exact .none
  | cons same others => exact .some same

theorem find? (inserted : Inserted plain commented) (overlooks : Overlooks test) :
    Option.Rel Commented (plain.find? test) (commented.find? test) := by
  rw [← List.head?_filter, ← List.head?_filter]
  exact head?_picked (inserted.filter overlooks)

theorem any (inserted : Inserted plain commented) (overlooks : Overlooks test) :
    commented.any test = plain.any test := by
  have picked := inserted.find? overlooks
  rw [← List.isSome_find?, ← List.isSome_find?]
  generalize plain.find? test = first at picked
  generalize commented.find? test = second at picked
  cases picked <;> rfl

end Inserted

section Picked

variable {Result State : Type}

theorem elim_eq {first second : Option Node} (picked : Option.Rel Commented first second) (absent : Result)
    (use : Node -> Result) (same : ∀ plain commented, Commented plain commented -> use commented = use plain) :
    second.elim absent use = first.elim absent use := by
  cases picked with
  | none => rfl
  | some here => exact same _ _ here

theorem foldlM_eq {first second : List Node} (all : List.Forall₂ Commented first second)
    (step : State -> Node -> Except LiteralError State)
    (same : ∀ plain commented, Commented plain commented -> ∀ state, step state commented = step state plain)
    (state : State) : second.foldlM step state = first.foldlM step state := by
  induction all generalizing state with
  | nil => rfl
  | cons here others ih =>
    rw [List.foldlM_cons, List.foldlM_cons, same _ _ here]
    exact congrArg (step state _ >>= ·) (funext ih)

theorem mapM_eq {first second : List Node} (all : List.Forall₂ Commented first second)
    (use : Node -> Except LiteralError Result)
    (same : ∀ plain commented, Commented plain commented -> use commented = use plain) :
    second.mapM use = first.mapM use := by
  induction all with
  | nil => rfl
  | cons here others ih => rw [List.mapM_cons, List.mapM_cons, same _ _ here, ih]

theorem findSome?_eq {first second : List Node} (all : List.Forall₂ Commented first second)
    (use : Node -> Option Result) (same : ∀ plain commented, Commented plain commented -> use commented = use plain) :
    second.findSome? use = first.findSome? use := by
  induction all with
  | nil => rfl
  | cons here others ih => rw [List.findSome?_cons, List.findSome?_cons, same _ _ here, ih]

end Picked

namespace Commented

variable {plain commented : Node} (inserted : Commented plain commented)
include inserted

theorem kind_eq : commented.kind = plain.kind := by
  obtain ⟨children, -, rfl⟩ := inserted
  rfl

theorem text_eq : commented.text = plain.text := by
  obtain ⟨children, -, rfl⟩ := inserted
  rfl

theorem line_eq : commented.line = plain.line := by
  obtain ⟨children, -, rfl⟩ := inserted
  rfl

theorem children : Inserted plain.children commented.children := by
  obtain ⟨children, below, rfl⟩ := inserted
  exact below

theorem child? (field : Field) : Option.Rel Commented (plain.child? field) (commented.child? field) :=
  inserted.children.find? (overlooks_field field)

theorem textAt (field : Field) : commented.textAt field = plain.textAt field :=
  elim_eq (inserted.child? field) _ _ fun _ _ => text_eq

theorem childrenAt (field : Field) : List.Forall₂ Commented (plain.childrenAt field) (commented.childrenAt field) :=
  inserted.children.filter (overlooks_field field)

theorem modifiers? : Option.Rel Commented plain.modifiers? commented.modifiers? :=
  inserted.children.find? (overlooks_kind (fun kind => kind = .modifiers) rfl rfl)

theorem isFinal : commented.isFinal = plain.isFinal := by
  have picked := inserted.modifiers?
  rw [Node.isFinal, Node.isFinal]
  generalize plain.modifiers? = first at picked
  generalize commented.modifiers? = second at picked
  cases picked with
  | none => rfl
  | some here => exact here.children.any (overlooks_kind (fun kind => kind = .finalKeyword) rfl rfl)

theorem namedChildren_filter {test : Node -> Bool} (overlooks : Overlooks test) :
    List.Forall₂ Commented (plain.namedChildren.filter test) (commented.namedChildren.filter test) := by
  simp only [Node.namedChildren, List.filter_filter]
  exact inserted.children.filter (overlooks.and Node.named fun _ _ => rfl)

theorem namedChildren_find? {test : Node -> Bool} (overlooks : Overlooks test) :
    Option.Rel Commented (plain.namedChildren.find? test) (commented.namedChildren.find? test) := by
  rw [← List.head?_filter, ← List.head?_filter]
  exact Inserted.head?_picked (inserted.namedChildren_filter overlooks)

theorem annotationNodes : List.Forall₂ Commented plain.annotationNodes commented.annotationNodes := by
  have picked := inserted.modifiers?
  rw [Node.annotationNodes, Node.annotationNodes]
  generalize plain.modifiers? = first at picked
  generalize commented.modifiers? = second at picked
  cases picked with
  | none => exact .nil
  | some here => exact here.namedChildren_filter (overlooks_kind Kind.isAnnotation rfl rfl)

end Commented

namespace Inserted

variable {plain commented : List Node}

theorem brokenLine? (inserted : Inserted plain commented) :
    ((nodesAll commented).find? Node.isBroken).map line = ((nodesAll plain).find? Node.isBroken).map line := by
  induction inserted with
  | nil => rfl
  | @keep node children rest more below later inside others =>
    rw [nodesAll, nodesAll, List.find?_append, List.find?_append, Option.map_or, Option.map_or, others,
      brokenLine?_nodes, brokenLine?_nodes, inside]
    rfl
  | insert comment later others =>
    rw [nodesAll, comment.nodes, List.singleton_append, List.find?_cons_of_neg (by simp [comment.isBroken]), others]

end Inserted

theorem Commented.firstErrorLine? {plain commented : Node} (inserted : Commented plain commented) :
    commented.firstErrorLine? = plain.firstErrorLine? := by
  obtain ⟨children, below, rfl⟩ := inserted
  have alone : Inserted [plain] [{ plain with children := children }] := .keep plain below .nil
  rw [Node.firstErrorLine?, Node.firstErrorLine?, searchError?_eq, searchError?_eq]
  exact alone.brokenLine?

end Node

namespace Constants

open Node

variable (constants : Constants) (owners : List Text) {plain commented : List Node}

theorem value?_inside (node : Node) (children : List Node) (below : Inserted node.children children)
    (only : constants.onlyValue? owners children = constants.onlyValue? owners node.children)
    (operand : ∀ field, constants.operandValue? owners field children =
      constants.operandValue? owners field node.children) :
    constants.value? owners { node with children := children } = constants.value? owners node := by
  obtain ⟨kind, text, line, named, field, missing, inner⟩ := node
  dsimp only at below only operand ⊢
  cases kind with
  | parenthesizedExpression =>
    have count := (below.filter overlooks_comments).length_eq
    rw [value?, value?, only, ← count]
  | binaryExpression =>
    have operator := elim_eq (below.find? (overlooks_field .operator)) [] Node.text fun _ _ => Commented.text_eq
    have left := below.any (overlooks_field .left)
    have right := below.any (overlooks_field .right)
    simp only [value?, operand, operator, left, right]
  | _ => rw [value?, value?] <;> simp

theorem values_inserted (inserted : Inserted plain commented) :
    constants.onlyValue? owners commented = constants.onlyValue? owners plain ∧
    ∀ field, constants.operandValue? owners field commented = constants.operandValue? owners field plain := by
  induction inserted with
  | nil => exact ⟨rfl, fun _ => rfl⟩
  | keep node below later inside others =>
    have same := value?_inside constants owners node _ below inside.1 inside.2
    refine ⟨?_, fun field => ?_⟩
    · rw [onlyValue?, onlyValue?, same, others.1]
      rfl
    · rw [operandValue?, operandValue?, same, others.2 field]
  | insert comment later others =>
    refine ⟨?_, fun field => ?_⟩
    · rw [onlyValue?, comment.isComment, others.1]
      simp
    · rw [operandValue?, comment.field, others.2 field]
      simp

theorem value?_commented {plain commented : Node} (inserted : Commented plain commented) :
    constants.value? owners commented = constants.value? owners plain := by
  obtain ⟨children, below, rfl⟩ := inserted
  have inside := constants.values_inserted owners below
  exact constants.value?_inside owners plain children below inside.1 inside.2

end Constants

namespace AnnotationUse

open Node

variable (constants : Constants) (owners : List Text)

theorem elementValues_remark (remark : Node) (comment : remark.IsRemark) :
    elementValues constants owners remark = .ok [] := by
  obtain ⟨kind, text, line, named, field, missing, children⟩ := remark
  obtain ⟨kinds, -, -, -⟩ := comment
  rcases kinds with rfl | rfl <;> rfl

theorem elementValues_inside (node : Node) (children : List Node) (below : Inserted node.children children)
    (array : arrayValues constants owners children = arrayValues constants owners node.children) :
    elementValues constants owners { node with children := children } = elementValues constants owners node := by
  have value := constants.value?_commented owners ⟨children, below, rfl⟩
  obtain ⟨kind, text, line, named, field, missing, inner⟩ := node
  simp only [elementValues, array, value]

theorem arrayValues_inserted {plain commented : List Node} (inserted : Inserted plain commented) :
    arrayValues constants owners commented = arrayValues constants owners plain := by
  induction inserted with
  | nil => rfl
  | keep node below later inside others =>
    rw [arrayValues, arrayValues, elementValues_inside constants owners node _ below inside, others]
  | insert comment later others =>
    rw [arrayValues, elementValues_remark constants owners _ comment, ite_self, others]
    cases arrayValues constants owners _ <;> rfl

theorem elementValues_commented {plain commented : Node} (inserted : Commented plain commented) :
    elementValues constants owners commented = elementValues constants owners plain := by
  obtain ⟨children, below, rfl⟩ := inserted
  exact elementValues_inside constants owners plain children below (arrayValues_inserted constants owners below)

theorem argumentParts_commented {plain commented : Node} (inserted : Commented plain commented) :
    (argumentParts commented).1 = (argumentParts plain).1 ∧
    Option.Rel Commented (argumentParts plain).2 (argumentParts commented).2 := by
  rw [argumentParts, argumentParts, inserted.kind_eq]
  split
  · exact ⟨inserted.textAt .key, inserted.child? .value⟩
  · exact ⟨rfl, .some inserted⟩

theorem addArgument_commented {plain commented : Node} (inserted : Commented plain commented)
    (attributes : List (Text × List Value)) :
    addArgument constants owners attributes commented = addArgument constants owners attributes plain := by
  obtain ⟨key, value⟩ := argumentParts_commented inserted
  have values := elim_eq value (.ok []) (elementValues constants owners) fun _ _ =>
    elementValues_commented constants owners
  have comment : commented.isComment = plain.isComment := congrArg Kind.isComment inserted.kind_eq
  simp only [addArgument, comment, key, values]

theorem addArguments_inserted {plain commented : List Node} (inserted : Inserted plain commented)
    (attributes : List (Text × List Value)) :
    (commented.filter Node.named).foldlM (addArgument constants owners) attributes =
      (plain.filter Node.named).foldlM (addArgument constants owners) attributes := by
  induction inserted generalizing attributes with
  | nil => rfl
  | @keep node children rest more below later _ others =>
    let wider : Node := { node with children := children }
    have same : addArgument constants owners attributes wider = addArgument constants owners attributes node :=
      addArgument_commented constants owners ⟨children, below, rfl⟩ attributes
    by_cases named : node.named = true
    next =>
      rw [List.filter_cons_of_pos (a := wider) named, List.filter_cons_of_pos named, List.foldlM_cons, List.foldlM_cons,
        same]
      exact congrArg (addArgument constants owners attributes node >>= ·) (funext others)
    next =>
      rw [List.filter_cons_of_neg (a := wider) named, List.filter_cons_of_neg named]
      exact others attributes
  | @insert remark rest more comment later others =>
    have passed : addArgument constants owners attributes remark = .ok attributes := by
      rw [addArgument, if_pos comment.isComment]
    by_cases named : remark.named = true
    next =>
      rw [List.filter_cons_of_pos named, List.foldlM_cons, passed]
      exact others attributes
    next =>
      rw [List.filter_cons_of_neg named]
      exact others attributes

theorem ofNode_commented {plain commented : Node} (inserted : Commented plain commented) :
    ofNode constants owners commented = ofNode constants owners plain := by
  have arguments := inserted.child? .arguments
  rw [ofNode, ofNode, inserted.textAt]
  generalize plain.child? .arguments = first at arguments
  generalize commented.child? .arguments = second at arguments
  cases arguments with
  | none => rfl
  | some here => simp only [Option.elim_some, namedChildren, addArguments_inserted constants owners here.children]

theorem ofDeclaration_commented {plain commented : Node} (inserted : Commented plain commented) :
    ofDeclaration constants owners commented = ofDeclaration constants owners plain :=
  mapM_eq inserted.annotationNodes _ fun _ _ => ofNode_commented constants owners

end AnnotationUse

namespace Constants

open Node

theorem recordDeclarator_commented (owner : Text) (outer : List Text) {plain commented : Node}
    (inserted : Commented plain commented) (constants : Constants) :
    recordDeclarator owner outer constants commented = recordDeclarator owner outer constants plain := by
  have initializer := inserted.child? .value
  rw [recordDeclarator, recordDeclarator, inserted.textAt]
  generalize plain.child? .value = first at initializer
  generalize commented.child? .value = second at initializer
  cases initializer with
  | none => rfl
  | some here => simp only [constants.value?_commented _ here]

theorem recordField_commented (owners : List Text) (constants : Constants) {plain commented : Node}
    (inserted : Commented plain commented) :
    recordField owners constants commented = recordField owners constants plain := by
  cases owners with
  | nil => rfl
  | cons owner outer =>
    have recorded := foldlM_eq (inserted.childrenAt .declarator) (recordDeclarator owner outer)
      (fun _ _ => recordDeclarator_commented owner outer) (constants.declareType owner)
    simp only [recordField, inserted.kind_eq, inserted.isFinal, recorded]

theorem ownersInside_commented (parent : Option Kind) (owners : List Text) {plain commented : Node}
    (inserted : Commented plain commented) :
    ownersInside parent owners commented = ownersInside parent owners plain := by
  rw [ownersInside, ownersInside, inserted.kind_eq, inserted.textAt]

theorem collect_inside (parent : Option Kind) (owners : List Text) (constants : Constants) (node : Node)
    (children : List Node) (below : Inserted node.children children)
    (all : ∀ kind owners, collectAll kind owners constants children = collectAll kind owners constants node.children) :
    collect parent owners constants { node with children := children } = collect parent owners constants node := by
  have inserted : Commented node { node with children := children } := ⟨children, below, rfl⟩
  have field := recordField_commented owners constants inserted
  have inner := ownersInside_commented parent owners inserted
  obtain ⟨kind, text, line, named, place, missing, plain⟩ := node
  simp only [collect, field, inner, all]

theorem collect_remark (parent : Option Kind) (owners : List Text) (constants : Constants) (remark : Node)
    (comment : remark.IsRemark) : collect parent owners constants remark = .ok constants := by
  obtain ⟨kind, text, line, named, field, missing, children⟩ := remark
  obtain ⟨kinds, -, -, rfl⟩ := comment
  rcases kinds with rfl | rfl <;> rfl

theorem collectAll_inserted {plain commented : List Node} (inserted : Inserted plain commented) (parent : Kind)
    (owners : List Text) (constants : Constants) :
    collectAll parent owners constants commented = collectAll parent owners constants plain := by
  induction inserted generalizing parent owners constants with
  | nil => rfl
  | keep node below later inside others =>
    have here := collect_inside (some parent) owners constants node _ below fun kind owners =>
      inside kind owners constants
    simp only [collectAll, here, others]
  | insert comment later others =>
    rw [collectAll, collect_remark _ _ _ _ comment, ite_self, ← others]
    rfl

theorem ofRoot_commented {plain commented : Node} (inserted : Commented plain commented) :
    ofRoot commented = ofRoot plain := by
  obtain ⟨children, below, rfl⟩ := inserted
  exact collect_inside none [] empty plain children below fun kind owners =>
    collectAll_inserted below kind owners empty

end Constants

namespace Method

open Node

variable (file : FileContext)

theorem enterNamed_commented (isLocal : Bool) (place : Place) {plain commented : Node}
    (inserted : Commented plain commented) :
    place.enterNamed file isLocal commented = place.enterNamed file isLocal plain := by
  simp only [Place.enterNamed, inserted.textAt, AnnotationUse.ofDeclaration_commented _ _ inserted]

theorem ofNode_commented (frame : TypeFrame) {plain commented : Node} (inserted : Commented plain commented) :
    ofNode file frame commented = ofNode file frame plain := by
  simp only [ofNode, inserted.textAt, inserted.line_eq, AnnotationUse.ofDeclaration_commented _ _ inserted]

theorem list_inside (parent : Option Kind) (place : Place) (node : Node) (children : List Node)
    (below : Inserted node.children children)
    (all : ∀ kind place, listAll file kind place children = listAll file kind place node.children) :
    list file parent place { node with children := children } = list file parent place node := by
  have inserted : Commented node { node with children := children } := ⟨children, below, rfl⟩
  have entered := enterNamed_commented file (Kind.holdsLocals parent) place inserted
  have own := fun frame => ofNode_commented file frame inserted
  obtain ⟨kind, text, line, named, field, missing, plain⟩ := node
  simp only [list, entered, own, all]

theorem list_remark (parent : Option Kind) (place : Place) (remark : Node) (comment : remark.IsRemark) :
    list file parent place remark = .ok ([], place.counts) := by
  have type : remark.kind.isTypeDeclaration = false := by rcases comment.kind with same | same <;> rw [same] <;> rfl
  have body : remark.kind.isAnonymousBody parent = false := by
    rcases comment.kind with same | same <;> rw [same] <;> rfl
  have method : remark.kind ≠ .methodDeclaration := by rcases comment.kind with same | same <;> rw [same] <;> decide
  have nothing : listAll file remark.kind place remark.children = .ok ([], place.counts) := by
    rw [comment.children, listAll]
  cases standing : place.frame with
  | none => rw [list_outside file parent place remark type standing, nothing]
  | some outer => rw [list_plain file parent place remark outer type standing body method, nothing]

theorem listAll_inserted {plain commented : List Node} (inserted : Inserted plain commented) (parent : Kind)
    (place : Place) : listAll file parent place commented = listAll file parent place plain := by
  induction inserted generalizing parent place with
  | nil => rfl
  | keep node below later inside others =>
    have here := list_inside file (some parent) place node _ below inside
    simp only [listAll, here, others]
  | insert comment later others =>
    rw [listAll, list_remark file _ _ _ comment, ite_self, ← others]
    change (listAll file parent place _).bind (fun found => .ok ([] ++ found.1, found.2)) = _
    cases listAll file parent place _ <;> rfl

theorem walk_commented {plain commented : Node} (inserted : Commented plain commented) :
    walk file commented = walk file plain := by
  obtain ⟨children, below, rfl⟩ := inserted
  rw [walk_eq_list, walk_eq_list, list_inside file none Place.top plain children below (listAll_inserted file below)]

end Method

namespace FileReading

open Node

theorem packageIn?_commented {plain commented : Node} (inserted : Commented plain commented) :
    packageIn? commented = packageIn? plain := by
  have name := inserted.namedChildren_find?
    (overlooks_kind (fun kind => kind = .scopedIdentifier || kind = .identifier) rfl rfl)
  rw [packageIn?, packageIn?]
  generalize plain.namedChildren.find? _ = first at name ⊢
  generalize commented.namedChildren.find? _ = second at name ⊢
  cases name with
  | none => rfl
  | some here => exact congrArg (fun text => some (Text.compact text)) here.text_eq

theorem packageOf_commented {plain commented : Node} (inserted : Commented plain commented) :
    packageOf commented = packageOf plain := by
  have declarations := inserted.namedChildren_filter (overlooks_kind (fun kind => kind = .packageDeclaration) rfl rfl)
  exact congrArg (Option.getD · []) (findSome?_eq declarations packageIn? fun _ _ => packageIn?_commented)

end FileReading

/-- A file says the same about its routes, and has the same first error, however many comments stand in it. -/
theorem reading_ignores_comments (plain commented : Node) (inserted : plain.Commented commented) :
    commented.firstErrorLine? = plain.firstErrorLine? ∧
    FileReading.packageOf commented = FileReading.packageOf plain ∧
    Constants.ofRoot commented = Constants.ofRoot plain ∧
    FileReading.ofRoot commented = FileReading.ofRoot plain := by
  have package := FileReading.packageOf_commented inserted
  have constants := Constants.ofRoot_commented inserted
  refine ⟨inserted.firstErrorLine?, package, constants, ?_⟩
  simp only [FileReading.ofRoot, package, constants, Method.walk_commented _ inserted]

namespace Remarked

open Node Sketch

def initializer (remarks : List Node) : Node :=
  branch .parenthesizedExpression (some .value) (remarks ++ quoted none ['/', 'a'] :: remarks)

def arguments (remarks : List Node) : Node :=
  branch (.other "annotation_argument_list") (some .arguments) (remarks ++ bare none ['P'] :: remarks)

def mapping (remarks : List Node) : Node :=
  branch .annotationWithArguments none [bare (some .name) ['M'], arguments remarks]

def routed (remarks : List Node) : Node :=
  branch .methodDeclaration none [branch .modifiers none (remarks ++ [mapping remarks]), bare (some .name) ['m']]

def declaration (remarks : List Node) : Node :=
  branch .fieldDeclaration none
    [branch .modifiers none (remarks ++ [leaf .finalKeyword none []]), declarator ['P'] (initializer remarks)]

def file (remarks : List Node) : Node :=
  Sketch.file (remarks ++ [classOf ['A'] (declaration remarks :: remarks ++ [routed remarks])])

variable {remarks : List Node} (comments : ∀ remark ∈ remarks, remark.IsRemark)
include comments

theorem before {plain commented : List Node} (inserted : Inserted plain commented) :
    Inserted plain (remarks ++ commented) := by
  induction remarks with
  | nil => exact inserted
  | cons remark others ih =>
    rw [List.forall_mem_cons] at comments
    exact .insert comments.1 (ih comments.2)

theorem around (node : Node) {children : List Node} (below : Inserted node.children children) :
    Inserted [node] (remarks ++ { node with children := children } :: remarks) := by
  have after : Inserted [] (remarks ++ []) := before comments .nil
  rw [List.append_nil] at after
  exact before comments (.keep node below after)

theorem commented_file : (file []).Commented (file remarks) := by
  have name (field : Option Field) (text : Text) {rest more : List Node} (later : Inserted rest more) :
      Inserted (bare field text :: rest) (bare field text :: more) := .keep _ .nil later
  have string : Inserted [initializer []] [initializer remarks] :=
    .keep (initializer []) (around comments (quoted none ['/', 'a']) .nil) .nil
  have modifiers : Inserted [leaf .finalKeyword none []] (remarks ++ [leaf .finalKeyword none []]) :=
    before comments (.keep _ .nil .nil)
  have field {rest more : List Node} (later : Inserted rest more) :
      Inserted (declaration [] :: rest) (declaration remarks :: more) :=
    .keep (declaration []) (.keep _ modifiers (.keep _ (name _ _ string) .nil)) later
  have arguments : Inserted [arguments []] [arguments remarks] :=
    .keep (arguments []) (around comments (bare none ['P']) .nil) .nil
  have mapping : Inserted [mapping []] (remarks ++ [mapping remarks]) :=
    before comments (.keep (mapping []) (name _ _ arguments) .nil)
  have method : Inserted [routed []] [routed remarks] :=
    .keep (routed []) (.keep _ mapping (name _ _ .nil)) .nil
  have members : Inserted [declaration [], routed []] (declaration remarks :: remarks ++ [routed remarks]) :=
    field (before comments method)
  exact ⟨_, before comments (.keep (classOf ['A'] _) (name _ _ (.keep _ members .nil)) .nil), rfl⟩

end Remarked

theorem remarked_class_read_alike :
    let remark := Sketch.leaf .blockComment none "/* */"
    (Remarked.file []).Commented (Remarked.file [remark]) ∧
    FileReading.ofRoot (Remarked.file [remark]) = .ok
      { package := []
        constants := { ofTypes := [(['A'], [(['P'], ['/', 'a'])])], ofFile := [(['P'], some ['/', 'a'])] }
        methods :=
          [{ name := ['m']
             type := ['A']
             annotations := [{ name := ['M'], attributes := [(AnnotationUse.defaultKey, [.string ['/', 'a']])] }]
             typeAnnotations := []
             line := 1 }] } := by
  intro remark
  have comment : remark.IsRemark := ⟨.inr rfl, rfl, rfl, rfl⟩
  have inserted := Remarked.commented_file (List.forall_mem_singleton.mpr comment)
  obtain ⟨-, -, -, alike⟩ := reading_ignores_comments (Remarked.file []) (Remarked.file [remark]) inserted
  refine ⟨inserted, alike.trans ?_⟩
  -- The loop over the stack does not unfold by itself; the recursion that it equals does.
  simp only [FileReading.ofRoot, Method.walk_eq_list]
  decide +kernel

end RouteAtlas
