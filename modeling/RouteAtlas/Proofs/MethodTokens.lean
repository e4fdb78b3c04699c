import RouteAtlas.Proofs.ReadLiterals
import RouteAtlas.Proofs.References
import RouteAtlas.Proofs.UnreadFields
import RouteAtlas.Routing.Scope

set_option autoImplicit false

namespace RouteAtlas

open Trail

namespace AnnotationUse

theorem ofDeclaration_map {Item : Type} {constants : Constants} {owners : List Text} {declaration : Node}
    {uses : List AnnotationUse} (read : ofDeclaration constants owners declaration = .ok uses)
    {ofWritten : Node -> Item} {ofUse : AnnotationUse -> Item}
    (each : ∀ node use, ofNode constants owners node = .ok use -> ofUse use = ofWritten node) :
    uses.map ofUse = declaration.annotationNodes.map ofWritten := by
  rw [ofDeclaration] at read
  generalize declaration.annotationNodes = annotations at read
  induction annotations generalizing uses with
  | nil =>
    obtain rfl := Except.ok.inj read
    rfl
  | cons written rest ih =>
    rw [List.mapM_cons] at read
    obtain ⟨use, own, remaining⟩ := bind_eq_ok.mp read
    obtain ⟨others, later, joined⟩ := bind_eq_ok.mp remaining
    obtain rfl : use :: others = uses := Except.ok.inj joined
    rw [List.map_cons, List.map_cons, each written use own, ih later]

end AnnotationUse

namespace Operand

theorem known_dotted_iff (recorded : List Recording) (owners : List Text) (source : Text) (path : List Text)
    (type name : Text) (parts : Text.split CodePoint.dot (Text.compact source) = path ++ [type, name]) :
    ((dotted source).recording? recorded owners).isSome = true ↔
      ∃ recording ∈ allOf recorded name, recording.owner = type := by
  rw [recording?, parts, Text.lastTwo_append, Option.bind_some, Option.isSome_iff_ne_none, ne_eq, firstOf_eq_none]
  simp only [not_forall, not_not, mem_allOf, exists_prop, and_assoc]

end Operand

def Node.methodTokens (constants : Constants) (owners : List Text) (element : Node) : List Text :=
  (AnnotationUse.contribution constants owners element).filterMap Value.symbol?

theorem Scope.methods_ofUse {constants : Constants} {owners : List Text} {node : Node} {use : AnnotationUse}
    (read : AnnotationUse.ofNode constants owners node = .ok use) :
    (Scope.ofUse use).methods =
      (node.elementsOf Scope.methodKey).flatMap (Node.methodTokens constants owners) := by
  rw [Scope.ofUse, AnnotationUse.symbols, AnnotationUse.valuesOf_ofNode constants owners read, List.filterMap_flatMap]
  rfl

theorem Agrees.methodTokens {constants : Constants} {recorded : List Recording} (agrees : Agrees constants recorded)
    (owners : List Text) (element : Node) (reference : Operand) (written : element.reference? = some reference) :
    element.methodTokens constants owners =
      if (reference.recording? recorded owners).isSome then [] else [reference.label] := by
  rw [Node.methodTokens, AnnotationUse.contribution, agrees.value?_reference owners element reference written]
  cases reference.recording? recorded owners <;> rfl

/-- The methods of an annotation are the names among the elements of its attribute, in their order. A name that means a
string constant is left out: a bare one if a type around has a constant of this name or exactly one constant of the file
has it, and a qualified one if a type of its last qualifier has a constant of its last name. -/
theorem method_kept_unless_known (root : Node) (history : History) (read : History.ofRoot root = .ok history)
    (site : Site) :
    let file : FileContext := { package := FileReading.packageOf root, constants := history.constants }
    let around := owners site.above
    let tokens := Node.methodTokens history.constants around
    let known := fun reference : Operand => (reference.recording? history.recorded around).isSome = true
    Constants.ofRoot root = .ok history.constants ∧
    (Succeeds (site.annotations file) ↔ Whole site.node.annotationLiterals) ∧
    (∀ uses, site.annotations file = .ok uses ->
      uses.map (fun use => (Scope.ofUse use).methods) =
        site.node.annotationNodes.map fun written => (written.elementsOf Scope.methodKey).flatMap tokens) ∧
    (∀ element reference, element.reference? = some reference ->
      (tokens element = [reference.label] ↔ ¬ known reference) ∧ (tokens element = [] ↔ known reference)) ∧
    (∀ name, known (.bare name) ↔
      (∃ recording ∈ allOf history.recorded name, ∃ type ∈ typesAround site.above,
        type.simpleName = recording.owner) ∨ (allOf history.recorded name).length = 1) ∧
    ∀ source path type name, Text.split CodePoint.dot (Text.compact source) = path ++ [type, name] ->
      (Operand.dotted source).label = name ∧
      (known (.dotted source) ↔ ∃ recording ∈ allOf history.recorded name, recording.owner = type) := by
  intro file around tokens known
  have agrees := Agrees.of_reached (History.reached_of_ofRoot read)
  refine ⟨constants_of_history read, site.succeeds_annotations file, ?_, ?_, ?_, ?_⟩
  · intro uses given
    exact AnnotationUse.ofDeclaration_map given fun node use own => Scope.methods_ofUse own
  · intro element reference written
    have contributed : tokens element = _ := agrees.methodTokens around element reference written
    rw [contributed]
    simp only [known]
    split <;> simp [*]
  · intro name
    refine (source?_isSome_iff history.recorded around name).trans (or_congr_left ?_)
    simp only [around, owners_eq, List.mem_map]
  · intro source path type name parts
    exact ⟨by rw [Operand.label, parts, Text.lastTwo_append],
      Operand.known_dotted_iff history.recorded around source path type name parts⟩

section Taken

open Sketch

variable (name : Text) (elements : List Node)

def constantMembers : List Node :=
  [constant name (quoted (some .value) ['g'])]

def handlingMembers : List Node :=
  [routed ['m'] [branch .elementValuePair none
    [bare (some .key) Scope.methodKey, branch .elementValueArray (some .value) elements]]]

def handling : Node :=
  file [classOf ['V'] (constantMembers name), classOf ['C'] (handlingMembers elements)]

def handler : Site :=
  ⟨0, routed ['m'] [branch .elementValuePair none
    [bare (some .key) Scope.methodKey, branch .elementValueArray (some .value) elements]],
    within 1 ['C'] (handlingMembers elements) [(0, handling name elements)]⟩

def handlingRead : History :=
  { constants := { ofTypes := [(['V'], [(name, ['g'])])], ofFile := [(name, some ['g'])] }
    recorded := [{
      declarator := Sketch.declared 0 name (quoted (some .value) ['g'])
        (within 0 ['V'] (constantMembers name) [(0, handling name elements)]) ['V'] []
      value := ['g'] }] }

def getAndPut : List Node :=
  [bare none ['G', 'E', 'T'], leaf .fieldAccess none ['R', '.', 'P', 'U', 'T']]

def justGet : List Node :=
  [bare none ['G', 'E', 'T']]

end Taken

open Sketch

theorem unlike_names_kept :
    let file : FileContext := { package := [], constants := (handlingRead ['R'] getAndPut).constants }
    History.ofRoot (handling ['R'] getAndPut) = .ok (handlingRead ['R'] getAndPut) ∧
    ∃ uses, (handler ['R'] getAndPut).annotations file = .ok uses ∧
      uses.map (fun use => (Scope.ofUse use).methods) = [([['G', 'E', 'T'], ['P', 'U', 'T']] : List Text)] := by
  intro file
  have read : History.ofRoot (handling ['R'] getAndPut) = .ok (handlingRead ['R'] getAndPut) := rfl
  obtain ⟨-, readable, methods, -⟩ := method_kept_unless_known _ _ read (handler ['R'] getAndPut)
  obtain ⟨uses, given⟩ := readable.mpr (by decide +kernel)
  exact ⟨read, uses, given, methods uses given⟩

theorem constant_swallows_method :
    let root := handling ['G', 'E', 'T'] justGet
    let constants := (handlingRead ['G', 'E', 'T'] justGet).constants
    let site := handler ['G', 'E', 'T'] justGet
    Constants.ofRoot root = .ok constants ∧
    site ∈ declared root ∧
    (∀ type ∈ typesAround site.above, ¬ DeclaresField root type ['G', 'E', 'T']) ∧
    (∃ written ∈ site.node.annotationNodes, written.elementsOf Scope.methodKey = justGet) ∧
    ∃ use, site.annotations { package := FileReading.packageOf root, constants := constants } = .ok [use] ∧
      (Scope.ofUse use).methods = [] := by
  intro root constants site
  have listed : (declared root)[0]? = some site := rfl
  refine ⟨rfl, List.mem_of_getElem? listed, ?_, ⟨_, List.mem_cons_self, rfl⟩, ⟨_, rfl, rfl⟩⟩
  have apart : ∀ type ∈ typesAround site.above, type.address ∉ declaringAddresses root ['G', 'E', 'T'] := by
    decide +kernel
  intro type around declares
  exact apart type around declares.address_mem

end RouteAtlas
