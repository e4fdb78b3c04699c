import RouteAtlas.Proofs.ErrorSearch
import RouteAtlas.Proofs.MethodListing
import RouteAtlas.Proofs.MethodTokens
import RouteAtlas.Proofs.NameParts
import RouteAtlas.Proofs.Outlines
import RouteAtlas.Proofs.ScopeChoices
import RouteAtlas.Proofs.Sketch
import RouteAtlas.Reading.File

set_option autoImplicit false

namespace RouteAtlas

namespace Node

theorem self_mem_nodes (node : Node) : node ∈ node.nodes := by
  rw [nodes_eq]
  exact List.mem_cons_self

theorem nodesAll_subset_nodes (node : Node) : nodesAll node.children ⊆ node.nodes := by
  rw [nodes_eq]
  exact List.subset_cons_self _ _

theorem nodes_subset_nodesAll {node : Node} {forest : List Node} (member : node ∈ forest) :
    node.nodes ⊆ nodesAll forest := by
  rw [nodesAll_eq]
  intro inner inside
  exact List.mem_flatMap.mpr ⟨node, member, inside⟩

theorem nodes_subset_of_child {node child : Node} (below : child ∈ node.children) : child.nodes ⊆ node.nodes :=
  List.Subset.trans (nodes_subset_nodesAll below) node.nodesAll_subset_nodes

mutual

theorem nodes_subset {inner : Node} : (node : Node) -> inner ∈ node.nodes -> inner.nodes ⊆ node.nodes
  | ⟨kind, text, line, named, field, missing, children⟩, member => by
    rw [nodes, List.mem_cons] at member
    rcases member with rfl | below
    · exact List.Subset.refl _
    · rw [nodes]
      exact List.Subset.trans (nodesAll_subset children below) (List.subset_cons_self _ _)

theorem nodesAll_subset {inner : Node} : (forest : List Node) -> inner ∈ nodesAll forest ->
    inner.nodes ⊆ nodesAll forest
  | [], member => absurd member List.not_mem_nil
  | node :: rest, member => by
    rw [nodesAll, List.mem_append] at member
    rw [nodesAll]
    rcases member with first | later
    · exact List.Subset.trans (nodes_subset node first) (List.subset_append_left _ _)
    · exact List.Subset.trans (nodesAll_subset rest later) (List.subset_append_right _ _)

end

def labels (node : Node) : List Text :=
  node.nodes.filterMap fun inner => inner.reference?.map Operand.label

theorem mem_labels_iff {node : Node} {label : Text} :
    label ∈ node.labels ↔ ∃ inner ∈ node.nodes, ∃ reference, inner.reference? = some reference ∧
      reference.label = label := by
  simp only [labels, List.mem_filterMap, Option.map_eq_some_iff]

theorem labels_subset {inner node : Node} (below : inner.nodes ⊆ node.nodes) : inner.labels ⊆ node.labels :=
  List.filterMap_subset _ below

theorem child?_mem {node child : Node} {field : Field} (found : node.child? field = some child) :
    child ∈ node.children :=
  List.mem_of_find?_eq_some found

mutual

theorem elements_subset : (node : Node) -> node.elements ⊆ node.nodes
  | ⟨kind, text, line, named, field, missing, children⟩ => by
    rw [elements, nodes]
    split
    · exact List.Subset.trans (elementsAmong_subset children) (List.subset_cons_self _ _)
    · split
      · exact List.nil_subset _
      · exact List.cons_subset_cons _ (List.nil_subset _)

theorem elementsAmong_subset : (forest : List Node) -> elementsAmong forest ⊆ nodesAll forest
  | [] => List.nil_subset _
  | node :: rest => by
    rw [elementsAmong, nodesAll, List.append_subset]
    refine ⟨?_, List.Subset.trans (elementsAmong_subset rest) (List.subset_append_right _ _)⟩
    split
    · exact List.Subset.trans (elements_subset node) (List.subset_append_left _ _)
    · exact List.nil_subset _

end

theorem argumentElements_subset (key : Text) (argument : Node) : argument.argumentElements key ⊆ argument.nodes := by
  have value : ∀ part, (AnnotationUse.argumentParts argument).2 = some part -> part.nodes ⊆ argument.nodes := by
    intro part found
    rw [AnnotationUse.argumentParts] at found
    split at found
    · exact nodes_subset_of_child (child?_mem found)
    · obtain rfl := Option.some.inj found
      exact List.Subset.refl _
  rw [argumentElements]
  split
  · exact List.nil_subset _
  · dsimp only
    split
    · cases found : (AnnotationUse.argumentParts argument).2 with
      | none => exact List.nil_subset _
      | some part => exact List.Subset.trans part.elements_subset (value part found)
    · exact List.nil_subset _

theorem elementsOf_subset (written : Node) (key : Text) : written.elementsOf key ⊆ written.nodes := by
  intro element member
  obtain ⟨argument, given, inside⟩ := List.mem_flatMap.mp member
  cases found : written.child? .arguments with
  | none => simp [found] at given
  | some list =>
    rw [found, Option.elim_some] at given
    apply nodes_subset_of_child (child?_mem found)
    exact nodes_subset_of_child (List.mem_of_mem_filter given) (argument.argumentElements_subset key inside)

theorem annotationNodes_subset (declaration : Node) : declaration.annotationNodes ⊆ declaration.nodes := by
  intro written member
  rw [annotationNodes] at member
  split at member
  · exact absurd member List.not_mem_nil
  · next modifiers found =>
    have below : written ∈ modifiers.children := List.mem_of_mem_filter (List.mem_of_mem_filter member)
    apply nodes_subset_of_child (List.mem_of_find?_eq_some found)
    exact nodes_subset_of_child below written.self_mem_nodes

end Node

theorem Value.append?_ne_symbol (first second : Option Value) (label : Text) :
    append? first second ≠ some (.symbol label) := by
  unfold append?
  split <;> simp

namespace Constants

variable (constants : Constants) (owners : List Text)

theorem label_of_reference {node : Node} {reference : Operand} {label : Text}
    (written : node.reference? = some reference) (worth : constants.value? owners node = .ok (some (.symbol label))) :
    label ∈ node.labels := by
  rw [constants.value?_reference owners node reference written] at worth
  have known := constants.label_of_meaning owners reference (Option.some.inj (Except.ok.inj worth))
  exact Node.mem_labels_iff.mpr ⟨node, node.self_mem_nodes, reference, written, known⟩

mutual

theorem label_of_value? {label : Text} : (node : Node) -> constants.value? owners node = .ok (some (.symbol label)) ->
    label ∈ node.labels
  | ⟨kind, text, line, named, field, missing, children⟩, worth => by
    cases kind with
    | identifier => exact constants.label_of_reference owners rfl worth
    | fieldAccess => exact constants.label_of_reference owners rfl worth
    | scopedIdentifier => exact constants.label_of_reference owners rfl worth
    | stringLiteral =>
      rw [value?] at worth
      cases decoded : Literal.decode text with
      | error reason => simp [decoded, Except.map] at worth
      | ok string => cases string <;> simp [decoded, Except.map] at worth
    | parenthesizedExpression =>
      simp only [value?] at worth
      split at worth
      · obtain ⟨child, below, named⟩ := label_of_onlyValue? children worth
        exact Node.labels_subset (Node.nodes_subset_of_child below) named
      · simp at worth
    | binaryExpression =>
      simp only [value?] at worth
      split at worth
      · obtain ⟨left, -, remaining⟩ := bind_eq_ok.mp worth
        obtain ⟨right, -, sum⟩ := bind_eq_ok.mp remaining
        exact absurd (Except.ok.inj sum) (Value.append?_ne_symbol left right label)
      · simp at worth
    | _ => simp [value?] at worth

theorem label_of_onlyValue? {label : Text} : (forest : List Node) ->
    constants.onlyValue? owners forest = .ok (some (.symbol label)) -> ∃ child ∈ forest, label ∈ child.labels
  | [], worth => by simp [onlyValue?] at worth
  | node :: rest, worth => by
    rw [onlyValue?] at worth
    split at worth
    · exact ⟨node, List.mem_cons_self, label_of_value? node worth⟩
    · obtain ⟨child, below, named⟩ := label_of_onlyValue? rest worth
      exact ⟨child, List.mem_cons_of_mem _ below, named⟩

end

end Constants

theorem AnnotationUse.label_of_declaration {constants : Constants} {owners : List Text} {declaration : Node}
    {uses : List AnnotationUse} (read : ofDeclaration constants owners declaration = .ok uses) {use : AnnotationUse}
    (used : use ∈ uses) {key label : Text} (held : .symbol label ∈ use.valuesOf key) : label ∈ declaration.labels := by
  have values := ofDeclaration_map read fun _ _ written => valuesOf_ofNode constants owners written key
  have listed : use.valuesOf key ∈ uses.map fun use => use.valuesOf key := List.mem_map_of_mem used
  rw [values] at listed
  obtain ⟨written, among, same⟩ := List.mem_map.mp listed
  rw [← same] at held
  obtain ⟨element, part, contributed⟩ := List.mem_flatMap.mp held
  have worth : constants.value? owners element = .ok (some (.symbol label)) := by
    rw [contribution] at contributed
    split at contributed
    next value known => rw [known, List.mem_singleton.mp contributed]
    next => simp at contributed
  have inside : element ∈ declaration.nodes :=
    Node.nodes_subset _ (declaration.annotationNodes_subset among) (written.elementsOf_subset key part)
  exact Node.labels_subset (Node.nodes_subset _ inside) (constants.label_of_value? owners element worth)

namespace Site

variable {file : FileContext} {root : Node} {site : Site}

theorem node_mem_nodes (member : site ∈ sites root) : site.node ∈ root.nodes := by
  rw [mem_sites_iff] at member
  induction member with
  | root => exact root.self_mem_nodes
  | child index node reached present named ih =>
    exact Node.nodes_subset _ ih (Node.nodes_subset_of_child (List.mem_of_getElem? present) node.self_mem_nodes)

theorem label_of_annotations (member : site ∈ sites root) {uses : List AnnotationUse}
    (read : site.annotations file = .ok uses) {use : AnnotationUse} (used : use ∈ uses) {key label : Text}
    (held : .symbol label ∈ use.valuesOf key) : label ∈ root.labels :=
  Node.labels_subset (Node.nodes_subset _ (node_mem_nodes member)) (AnnotationUse.label_of_declaration read used held)

theorem label_of_typeAnnotations (member : site ∈ sites root) {uses : List AnnotationUse}
    (read : Trail.typeAnnotations file site.above = .ok uses) {use : AnnotationUse} (used : use ∈ uses)
    {key label : Text} (held : .symbol label ∈ use.valuesOf key) : label ∈ root.labels := by
  rw [Trail.typeAnnotations_eq_frame?] at read
  cases found : Trail.frame? site.above with
  | none =>
    rw [found] at read
    exact absurd (Except.ok.inj read ▸ used) List.not_mem_nil
  | some type =>
    rw [found, Option.elim_some] at read
    split at read
    · have around := mem_sites_of_suffix member (Trail.trail_suffix_of_frame? site.above type found)
      exact label_of_annotations around read used held
    · exact absurd (Except.ok.inj read ▸ used) List.not_mem_nil

end Site

theorem Operand.label_dotted_legible {source : Text} (given : source ≠ [])
    (shown : (source.getLast given).isBlank = false) (apart : source.getLast given ≠ CodePoint.dot) :
    (dotted source).label ≠ [] ∧ CodePoint.dot ∉ (dotted source).label := by
  let last := source.getLast given
  have alone : Text.compact [last] = [last] := by simp [Text.compact, last, shown]
  have kept : [last] <:+ Text.compact source := by
    rw [← List.dropLast_append_getLast given, Text.compact_append, alone]
    exact List.suffix_append _ _
  have single : CodePoint.dot ∉ [last] := by simpa using Ne.symm apart
  rw [label_dotted]
  refine ⟨?_, Text.not_mem_lastPart _ _⟩
  exact List.ne_nil_of_mem ((Text.suffix_lastPart single kept).subset List.mem_cons_self)

namespace Node

/-- A name that can be read off its source text: a single one is not empty and has no dots, and a dotted one ends in
neither white space nor a dot. -/
def IsLegible (node : Node) : Prop :=
  (node.kind = .identifier -> node.text ≠ [] ∧ CodePoint.dot ∉ node.text) ∧
  (node.kind = .fieldAccess ∨ node.kind = .scopedIdentifier ->
    ∃ given : node.text ≠ [], (node.text.getLast given).isBlank = false ∧ node.text.getLast given ≠ CodePoint.dot)

instance (node : Node) : Decidable node.IsLegible :=
  inferInstanceAs (Decidable (_ ∧ _))

theorem IsLegible.label {node : Node} (legible : node.IsLegible) {reference : Operand}
    (written : node.reference? = some reference) : reference.label ≠ [] ∧ CodePoint.dot ∉ reference.label := by
  rw [reference?] at written
  split at written
  case h_4 => simp at written
  all_goals obtain rfl := Option.some.inj written
  case h_1 kind => exact legible.1 kind
  case' h_2 kind => obtain ⟨given, shown, apart⟩ := legible.2 (.inl kind)
  case' h_3 kind => obtain ⟨given, shown, apart⟩ := legible.2 (.inr kind)
  all_goals exact Operand.label_dotted_legible given shown apart

theorem legible_labels {root : Node} (legible : ∀ node ∈ root.nodes, node.IsLegible) {label : Text}
    (member : label ∈ root.labels) : label ≠ [] ∧ CodePoint.dot ∉ label := by
  obtain ⟨node, inside, reference, written, rfl⟩ := mem_labels_iff.mp member
  exact (legible node inside).label written

end Node

namespace AnnotationUse

theorem mem_strings_iff {use : AnnotationUse} {key text : Text} :
    text ∈ use.strings key ↔ .string text ∈ use.valuesOf key := by
  rw [strings, List.mem_filterMap]
  constructor
  · rintro ⟨_ | _, held, same⟩
    · obtain rfl := Option.some.inj same
      exact held
    · simp [Value.string?] at same
  · intro held
    exact ⟨_, held, rfl⟩

theorem mem_symbols_iff {use : AnnotationUse} {key label : Text} :
    label ∈ use.symbols key ↔ .symbol label ∈ use.valuesOf key := by
  rw [symbols, List.mem_filterMap]
  constructor
  · rintro ⟨_ | _, held, same⟩
    · simp [Value.symbol?] at same
    · obtain rfl := Option.some.inj same
      exact held
  · intro held
    exact ⟨_, held, rfl⟩

def HoldsPath (use : AnnotationUse) (path : Text) : Prop :=
  .string path ∈ use.held "path" ∨ .string path ∈ use.held "value"

def HoldsMethod (use : AnnotationUse) (method : Text) : Prop :=
  .symbol method ∈ use.held "method"

def GivesPart (source : Option AnnotationUse) (part : Text) : Prop :=
  -- A string of the annotation, or nothing if there is no annotation or it holds no path.
  (∃ use ∈ source, use.HoldsPath part) ∨ part = [] ∧ ∀ use ∈ source, ∀ path, ¬ use.HoldsPath path

def GivesMethod (outer : Option AnnotationUse) (own : AnnotationUse) (method : Text) : Prop :=
  -- What a declaration names itself or, if it names nothing, what holds around it.
  own.HoldsMethod method ∨ (∀ other, ¬ own.HoldsMethod other) ∧ ∃ use ∈ outer, use.HoldsMethod method

end AnnotationUse

theorem mem_pairs_iff {First Second : Type} {firsts : List First} {seconds : List Second} {pair : First × Second} :
    pair ∈ pairs firsts seconds ↔ pair.1 ∈ firsts ∧ pair.2 ∈ seconds := by
  simp only [pairs, List.mem_flatMap, List.mem_map]
  constructor
  · rintro ⟨first, held, second, other, rfl⟩
    exact ⟨held, other⟩
  · rintro ⟨held, other⟩
    exact ⟨pair.1, held, pair.2, other, rfl⟩

theorem mem_joins_iff {firsts seconds : List Text} {path : Text} :
    path ∈ joins firsts seconds ↔ ∃ before ∈ firsts, ∃ behind ∈ seconds, path = before ++ behind := by
  rw [joins, List.mem_map]
  constructor
  · rintro ⟨pair, chosen, rfl⟩
    obtain ⟨first, second⟩ := mem_pairs_iff.mp chosen
    exact ⟨pair.1, first, pair.2, second, rfl⟩
  · rintro ⟨before, first, behind, second, rfl⟩
    exact ⟨(before, behind), mem_pairs_iff.mpr ⟨first, second⟩, rfl⟩

namespace Scope

open AnnotationUse

theorem mem_paths_ofUse {use : AnnotationUse} {path : Text} : path ∈ (ofUse use).paths ↔ use.HoldsPath path := by
  rw [ofUse, List.mem_append, mem_strings_iff, mem_strings_iff]
  rfl

theorem mem_methods_ofUse {use : AnnotationUse} {method : Text} :
    method ∈ (ofUse use).methods ↔ use.HoldsMethod method :=
  mem_symbols_iff

theorem mem_foldPaths_one {source : Option AnnotationUse} {part : Text} :
    part ∈ foldPaths (source.map ofUse).toList ↔ GivesPart source part := by
  cases source with
  | none => simp [foldPaths, GivesPart]
  | some use =>
    have own : foldPaths [ofUse use] = (ofUse use).ownPaths := by
      rw [foldPaths_cons]
      exact joins_unit_right _
    rw [Option.map_some, Option.toList_some, own, ownPaths]
    split
    next empty =>
      have without (path : Text) : ¬ use.HoldsPath path := by
        rw [← mem_paths_ofUse, List.isEmpty_iff.mp empty]
        exact List.not_mem_nil
      simp [GivesPart, without]
    next given =>
      obtain ⟨path, held⟩ := List.exists_mem_of_ne_nil _ (mt List.isEmpty_iff.mpr given)
      rw [mem_paths_ofUse, GivesPart, or_iff_left]
      · simp
      · rintro ⟨-, without⟩
        exact without use rfl path (mem_paths_ofUse.mp held)

theorem mem_foldPaths_around {outer : Option AnnotationUse} {own : AnnotationUse} {path : Text} :
    path ∈ foldPaths ((outer.map ofUse).toList ++ [ofUse own]) ↔
      ∃ before behind, path = before ++ behind ∧ GivesPart outer before ∧ GivesPart (some own) behind := by
  have inner : [ofUse own] = ((some own).map ofUse).toList := rfl
  rw [foldPaths_append, mem_joins_iff, inner]
  simp only [mem_foldPaths_one]
  constructor
  · rintro ⟨before, first, behind, second, joined⟩
    exact ⟨before, behind, joined, first, second⟩
  · rintro ⟨before, behind, joined, first, second⟩
    exact ⟨before, first, behind, second, joined⟩

theorem mem_foldMethods_around {outer : Option AnnotationUse} {own : AnnotationUse} {method : Text} :
    method ∈ foldMethods ((outer.map ofUse).toList ++ [ofUse own]) ↔ GivesMethod outer own method := by
  have around : method ∈ ((outer.map ofUse).getD free).methods ↔ ∃ use ∈ outer, use.HoldsMethod method := by
    cases outer with
    | none => simp [free]
    | some use => simp [mem_methods_ofUse]
  rw [foldMethods_around, overrideMethods]
  split
  next empty =>
    have without (other : Text) : ¬ own.HoldsMethod other := by
      rw [← mem_methods_ofUse, List.isEmpty_iff.mp empty]
      exact List.not_mem_nil
    simp [GivesMethod, around, without]
  next given =>
    obtain ⟨other, held⟩ := List.exists_mem_of_ne_nil _ (mt List.isEmpty_iff.mpr given)
    rw [mem_methods_ofUse, GivesMethod, or_iff_left]
    rintro ⟨without, -⟩
    exact without other (mem_methods_ofUse.mp held)

end Scope

theorem Endpoint.mem_ofScopes_iff {scopes : List Scope} {file declaration : Text} {endpoint : Endpoint} :
    endpoint ∈ ofScopes scopes file declaration ↔ endpoint.file = file ∧ endpoint.declaration = declaration ∧
      endpoint.method ∈ Scope.foldMethods scopes ∧ endpoint.path ∈ Scope.foldPaths scopes := by
  constructor
  · intro member
    obtain ⟨pair, chosen, rfl⟩ := List.mem_map.mp member
    exact ⟨rfl, rfl, mem_pairs_iff.mp chosen⟩
  · rintro ⟨rfl, rfl, chosen⟩
    exact List.mem_map.mpr ⟨(endpoint.method, endpoint.path), mem_pairs_iff.mpr chosen, rfl⟩

def Method.HasRoute (names : List Text) (method : Method) (endpoint : Endpoint) : Prop :=
  let outer := AnnotationUse.firstNamed? names method.typeAnnotations
  ∃ own, AnnotationUse.firstNamed? names method.annotations = some own ∧
    endpoint.declaration = method.type ++ "#" ++ method.name ∧
    AnnotationUse.GivesMethod outer own endpoint.method ∧
    ∃ before behind, endpoint.path = before ++ behind ∧
      AnnotationUse.GivesPart outer before ∧ AnnotationUse.GivesPart (some own) behind

theorem Collection.mem_ofMethod_iff {names : List Text} {file : Text} {method : Method} {endpoint : Endpoint} :
    endpoint ∈ (ofMethod names file method).endpoints ↔ endpoint.file = file ∧ method.HasRoute names endpoint := by
  rw [Method.HasRoute]
  cases annotated : AnnotationUse.firstNamed? names method.annotations with
  | none =>
    rw [ofMethod_unannotated names file method annotated]
    simp [empty]
  | some own =>
    rw [ofMethod_eq names file method own annotated]
    simp only [Endpoint.mem_ofScopes_iff, Scope.mem_foldMethods_around, Scope.mem_foldPaths_around, Method.id_eq,
      Option.some.injEq, exists_eq_left']

namespace FileReading

def context (reading : FileReading) : FileContext :=
  { package := reading.package, constants := reading.constants }

theorem declared_of_mem_methods {root : Node} {reading : FileReading} (read : ofRoot root = .ok reading)
    {method : Method} (member : method ∈ reading.methods) :
    ∃ site ∈ declared root, site.method reading.context root = .ok method := by
  obtain ⟨constants, recorded, remaining⟩ := bind_eq_ok.mp read
  obtain ⟨methods, walked, same⟩ := bind_eq_ok.mp remaining
  obtain rfl := Except.ok.inj same
  rw [Method.walk_eq_list, list_eq_methodsOf] at walked
  exact exists_of_forall₂ (forall₂_methodsOf _ root (sites root) methods walked).flip method member

end FileReading

theorem Site.label_of_route {file : FileContext} {root : Node} {site : Site} {method : Method}
    (member : site ∈ sites root) (read : site.method file root = .ok method) {names : List Text} {endpoint : Endpoint}
    (route : method.HasRoute names endpoint) : endpoint.method ∈ root.labels := by
  obtain ⟨annotations, own, remaining⟩ := bind_eq_ok.mp read
  obtain ⟨typeAnnotations, outer, same⟩ := bind_eq_ok.mp remaining
  obtain rfl := Except.ok.inj same
  obtain ⟨use, first, -, given, -⟩ := route
  rcases given with held | ⟨-, type, found, held⟩
  · exact label_of_annotations member own (List.mem_of_find?_eq_some first) held
  · exact label_of_typeAnnotations member outer (List.mem_of_find?_eq_some found) held

/-- What a file adds to a collection are the routes of the methods that its tree declares, each made from the first
matching annotation of the method and the first matching one of its type. If the tree is legible, every one of them has
an HTTP method, which is a name without dots. -/
theorem endpoints_of_legible_file (names : List Text) (file : Text) (held : Collection) (root : Node)
    (reading : FileReading) (legible : ∀ node ∈ root.nodes, node.IsLegible)
    (read : FileReading.ofRoot root = .ok reading) :
    ∃ added, (held.addFile names file reading.methods).endpoints = held.endpoints ++ added ∧
      (∀ endpoint, endpoint ∈ added ↔ endpoint.file = file ∧
        ∃ method ∈ reading.methods, (∃ site ∈ declared root, site.method reading.context root = .ok method) ∧
          method.HasRoute names endpoint) ∧
      ∀ endpoint ∈ added,
        endpoint.method ≠ [] ∧ CodePoint.dot ∉ endpoint.method ∧ endpoint.method ∈ root.labels := by
  let shares := reading.methods.map (Collection.ofMethod names file)
  have routes (endpoint : Endpoint) : endpoint ∈ (Collection.concat shares).endpoints ↔
      ∃ method ∈ reading.methods, endpoint.file = file ∧ method.HasRoute names endpoint := by
    simp only [Collection.concat, shares, List.flatMap_map, List.mem_flatMap, Collection.mem_ofMethod_iff]
  refine ⟨(Collection.concat shares).endpoints, ?_, ?_, ?_⟩
  · rw [Collection.addFile_eq]
    rfl
  · intro endpoint
    rw [routes endpoint]
    constructor
    · rintro ⟨method, member, whole, route⟩
      exact ⟨whole, method, member, FileReading.declared_of_mem_methods read member, route⟩
    · rintro ⟨whole, method, member, -, route⟩
      exact ⟨method, member, whole, route⟩
  · intro endpoint member
    obtain ⟨method, present, -, route⟩ := (routes endpoint).mp member
    obtain ⟨site, declares, own⟩ := FileReading.declared_of_mem_methods read present
    have label := Site.label_of_route (List.mem_of_mem_filter declares) own route
    obtain ⟨given, single⟩ := Node.legible_labels legible label
    exact ⟨given, single, label⟩

namespace Sketch

def keyed (pairs : List (Text × Node)) : Node :=
  marker (pairs.map fun pair => branch .elementValuePair none [bare (some .key) pair.1, pair.2])

def routedClass : Node :=
  branch .classDeclaration none
    [branch .modifiers none [keyed [("path", quoted (some .value) "/a")]], bare (some .name) ['C'],
      body [branch .methodDeclaration none
        [branch .modifiers none
          [keyed [("value", quoted (some .value) "/b"), ("method", leaf .fieldAccess (some .value) "R . GET")]],
          bare (some .name) ['m']]]]

end Sketch

open Sketch in
theorem endpoints_of_routed_class :
    let root := file [routedClass]
    let method : Method :=
      { name := ['m']
        type := ['C']
        annotations := [{ name := ['M'], attributes := [("value", [.string "/b"]), ("method", [.symbol "GET"])] }]
        typeAnnotations := [{ name := ['M'], attributes := [("path", [.string "/a"])] }]
        line := 1 }
    let reading : FileReading :=
      { package := [], constants := { ofTypes := [], ofFile := [] }, methods := [method] }
    let endpoint : Endpoint := { method := "GET", path := "/a/b", declaration := "C#m", file := "C.java" }
    (∀ node ∈ root.nodes, node.IsLegible) ∧ FileReading.ofRoot root = .ok reading ∧
    (Collection.empty.addFile [['M']] "C.java" reading.methods).endpoints = [endpoint] ∧
    method.HasRoute [['M']] endpoint ∧ endpoint.method ∈ root.labels := by
  intro root method reading endpoint
  have legible : ∀ node ∈ root.nodes, node.IsLegible := by decide +kernel
  have read : FileReading.ofRoot root = .ok reading := by
    simp only [FileReading.ofRoot, Method.walk_eq_list]
    decide +kernel
  have found : (Collection.empty.addFile [['M']] "C.java" reading.methods).endpoints = [endpoint] := by decide +kernel
  obtain ⟨added, whole, routes, named⟩ :=
    endpoints_of_legible_file [['M']] "C.java" Collection.empty root reading legible read
  obtain rfl : [endpoint] = added := found.symm.trans whole
  obtain ⟨-, declaring, member, -, route⟩ := (routes endpoint).mp List.mem_cons_self
  obtain rfl := List.mem_singleton.mp member
  exact ⟨legible, read, found, route, (named endpoint List.mem_cons_self).2.2⟩

end RouteAtlas
