import RouteAtlas.Syntax.Node

set_option autoImplicit false

namespace RouteAtlas.Node

mutual

def nodes : Node -> List Node
  | ⟨kind, text, line, named, field, missing, children⟩ =>
    ⟨kind, text, line, named, field, missing, children⟩ :: nodesAll children

def nodesAll : List Node -> List Node
  | [] => []
  | node :: rest => nodes node ++ nodesAll rest

end

theorem nodes_eq (node : Node) : node.nodes = node :: nodesAll node.children := by
  cases node
  rw [nodes]

theorem nodesAll_eq (forest : List Node) : nodesAll forest = forest.flatMap nodes := by
  induction forest with
  | nil => rfl
  | cons node rest ih => rw [nodesAll, ih, List.flatMap_cons]

theorem nodesAll_append (first second : List Node) : nodesAll (first ++ second) = nodesAll first ++ nodesAll second := by
  simp only [nodesAll_eq, List.flatMap_append]

mutual

theorem hasError_eq_any : ∀ node : Node, node.hasError = node.nodes.any isBroken
  | ⟨kind, text, line, named, field, missing, children⟩ => by
    rw [hasError, nodes, List.any_cons, anyHasError_eq_any children, isBroken]

theorem anyHasError_eq_any : ∀ forest : List Node, anyHasError forest = (nodesAll forest).any isBroken
  | [] => rfl
  | node :: rest => by
    rw [anyHasError, nodesAll, List.any_append, hasError_eq_any node, anyHasError_eq_any rest]

end

theorem hasError_iff {root : Node} : root.hasError = true ↔ ∃ node ∈ root.nodes, node.isBroken = true := by
  rw [hasError_eq_any, List.any_eq_true]

theorem find_broken_eq_none {root : Node} (clean : root.hasError = false) : root.nodes.find? isBroken = none := by
  rw [hasError_eq_any, List.any_eq_false] at clean
  exact List.find?_eq_none.mpr clean

theorem brokenLine?_nodes (node : Node) :
    (node.nodes.find? isBroken).map line =
      if node.isBroken then some node.line else ((nodesAll node.children).find? isBroken).map line := by
  rw [nodes_eq]
  split
  next broken => rw [List.find?_cons_of_pos broken]; rfl
  next whole => rw [List.find?_cons_of_neg whole]

theorem searchError?_eq (pending : List Node) :
    searchError? pending = ((nodesAll pending).find? isBroken).map line := by
  induction pending using searchError?.induct with
  | case1 => rw [searchError?, nodesAll]; rfl
  | case2 node pending broken =>
    rw [searchError?, if_pos broken, nodesAll, List.find?_append, Option.map_or, brokenLine?_nodes, if_pos broken,
      Option.some_or]
  | case3 node pending whole erring ih =>
    -- The children take the place of their parent, which the walk has just passed.
    rw [searchError?, if_neg whole, if_pos erring, ih, nodesAll, nodesAll_append, List.find?_append,
      List.find?_append, Option.map_or, Option.map_or, brokenLine?_nodes, if_neg whole]
  | case4 node pending whole clean ih =>
    have none := find_broken_eq_none (Bool.eq_false_iff.mpr clean)
    rw [searchError?, if_neg whole, if_neg clean, ih, nodesAll, List.find?_append, none, Option.none_or]

theorem firstErrorLine?_eq (root : Node) : root.firstErrorLine? = (root.nodes.find? isBroken).map line := by
  rw [firstErrorLine?, searchError?_eq, nodesAll, nodesAll, List.append_nil]

theorem firstErrorLine?_eq_none_iff {root : Node} : root.firstErrorLine? = none ↔ root.hasError = false := by
  rw [firstErrorLine?_eq, Option.map_eq_none_iff, List.find?_eq_none, hasError_eq_any, List.any_eq_false]

end RouteAtlas.Node
