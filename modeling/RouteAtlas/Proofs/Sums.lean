import RouteAtlas.Proofs.References

set_option autoImplicit false

namespace RouteAtlas

namespace Node

def unplaced (node : Node) : Node :=
  { node with field := none }

/-- An expression, and from left to right the expressions that it puts together. They are grouped by sums and by
parentheses, which may hold comments, too. -/
inductive Groups : Node -> List Node -> Prop
  | leaf (node : Node) : Groups node [node]
  | parentheses {node inner : Node} {leaves : List Node} (kind : node.kind = .parenthesizedExpression)
      (only : (node.namedChildren.filter fun child => !child.isComment) = [inner]) (inside : Groups inner leaves) :
      Groups node leaves
  | sum {node left right : Node} {before behind : List Node} (kind : node.kind = .binaryExpression)
      (operator : node.textAt .operator = Constants.plus) (first : node.child? .left = some left)
      (second : node.child? .right = some right) (leftLeaves : Groups left before)
      (rightLeaves : Groups right behind) : Groups node (before ++ behind)

theorem Groups.ne_nil {node : Node} {leaves : List Node} (groups : Groups node leaves) : leaves ≠ [] := by
  induction groups with
  | leaf node => simp
  | parentheses kind only inside ih => exact ih
  | sum kind operator first second leftLeaves rightLeaves before behind => simp [before]

end Node

namespace Value

def joined? : List (Option Value) -> Option Text
  | [] => some []
  | value :: rest => (value.bind string?).bind fun text => (joined? rest).map fun others => text ++ others

def together : List (Option Value) -> Option Value
  | [only] => only
  | several => (joined? several).map string

theorem append?_eq (first second : Option Value) :
    append? first second =
      ((first.bind string?).bind fun before =>
        (second.bind string?).map fun behind => before ++ behind).map string := by
  rcases first with _ | _ | _ <;> rcases second with _ | _ | _ <;> rfl

theorem joined?_append (first second : List (Option Value)) :
    joined? (first ++ second) =
      (joined? first).bind fun before => (joined? second).map fun behind => before ++ behind := by
  induction first with
  | nil => simp [joined?]
  | cons value rest ih =>
    rw [List.cons_append, joined?, joined?, ih]
    cases value.bind string? with
    | none => rfl
    | some text =>
      cases joined? rest with
      | none => rfl
      | some others => cases joined? second <;> simp

theorem joined?_strings (texts : List Text) :
    joined? (texts.map fun text => some (string text)) = some texts.flatten := by
  induction texts with
  | nil => rfl
  | cons text rest ih =>
    rw [List.map_cons, joined?, ih]
    rfl

theorem joined?_eq_none {values : List (Option Value)} {value : Option Value} (inside : value ∈ values)
    (other : value.bind string? = none) : joined? values = none := by
  induction values with
  | nil => simp at inside
  | cons first rest ih =>
    rw [joined?]
    rcases List.mem_cons.mp inside with rfl | later
    · rw [other, Option.bind_none]
    · simp [ih later]

theorem together_several {values : List (Option Value)} (several : 1 < values.length) :
    together values = (joined? values).map string := by
  rw [together]
  rintro only rfl
  simp at several

theorem string?_together {values : List (Option Value)} (given : values ≠ []) :
    (together values).bind string? = joined? values := by
  match values, given with
  | [only], _ =>
    rw [together, joined?, joined?]
    cases only.bind string? <;> simp
  | first :: second :: rest, _ =>
    rw [together_several (by simp)]
    cases joined? (first :: second :: rest) <;> rfl

theorem together_append {first second : List (Option Value)} (before : first ≠ []) (behind : second ≠ []) :
    together (first ++ second) = append? (together first) (together second) := by
  have earlier := List.length_pos_iff.mpr before
  have later := List.length_pos_iff.mpr behind
  have several : 1 < (first ++ second).length := by
    rw [List.length_append]
    omega
  rw [append?_eq, string?_together before, string?_together behind, ← joined?_append, together_several several]

theorem together_strings {texts : List Text} (given : texts ≠ []) :
    together (texts.map fun text => some (string text)) = some (string texts.flatten) := by
  match texts, given with
  | [text], _ => simp [together]
  | first :: second :: rest, _ =>
    rw [together_several (by simp), joined?_strings]
    rfl

end Value

theorem length_mapM {Error First Second : Type} {read : First -> Except Error Second} {items : List First}
    {results : List Second} (given : items.mapM read = .ok results) : results.length = items.length := by
  induction items generalizing results with
  | nil =>
    obtain rfl := Except.ok.inj given
    rfl
  | cons first rest ih =>
    rw [List.mapM_cons] at given
    obtain ⟨result, -, remaining⟩ := bind_eq_ok.mp given
    obtain ⟨others, later, joined⟩ := bind_eq_ok.mp remaining
    obtain rfl := Except.ok.inj joined
    rw [List.length_cons, List.length_cons, ih later]

theorem mapM_ne_nil {Error First Second : Type} {read : First -> Except Error Second} {items : List First}
    {results : List Second} (given : items.mapM read = .ok results) (some : items ≠ []) : results ≠ [] := by
  rw [← List.length_pos_iff, length_mapM given]
  exact List.length_pos_iff.mpr some

namespace Constants

open Node

variable (constants : Constants) (owners : List Text)

theorem value?_unplaced (node : Node) : constants.value? owners node.unplaced = constants.value? owners node := by
  obtain ⟨kind, text, line, named, field, missing, children⟩ := node
  cases kind <;> simp only [unplaced, value?]

theorem onlyValue?_eq (nodes : List Node) :
    constants.onlyValue? owners nodes =
      (nodes.find? fun child => child.named && !child.isComment).elim (.ok none) (constants.value? owners) := by
  induction nodes with
  | nil => rfl
  | cons node rest ih =>
    rw [onlyValue?, List.find?_cons, ih]
    cases node.named && !node.isComment <;> rfl

theorem operandValue?_eq (field : Field) (nodes : List Node) :
    constants.operandValue? owners field nodes =
      (nodes.find? fun child => child.field = some field).elim (.ok none) (constants.value? owners) := by
  induction nodes with
  | nil => rfl
  | cons node rest ih =>
    rw [operandValue?, List.find?_cons, ih]
    by_cases placed : node.field = some field <;> simp [placed]

theorem value?_parentheses {node inner : Node} (kind : node.kind = .parenthesizedExpression)
    (only : (node.namedChildren.filter fun child => !child.isComment) = [inner]) :
    constants.value? owners node = constants.value? owners inner := by
  obtain ⟨category, text, line, named, field, missing, children⟩ := node
  obtain rfl : category = .parenthesizedExpression := kind
  rw [namedChildren, List.filter_filter] at only
  have single : (children.filter fun child => child.named && !child.isComment) = [inner] := by
    simpa only [Bool.and_comm] using only
  have found : (children.find? fun child => child.named && !child.isComment) = some inner := by
    rw [← List.head?_filter, single]
    rfl
  rw [value?, single, onlyValue?_eq, found]
  rfl

theorem value?_sum {node left right : Node} (kind : node.kind = .binaryExpression)
    (operator : node.textAt .operator = plus) (first : node.child? .left = some left)
    (second : node.child? .right = some right) :
    constants.value? owners node = (do
      let before <- constants.value? owners left
      let behind <- constants.value? owners right
      return Value.append? before behind) := by
  obtain ⟨category, text, line, named, field, missing, children⟩ := node
  obtain rfl : category = .binaryExpression := kind
  rw [textAt, child?] at operator
  rw [child?] at first second
  have left? : (children.any fun child => child.field = some .left) = true := by
    rw [← List.isSome_find?, first]
    rfl
  have right? : (children.any fun child => child.field = some .right) = true := by
    rw [← List.isSome_find?, second]
    rfl
  simp only [value?, operator, left?, right?, operandValue?_eq, first, second]
  rfl

theorem value?_groups {node : Node} {leaves : List Node} (groups : node.Groups leaves) :
    constants.value? owners node = (leaves.mapM (constants.value? owners)).map Value.together := by
  induction groups with
  | leaf node =>
    rw [List.mapM_cons, List.mapM_nil]
    cases constants.value? owners node <;> rfl
  | parentheses kind only inside ih => rw [constants.value?_parentheses owners kind only, ih]
  | @sum node left right before behind kind operator first second leftLeaves rightLeaves leftIh rightIh =>
    rw [constants.value?_sum owners kind operator first second, leftIh, rightIh, List.mapM_append]
    cases earlier : before.mapM (constants.value? owners) with
    | error reason => rfl
    | ok values =>
      cases later : behind.mapM (constants.value? owners) with
      | error reason => rfl
      | ok others =>
        have some := mapM_ne_nil earlier leftLeaves.ne_nil
        have more := mapM_ne_nil later rightLeaves.ne_nil
        exact congrArg Except.ok (Value.together_append some more).symm

end Constants

open Node in
/-- An expression has the value of its leaves together: of a single one its own, of several the string of all their
texts, and none if one of them is no string. Another grouping of the same leaves has the same value. -/
theorem value_of_leaves (constants : Constants) (owners : List Text) (node : Node) (leaves : List Node)
    (groups : node.Groups leaves) :
    let value? := constants.value? owners
    value? node = (leaves.mapM value?).map Value.together ∧
    (∀ leaf, leaves = [leaf] -> value? node = value? leaf) ∧
    (∀ texts : List Text, leaves.mapM value? = .ok (texts.map fun text => some (.string text)) ->
      value? node = .ok (some (.string texts.flatten))) ∧
    (1 < leaves.length -> ∀ values value, leaves.mapM value? = .ok values -> value ∈ values ->
      value.bind Value.string? = none -> value? node = .ok none) ∧
    ∀ other others, other.Groups others -> others.map unplaced = leaves.map unplaced -> value? other = value? node := by
  intro value?
  have whole : value? node = (leaves.mapM value?).map Value.together := constants.value?_groups owners groups
  refine ⟨whole, ?_, ?_, ?_, ?_⟩
  · rintro leaf rfl
    rw [whole, List.mapM_cons, List.mapM_nil]
    cases value? leaf <;> rfl
  · intro texts strings
    have some : texts ≠ [] := by
      rintro rfl
      exact mapM_ne_nil strings groups.ne_nil rfl
    rw [whole, strings, Except.map, Value.together_strings some]
  · intro several values value given inside other
    rw [← length_mapM given] at several
    rw [whole, given, Except.map, Value.together_several several, Value.joined?_eq_none inside other]
    rfl
  · intro other others otherGroups same
    have read (nodes : List Node) : nodes.mapM value? = (nodes.map unplaced).mapM value? := by
      rw [List.mapM_map]
      congr 1
      funext node
      exact (constants.value?_unplaced owners node).symm
    rw [whole, read leaves, ← same, ← read others]
    exact constants.value?_groups owners otherGroups

open Sketch

def leftwards : Node :=
  sum { sum (quoted (some .left) ['/', 'a']) (bare (some .right) ['P']) with field := some .left }
    (quoted (some .right) ['/', 'c'])

def rightwards : Node :=
  sum (quoted (some .left) ['/', 'a']) (branch .parenthesizedExpression (some .right)
    [leaf .blockComment none [], sum (bare (some .left) ['P']) (quoted (some .right) ['/', 'c'])])

theorem regrouped_strings_alike :
    let constants : Constants := { ofTypes := [(['A'], [(['P'], ['/', 'b'])])], ofFile := [] }
    leftwards.Groups [quoted (some .left) ['/', 'a'], bare (some .right) ['P'], quoted (some .right) ['/', 'c']] ∧
    rightwards.Groups [quoted (some .left) ['/', 'a'], bare (some .left) ['P'], quoted (some .right) ['/', 'c']] ∧
    constants.value? [['A']] leftwards = .ok (some (.string ['/', 'a', '/', 'b', '/', 'c'])) ∧
    constants.value? [['A']] rightwards = constants.value? [['A']] leftwards := by
  intro constants
  have left : leftwards.Groups
      ([quoted (some .left) ['/', 'a']] ++ [bare (some .right) ['P']] ++ [quoted (some .right) ['/', 'c']]) :=
    .sum rfl rfl rfl rfl (.sum rfl rfl rfl rfl (.leaf _) (.leaf _)) (.leaf _)
  have right : rightwards.Groups
      ([quoted (some .left) ['/', 'a']] ++ ([bare (some .left) ['P']] ++ [quoted (some .right) ['/', 'c']])) :=
    .sum rfl rfl rfl rfl (.leaf _) (.parentheses rfl rfl (.sum rfl rfl rfl rfl (.leaf _) (.leaf _)))
  obtain ⟨-, -, strings, -, regrouped⟩ := value_of_leaves constants [['A']] leftwards _ left
  exact ⟨left, right, strings [['/', 'a'], ['/', 'b'], ['/', 'c']] rfl, regrouped rightwards _ right rfl⟩

end RouteAtlas
