import Mathlib.Data.List.TakeWhile
import RouteAtlas.Proofs.ConstantHistory
import RouteAtlas.Proofs.TypeNames

set_option autoImplicit false

namespace RouteAtlas

def Site.simpleName (type : Site) : Text :=
  type.node.textAt .name

namespace Trail

def typesAround : Trail -> List Site
  | [] => []
  | (position, node) :: above =>
    if node.kind.isTypeDeclaration then ⟨position, node, above⟩ :: typesAround above else typesAround above

theorem owners_eq (trail : Trail) : owners trail = (typesAround trail).map Site.simpleName := by
  induction trail with
  | nil => rfl
  | cons step above ih =>
    simp only [owners, typesAround]
    split
    · rw [ih, List.map_cons, Site.simpleName]
    · exact ih

theorem isTypeDeclaration_of_mem (trail : Trail) (type : Site) (around : type ∈ typesAround trail) :
    type.node.kind.isTypeDeclaration = true := by
  induction trail with
  | nil => simp [typesAround] at around
  | cons step above ih =>
    simp only [typesAround] at around
    split at around
    · next declares =>
      rcases List.mem_cons.mp around with rfl | outside
      · exact declares
      · exact ih outside
    · exact ih around

theorem holders_of_holder? (trail : Trail) (type : Site) (holds : holder? trail = some type)
    (named : type.node.kind.isTypeDeclaration = true) :
    ∃ outer, holders trail = type.simpleName :: outer := by
  induction trail with
  | nil => simp [holder?] at holds
  | cons step above ih =>
    simp only [holder?] at holds
    split at holds
    · obtain rfl := Option.some.inj holds
      simp only at named
      exact ⟨holders above, by simp [holders, named, Site.simpleName]⟩
    · next plain =>
      simp only [Bool.or_eq_true, not_or, Bool.not_eq_true] at plain
      obtain ⟨outer, same⟩ := ih holds
      exact ⟨outer, by simp [holders, plain.1, plain.2, same]⟩

end Trail

open Trail

def Recording.holder? (recording : Recording) : Option Site :=
  Trail.holder? recording.declarator.field.above

theorem Site.holders_of_mem_declarators (site : Site) (declarator : Declarator) (member : declarator ∈ site.declarators) :
    holders declarator.field.above = declarator.owner :: declarator.outer := by
  simp only [Site.declarators] at member
  cases around : holders site.above with
  | nil => simp [around] at member
  | cons owner outer =>
    simp only [around] at member
    split at member
    · obtain ⟨indexed, -, rfl⟩ := List.mem_map.mp member
      exact around
    · simp at member

theorem History.Reached.owner_eq {root : Node} {history : History} (reached : History.Reached root history)
    (recording : Recording) (member : recording ∈ history.recorded) (type : Site)
    (holds : recording.holder? = some type) (named : type.node.kind.isTypeDeclaration = true) :
    recording.owner = type.simpleName := by
  have declared := reached.declarators.subset (List.mem_map_of_mem member)
  obtain ⟨field, -, inside⟩ := List.mem_flatMap.mp declared
  obtain ⟨outer, same⟩ := holders_of_holder? _ type holds named
  rw [field.holders_of_mem_declarators recording.declarator inside] at same
  exact (List.cons.inj same).1

def passed (inner : List Site) (type : Site) : List Text :=
  -- The types asked before a type that is around them: all of those inside it up to a namesake.
  (inner.map Site.simpleName).takeWhile fun name => name ≠ type.simpleName

theorem owners_split (inner outer : List Site) (type : Site) :
    ∃ rest, (inner ++ type :: outer).map Site.simpleName = passed inner type ++ type.simpleName :: rest := by
  induction inner with
  | nil => exact ⟨outer.map Site.simpleName, rfl⟩
  | cons first inner ih =>
    by_cases namesake : first.simpleName = type.simpleName
    · exact ⟨(inner ++ type :: outer).map Site.simpleName, by simp [passed, namesake]⟩
    · obtain ⟨rest, same⟩ := ih
      refine ⟨rest, ?_⟩
      rw [List.cons_append, List.map_cons, same]
      simp [passed, namesake]

theorem not_mem_passed (inner : List Site) (type : Site) : type.simpleName ∉ passed inner type := by
  intro member
  have apart := List.mem_takeWhile_imp member
  simp at apart

/-- What is read instead of a constant of a type: the first recording of the name for a type on the way to it, or else
one for a namesake of the type that came earlier. -/
def rival? (recorded earlier : List Recording) (passed : List Text) (own : Recording) : Option Recording :=
  (innermost? recorded passed own.name).or (firstOf earlier own.owner own.name)

theorem rival?_eq_none {recorded earlier : List Recording} {passed : List Text} {own : Recording}
    (sub : earlier ⊆ recorded) :
    rival? recorded earlier passed own = none ↔
      ∀ rival ∈ recorded, rival.name = own.name ->
        rival.owner ∉ passed ∧ (rival ∈ earlier -> rival.owner ≠ own.owner) := by
  rw [rival?, Option.or_eq_none_iff, innermost?_eq_none, firstOf_eq_none]
  constructor
  · rintro ⟨away, unclaimed⟩ rival member named
    exact ⟨away rival member named, fun before => unclaimed rival before named⟩
  · intro apart
    constructor
    · intro rival member named
      exact (apart rival member named).1
    · intro rival before named
      exact (apart rival (sub before) named).2 before

theorem mem_of_rival? {recorded earlier : List Recording} {passed : List Text} {own rival : Recording}
    (sub : earlier ⊆ recorded) (found : rival? recorded earlier passed own = some rival) :
    rival ∈ recorded ∧ rival.name = own.name ∧
      (rival.owner ∈ passed ∨ (rival ∈ earlier ∧ rival.owner = own.owner)) := by
  rcases Option.or_eq_some_iff.mp found with inside | ⟨-, before⟩
  · obtain ⟨member, asked, named⟩ := innermost?_eq_some inside
    exact ⟨member, named, .inl asked⟩
  · obtain ⟨member, owned, named⟩ := firstOf_eq_some before
    exact ⟨sub member, named, .inr ⟨member, owned⟩⟩

theorem source?_of_types (inner outer : List Site) (type : Site) (earlier later : List Recording) (own : Recording)
    (owned : own.owner = type.simpleName) :
    source? (earlier ++ own :: later) ((inner ++ type :: outer).map Site.simpleName) own.name =
      some ((rival? (earlier ++ own :: later) earlier (passed inner type) own).getD own) := by
  have found : firstOf (own :: later) own.owner own.name = some own := by simp [firstOf]
  obtain ⟨rest, split⟩ := owners_split inner outer type
  rw [split, source?_append, source?, ← owned, firstOf_append earlier, found, rival?]
  cases innermost? (earlier ++ own :: later) (passed inner type) own.name with
  | some rival => rfl
  | none => cases firstOf earlier own.owner own.name <;> rfl

theorem Constants.value?_identifier (constants : Constants) (owners : List Text) (node : Node)
    (bare : node.kind = .identifier) :
    constants.value? owners node = .ok (some (constants.nameValue owners node.text)) := by
  obtain ⟨kind, text, line, named, field, missing, children⟩ := node
  obtain rfl : kind = .identifier := bare
  rfl

/-- A name that a type declares once means its own constant exactly when no rival has another value. Rivals are constants
of types that are neither the type itself nor inside it; only their simple names stand in the way. -/
theorem own_constant_unless_rival (root : Node) (history : History) (site : Site) (identifier : Node)
    (inner outer : List Site) (type : Site) (earlier later : List Recording) (own : Recording)
    (read : History.ofRoot root = .ok history)
    (bare : identifier.kind = .identifier)
    (around : typesAround site.above = inner ++ type :: outer)
    (recorded : history.recorded = earlier ++ own :: later)
    (named : own.name = identifier.text)
    (held : own.holder? = some type)
    (once : ∀ other ∈ earlier ++ later, other.name = own.name ->
      ∀ holder ∈ type :: inner, other.holder? ≠ some holder) :
    let rival := rival? history.recorded earlier (passed inner type) own
    Constants.ofRoot root = .ok history.constants ∧
    history.constants.value? (owners site.above) identifier = .ok (some (.string (rival.getD own).value)) ∧
    (history.constants.value? (owners site.above) identifier = .ok (some (.string own.value)) ↔
      ∀ other, rival = some other -> other.value = own.value) ∧
    (∀ other, rival = some other ->
      other.name = own.name ∧ ∀ holder ∈ type :: inner, other.holder? ≠ some holder) ∧
    (rival = none ↔ ∀ other ∈ history.recorded, other.name = own.name ->
      other.owner ∉ passed inner type ∧ (other ∈ earlier -> other.owner ≠ type.simpleName)) := by
  intro rival
  have reached := History.reached_of_ofRoot read
  have declares := isTypeDeclaration_of_mem site.above type (by rw [around]; simp)
  have member : own ∈ history.recorded := by rw [recorded]; simp
  have owned := reached.owner_eq own member type held declares
  have sub : earlier ⊆ history.recorded := by rw [recorded]; exact List.subset_append_left _ _
  have value : history.constants.value? (owners site.above) identifier =
      .ok (some (.string (rival.getD own).value)) := by
    have source := source?_of_types inner outer type earlier later own owned
    rw [← recorded, ← around, ← owners_eq] at source
    rw [Constants.value?_identifier _ _ _ bare, Constants.nameValue, ← named,
      (Agrees.of_reached reached).lookup?_eq, source]
    rfl
  refine ⟨?_, value, ?_, ?_, ?_⟩
  · rw [constants_eq, read]
    rfl
  · rw [value]
    cases rival with
    | none => simp
    | some other => simp
  · intro other found
    obtain ⟨present, same, filed⟩ := mem_of_rival? sub found
    refine ⟨same, once other ?_ same⟩
    rw [recorded, List.mem_append, List.mem_cons] at present
    rcases present with before | rfl | after
    · exact List.mem_append_left _ before
    · -- The constant itself is not asked for on the way, and the earlier ones are not held by its type.
      exfalso
      rcases filed with inside | ⟨before, -⟩
      · rw [owned] at inside
        exact not_mem_passed inner type inside
      · exact once other (List.mem_append_left _ before) rfl type List.mem_cons_self held
    · exact List.mem_append_right _ after
  · rw [← owned]
    exact rival?_eq_none sub

section Namesakes

open Sketch

variable (left right : Text)

def leftMembers : List Node :=
  [constant ['P'] (quoted (some .value) ['/', 'a'])]

def rightMembers : List Node :=
  [constant ['P'] (quoted (some .value) ['/', 'b']), classOf ['I'] [method ['m']]]

def twoTypes : Node :=
  file [classOf ['A'] [classOf left leftMembers], classOf ['B'] [classOf right rightMembers]]

def leftType : Site :=
  ⟨0, classOf left leftMembers, within 0 ['A'] [classOf left leftMembers] [(0, twoTypes left right)]⟩

def rightType : Site :=
  ⟨0, classOf right rightMembers, within 1 ['B'] [classOf right rightMembers] [(0, twoTypes left right)]⟩

def rightMethod : Site :=
  ⟨0, method ['m'], within 1 ['I'] [method ['m']] ((1, body rightMembers) :: (rightType left right).trail)⟩

def leftRecording : Recording :=
  { declarator := declared 0 ['P'] (quoted (some .value) ['/', 'a'])
      ((1, body leftMembers) :: (leftType left right).trail) left [['A']]
    value := ['/', 'a'] }

def rightRecording : Recording :=
  { declarator := declared 0 ['P'] (quoted (some .value) ['/', 'b'])
      ((1, body rightMembers) :: (rightType left right).trail) right [['B']]
    value := ['/', 'b'] }

def twoTypesRead (ofTypes : List (Text × List (Text × Text))) : History :=
  { constants := { ofTypes := ofTypes, ofFile := [(['P'], none)] }
    recorded := [leftRecording left right, rightRecording left right] }

end Namesakes

open Sketch

theorem own_constant_of_distinct_types :
    let history := twoTypesRead ['X'] ['Y'] [(['X'], [(['P'], ['/', 'a'])]), (['Y'], [(['P'], ['/', 'b'])])]
    History.ofRoot (twoTypes ['X'] ['Y']) = .ok history ∧
    (rightRecording ['X'] ['Y']).holder? = some (rightType ['X'] ['Y']) ∧
    (leftRecording ['X'] ['Y']).holder? = some (leftType ['X'] ['Y']) ∧
    history.constants.value? (owners (rightMethod ['X'] ['Y']).above) (bare none ['P']) =
      .ok (some (.string ['/', 'b'])) := by
  intro history
  let inner : Site := ⟨1, classOf ['I'] [method ['m']], (1, body rightMembers) :: (rightType ['X'] ['Y']).trail⟩
  let outer : Site := ⟨1, classOf ['B'] [classOf ['Y'] rightMembers], [(0, twoTypes ['X'] ['Y'])]⟩
  have once : ∀ other ∈ [leftRecording ['X'] ['Y']] ++ [], other.name = (rightRecording ['X'] ['Y']).name ->
      ∀ holder ∈ [rightType ['X'] ['Y'], inner], other.holder? ≠ some holder := by
    intro other member _ holder around held
    obtain rfl : other = leftRecording ['X'] ['Y'] := by simpa using member
    have address : (leftType ['X'] ['Y']).address = holder.address := congrArg Site.address (Option.some.inj held)
    simp only [List.mem_cons, List.not_mem_nil, or_false] at around
    rcases around with rfl | rfl
    · exact absurd address (by decide)
    · exact absurd address (by decide)
  have read := own_constant_unless_rival (twoTypes ['X'] ['Y']) history (rightMethod ['X'] ['Y']) (bare none ['P'])
    [inner] [outer] (rightType ['X'] ['Y']) [leftRecording ['X'] ['Y']] [] (rightRecording ['X'] ['Y'])
    rfl rfl rfl rfl rfl rfl once
  have unrivalled : rival? history.recorded [leftRecording ['X'] ['Y']] (passed [inner] (rightType ['X'] ['Y']))
      (rightRecording ['X'] ['Y']) = none := by rfl
  refine ⟨rfl, rfl, rfl, ?_⟩
  apply read.2.2.1.mpr
  intro other found
  rw [unrivalled] at found
  exact absurd found (by simp)

theorem own_constant_hidden_by_namesake :
    let history := twoTypesRead ['X'] ['X'] [(['X'], [(['P'], ['/', 'a'])])]
    let site := rightMethod ['X'] ['X']
    let own := rightRecording ['X'] ['X']
    History.ofRoot (twoTypes ['X'] ['X']) = .ok history ∧
    Constants.ofRoot (twoTypes ['X'] ['X']) = .ok history.constants ∧
    site ∈ sites (twoTypes ['X'] ['X']) ∧ site.declaresMethod = true ∧
    rightType ['X'] ['X'] ∈ typesAround site.above ∧
    own ∈ history.recorded ∧ own.holder? = some (rightType ['X'] ['X']) ∧
    (∀ other ∈ history.recorded, ∀ holder ∈ typesAround site.above, other.holder? = some holder -> other = own) ∧
    own.name = (bare none ['P']).text ∧ (leftRecording ['X'] ['X']).value ≠ own.value ∧
    history.constants.value? (owners site.above) (bare none ['P']) =
      .ok (some (.string (leftRecording ['X'] ['X']).value)) := by
  intro history site own
  have listed : (sites (twoTypes ['X'] ['X']))[28]? = some site := by rfl
  have around : (typesAround site.above)[1]? = some (rightType ['X'] ['X']) := by rfl
  have elsewhere : (leftType ['X'] ['X']).address ∉ (typesAround site.above).map Site.address := by decide
  refine ⟨rfl, rfl, List.mem_of_getElem? listed, rfl, List.mem_of_getElem? around, ?_, rfl, ?_, rfl, by decide, rfl⟩
  · exact List.mem_cons_of_mem _ List.mem_cons_self
  · intro other member holder inside held
    rcases List.mem_cons.mp member with rfl | last
    · have same : (leftType ['X'] ['X']).address = holder.address := congrArg Site.address (Option.some.inj held)
      rw [same] at elsewhere
      exact absurd (List.mem_map_of_mem inside) elsewhere
    · exact List.mem_singleton.mp last

end RouteAtlas
