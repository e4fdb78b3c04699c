import RouteAtlas.Proofs.References
import RouteAtlas.Proofs.UnreadFields
import RouteAtlas.Reading.File

set_option autoImplicit false

namespace RouteAtlas

open Trail

namespace Trail

theorem holder?_of_holders (trail : Trail) (owner : Text) (outer : List Text) (held : holders trail = owner :: outer)
    (named : owner ≠ []) :
    ∃ holder, holder? trail = some holder ∧ holder.trail <:+ trail ∧ holder.node.kind.isTypeDeclaration = true ∧
      holder.simpleName = owner := by
  induction trail with
  | nil => simp [holders] at held
  | cons step above ih =>
    obtain ⟨position, node⟩ := step
    simp only [holders] at held
    cases type : node.kind.isTypeDeclaration with
    | true =>
      rw [type, if_pos rfl] at held
      exact ⟨⟨position, node, above⟩, by simp [holder?, type], List.suffix_rfl, type, (List.cons.inj held).1⟩
    | false =>
      rw [type, if_neg Bool.false_ne_true] at held
      cases body : node.kind.isAnonymousBody (kind? above) with
      | true =>
        rw [body, if_pos rfl] at held
        exact absurd (List.cons.inj held).1.symm named
      | false =>
        rw [body, if_neg Bool.false_ne_true] at held
        obtain ⟨holder, holds, inside, declares, label⟩ := ih held
        exact ⟨holder, by simp [holder?, type, body, holds], inside.trans (List.suffix_cons _ _), declares, label⟩

end Trail

theorem History.Reached.holder_of_owner {root : Node} {history : History} (reached : History.Reached root history)
    (recording : Recording) (member : recording ∈ history.recorded) (named : recording.owner ≠ []) :
    ∃ holder ∈ namedTypes root, recording.holder? = some holder ∧ holder.simpleName = recording.owner := by
  have declared := reached.declarators.subset (List.mem_map_of_mem member)
  obtain ⟨field, listed, inside⟩ := List.mem_flatMap.mp declared
  obtain ⟨same, -⟩ := Site.mem_declarators inside
  have filed := field.holders_of_mem_declarators recording.declarator inside
  obtain ⟨holder, holds, around, declares, label⟩ := holder?_of_holders _ _ _ filed named
  refine ⟨holder, List.mem_filter.mpr ⟨?_, declares⟩, holds, label⟩
  rw [same] at around
  exact Site.mem_sites_of_suffix (List.mem_filter.mp listed).1 around

namespace Site

def namesTo (package : Text) (trail : Trail) : List Text :=
  -- The parts of the package, and the types around from the outermost.
  (if package.isEmpty then [] else Text.split CodePoint.dot package) ++ (owners trail).reverse

/-- A type is one that a qualifier leads to, from anywhere further out. -/
def IsNamedBy (package : Text) (qualifier : List Text) (type : Site) : Prop :=
  qualifier <:+ namesTo package type.trail

instance (package : Text) (qualifier : List Text) (type : Site) : Decidable (type.IsNamedBy package qualifier) :=
  inferInstanceAs (Decidable (_ <:+ _))

theorem namesTo_trail (package : Text) (type : Site) (declares : type.node.kind.isTypeDeclaration = true) :
    namesTo package type.trail = namesTo package type.above ++ [type.simpleName] := by
  simp [namesTo, Site.trail, owners, declares, simpleName]

theorem isNamedBy_iff (package : Text) (path : List Text) (type : Site)
    (declares : type.node.kind.isTypeDeclaration = true) :
    type.IsNamedBy package (path ++ [type.simpleName]) ↔ path <:+ namesTo package type.above := by
  rw [IsNamedBy, namesTo_trail package type declares, List.suffix_append_inj_of_length_eq rfl]
  exact and_iff_left rfl

theorem simpleName_of_isNamedBy {package : Text} {path : List Text} {label : Text} {type : Site}
    (declares : type.node.kind.isTypeDeclaration = true) (leads : type.IsNamedBy package (path ++ [label])) :
    type.simpleName = label := by
  rw [IsNamedBy, namesTo_trail package type declares] at leads
  obtain ⟨front, whole⟩ := leads
  rw [← List.append_assoc] at whole
  exact (List.singleton_inj.mp (List.append_inj_right' whole rfl)).symm

end Site

def HeldAsNamed (root : Node) (recorded : List Recording) (qualifier : List Text) (name value : Text) : Prop :=
  ∃ recording ∈ recorded, recording.name = name ∧ recording.value = value ∧
    ∃ holder ∈ namedTypes root, recording.holder? = some holder ∧
      holder.IsNamedBy (FileReading.packageOf root) qualifier

theorem heldAsNamed_iff (root : Node) (recorded : List Recording) (path : List Text) (type name value : Text) :
    HeldAsNamed root recorded (path ++ [type]) name value ↔
      ∃ recording ∈ recorded, recording.name = name ∧ recording.value = value ∧
        ∃ holder ∈ namedTypes root, recording.holder? = some holder ∧ holder.simpleName = type ∧
          path <:+ Site.namesTo (FileReading.packageOf root) holder.above := by
  have fits (holder : Site) (member : holder ∈ namedTypes root) :
      holder.IsNamedBy (FileReading.packageOf root) (path ++ [type]) ↔
        holder.simpleName = type ∧ path <:+ Site.namesTo (FileReading.packageOf root) holder.above := by
    have declares := (List.mem_filter.mp member).2
    constructor
    · intro leads
      obtain rfl := Site.simpleName_of_isNamedBy declares leads
      exact ⟨rfl, (Site.isNamedBy_iff _ path holder declares).mp leads⟩
    · rintro ⟨rfl, inside⟩
      exact (Site.isNamedBy_iff _ path holder declares).mpr inside
  constructor
  · rintro ⟨recording, member, named, same, holder, present, holds, leads⟩
    exact ⟨recording, member, named, same, holder, present, holds, (fits holder present).mp leads⟩
  · rintro ⟨recording, member, named, same, holder, present, holds, leads⟩
    exact ⟨recording, member, named, same, holder, present, holds, (fits holder present).mpr leads⟩

theorem Agrees.value?_dotted {constants : Constants} {recorded : List Recording} (agrees : Agrees constants recorded)
    (owners : List Text) (reference : Node) (path : List Text) (type name : Text)
    (dotted : reference.kind = .fieldAccess ∨ reference.kind = .scopedIdentifier)
    (parts : Text.split CodePoint.dot (Text.compact reference.text) = path ++ [type, name]) :
    constants.value? owners reference =
      .ok (some ((firstOf recorded type name).elim (.symbol name) fun recording => .string recording.value)) := by
  have written : reference.reference? = some (.dotted reference.text) := by
    rcases dotted with kind | kind <;> rw [Node.reference?, kind]
  rw [agrees.value?_reference owners reference _ written, Operand.recording?, Operand.label, parts,
    Text.lastTwo_append]
  rfl

/-- A qualified name means the first constant of its last name that has been recorded for a type of its last qualifier,
or its last name alone. The constant is one of a type that the whole qualifier leads to exactly if the rest of the
qualifier fits what is around the type, or what is around another type of this name with the same value. -/
theorem qualified_name_fits (root : Node) (history : History) (reached : History.Reached root history)
    (owners : List Text) (reference : Node) (path : List Text) (type name : Text)
    (dotted : reference.kind = .fieldAccess ∨ reference.kind = .scopedIdentifier)
    (parts : Text.split CodePoint.dot (Text.compact reference.text) = path ++ [type, name])
    (proper : type ≠ []) :
    let value := history.constants.value? owners reference
    let found := firstOf history.recorded type name
    let fits := fun holder : Site => path <:+ Site.namesTo (FileReading.packageOf root) holder.above
    let held := HeldAsNamed root history.recorded (path ++ [type]) name
    Constants.ofRoot root = (History.ofRoot root).map History.constants ∧
    value = .ok (some (found.elim (.symbol name) fun recording => .string recording.value)) ∧
    (found = none ↔ ∀ recording ∈ history.recorded, recording.name = name -> recording.owner ≠ type) ∧
    (∀ recording, found = some recording ->
      recording ∈ history.recorded ∧ recording.name = name ∧
      ∃ holder ∈ namedTypes root, recording.holder? = some holder ∧ holder.simpleName = type ∧
        (holder.IsNamedBy (FileReading.packageOf root) (path ++ [type]) ↔ fits holder)) ∧
    ((∀ text, value = .ok (some (.string text)) -> held text) ↔
      ∀ recording, found = some recording ->
        ∃ other ∈ history.recorded, other.name = name ∧ other.value = recording.value ∧
          ∃ holder ∈ namedTypes root, other.holder? = some holder ∧ holder.simpleName = type ∧ fits holder) ∧
    ((∀ holder ∈ namedTypes root, holder.simpleName = type -> fits holder) ->
      ∀ text, value = .ok (some (.string text)) -> held text) := by
  intro value found fits held
  have valued : value = .ok (some (found.elim (.symbol name) fun recording => .string recording.value)) :=
    (Agrees.of_reached reached).value?_dotted owners reference path type name dotted parts
  have string (text : Text) : value = .ok (some (.string text)) ↔ found.map Recording.value = some text := by
    rw [valued]
    cases found <;> simp
  have origin (recording : Recording) (first : found = some recording) :
      recording ∈ history.recorded ∧ recording.name = name ∧
      ∃ holder ∈ namedTypes root, recording.holder? = some holder ∧ holder.simpleName = type := by
    obtain ⟨member, owned, named⟩ := firstOf_eq_some first
    obtain ⟨holder, present, holds, label⟩ := reached.holder_of_owner recording member (owned ▸ proper)
    exact ⟨member, named, holder, present, holds, label.trans owned⟩
  have exactly : (∀ text, value = .ok (some (.string text)) -> held text) ↔
      ∀ recording, found = some recording -> held recording.value := by
    constructor
    · intro all recording first
      exact all _ ((string _).mpr (by rw [first]; rfl))
    · intro all text worth
      obtain ⟨recording, first, rfl⟩ := Option.map_eq_some_iff.mp ((string text).mp worth)
      exact all recording first
  refine ⟨constants_eq root, valued, firstOf_eq_none, ?_, ?_, ?_⟩
  · intro recording first
    obtain ⟨member, named, holder, present, holds, label⟩ := origin recording first
    refine ⟨member, named, holder, present, holds, label, ?_⟩
    rw [← label]
    exact Site.isNamedBy_iff _ path holder (List.mem_filter.mp present).2
  · rw [exactly]
    exact forall₂_congr fun recording _ => heldAsNamed_iff root history.recorded path type name recording.value
  · intro around
    rw [exactly]
    intro recording first
    obtain ⟨member, named, holder, present, holds, label⟩ := origin recording first
    exact (heldAsNamed_iff ..).mpr
      ⟨recording, member, named, rfl, holder, present, holds, label, around holder present label⟩

section Foreign

open Sketch

variable (package : Text)

def fullReference : Node :=
  leaf .fieldAccess none (package ++ (['.', 'A', '.', 'P'] : Text))

def heldMembers : List Node :=
  [constant ['P'] (quoted (some .value) ['/', 'a'])]

def usingMembers : List Node :=
  [routed ['m'] [fullReference package]]

def packaged : Node :=
  file [branch .packageDeclaration none [bare none ['p']], classOf ['A'] heldMembers,
    classOf ['B'] (usingMembers package)]

def usingMethod : Site :=
  ⟨0, routed ['m'] [fullReference package], within 2 ['B'] (usingMembers package) [(0, packaged package)]⟩

def heldRecording : Recording :=
  { declarator := Sketch.declared 0 ['P'] (quoted (some .value) ['/', 'a'])
      (within 1 ['A'] heldMembers [(0, packaged package)]) ['A'] []
    value := ['/', 'a'] }

def packagedRead : History :=
  { constants := { ofTypes := [(['A'], [(['P'], ['/', 'a'])])], ofFile := [(['P'], some ['/', 'a'])] }
    recorded := [heldRecording package] }

end Foreign

open Sketch

theorem full_name_of_own_package :
    History.ofRoot (packaged ['p']) = .ok (packagedRead ['p']) ∧
    Text.split CodePoint.dot (Text.compact (fullReference ['p']).text) = ([['p'], ['A'], ['P']] : List Text) ∧
    (packagedRead ['p']).constants.value? [['B']] (fullReference ['p']) = .ok (some (.string ['/', 'a'])) ∧
    HeldAsNamed (packaged ['p']) (packagedRead ['p']).recorded [['p'], ['A']] ['P'] ['/', 'a'] := by
  have read : History.ofRoot (packaged ['p']) = .ok (packagedRead ['p']) := rfl
  obtain ⟨-, -, -, -, -, held⟩ := qualified_name_fits (packaged ['p']) (packagedRead ['p'])
    (History.reached_of_ofRoot read) [['B']] (fullReference ['p']) [['p']] ['A'] ['P'] (.inl rfl) rfl (by decide)
  exact ⟨read, rfl, rfl, held (by decide +kernel) ['/', 'a'] rfl⟩

theorem foreign_name_resolves :
    let root := packaged ['q']
    let history := packagedRead ['q']
    Constants.ofRoot root = .ok history.constants ∧
    usingMethod ['q'] ∈ declared root ∧
    Text.split CodePoint.dot (Text.compact (fullReference ['q']).text) = ([['q'], ['A'], ['P']] : List Text) ∧
    (∀ type ∈ namedTypes root, ¬ type.IsNamedBy (FileReading.packageOf root) [['q'], ['A']]) ∧
    history.constants.value? (owners (usingMethod ['q']).above) (fullReference ['q']) =
      .ok (some (.string ['/', 'a'])) ∧
    (usingMethod ['q']).annotations { package := FileReading.packageOf root, constants := history.constants } =
      .ok [{ name := ['M'], attributes := [(AnnotationUse.defaultKey, [.string ['/', 'a']])] }] := by
  intro root history
  have listed : (declared root)[0]? = some (usingMethod ['q']) := rfl
  exact ⟨rfl, List.mem_of_getElem? listed, rfl, by decide +kernel, rfl, rfl⟩

end RouteAtlas
