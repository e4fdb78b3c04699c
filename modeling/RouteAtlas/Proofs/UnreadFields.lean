import Mathlib.Data.List.Nodup
import RouteAtlas.Proofs.MethodListing
import RouteAtlas.Proofs.NameResolution
import RouteAtlas.Proofs.Reevaluation

set_option autoImplicit false

namespace RouteAtlas

open Trail

def namedTypes (root : Node) : List Site :=
  (sites root).filter fun site => site.node.kind.isTypeDeclaration

/-- Types are told apart by their simple names, and each of them has one. -/
structure PlainScopes (root : Node) : Prop where
  unlike : ((namedTypes root).map Site.simpleName).Nodup
  noBodies : ∀ site ∈ sites root, site.node.kind.isAnonymousBody (kind? site.above) = false

def DeclaresField (root : Node) (type : Site) (name : Text) : Prop :=
  ∃ field ∈ sites root, field.node.kind.isField = true ∧ (typesAround field.above).head? = some type ∧
    ∃ declarator ∈ field.node.childrenAt .declarator, declarator.textAt .name = name

def declaringAddresses (root : Node) (name : Text) : List (List Nat) :=
  ((sites root).filter fun field => field.node.kind.isField &&
    (field.node.childrenAt .declarator).any fun declarator => declarator.textAt .name = name).filterMap fun field =>
      (typesAround field.above).head?.map Site.address

theorem DeclaresField.address_mem {root : Node} {type : Site} {name : Text} (declares : DeclaresField root type name) :
    type.address ∈ declaringAddresses root name := by
  obtain ⟨field, member, isField, around, declarator, child, named⟩ := declares
  refine List.mem_filterMap.mpr ⟨field, List.mem_filter.mpr ⟨member, ?_⟩, by rw [around]; rfl⟩
  rw [isField, Bool.true_and, List.any_eq_true]
  exact ⟨declarator, child, decide_eq_true named⟩

namespace Trail

theorem suffix_of_mem_typesAround (trail : Trail) (type : Site) (around : type ∈ typesAround trail) :
    type.trail <:+ trail := by
  induction trail with
  | nil => simp [typesAround] at around
  | cons step above ih =>
    simp only [typesAround] at around
    split at around
    · rcases List.mem_cons.mp around with rfl | outside
      · exact List.suffix_rfl
      · exact (ih outside).trans (List.suffix_cons _ _)
    · exact (ih around).trans (List.suffix_cons _ _)

theorem holders_eq_typesAround (trail : Trail)
    (noBodies : ∀ site : Site, site.trail <:+ trail -> site.node.kind.isAnonymousBody (kind? site.above) = false) :
    holders trail = (typesAround trail).map Site.simpleName ∧ holder? trail = (typesAround trail).head? := by
  induction trail with
  | nil => exact ⟨rfl, rfl⟩
  | cons step above ih =>
    have plain : step.2.kind.isAnonymousBody (kind? above) = false := noBodies ⟨step.1, step.2, above⟩ List.suffix_rfl
    obtain ⟨names, first⟩ := ih fun site inside => noBodies site (inside.trans (List.suffix_cons _ _))
    -- Only an anonymous body could hold constants without being a named type.
    cases type : step.2.kind.isTypeDeclaration with
    | true => simp [holders, holder?, typesAround, type, names, Site.simpleName]
    | false => simp [holders, holder?, typesAround, type, plain, names, first]

end Trail

theorem Site.mem_declarators {site : Site} {declarator : Declarator} (member : declarator ∈ site.declarators) :
    declarator.field = site ∧ declarator.node ∈ site.node.childrenAt .declarator := by
  simp only [Site.declarators] at member
  cases around : holders site.above with
  | nil => simp [around] at member
  | cons owner outer =>
    simp only [around] at member
    split at member
    · obtain ⟨indexed, listed, rfl⟩ := List.mem_map.mp member
      exact ⟨rfl, List.fst_mem_of_mem_zipIdx listed⟩
    · simp at member

namespace PlainScopes

variable {root : Node} {history : History}

theorem mem_namedTypes {site : Site} (member : site ∈ sites root) (type : Site)
    (around : type ∈ typesAround site.above) : type ∈ namedTypes root :=
  List.mem_filter.mpr ⟨Site.mem_sites_of_suffix member (suffix_of_mem_typesAround site.above type around),
    isTypeDeclaration_of_mem site.above type around⟩

theorem holder_of_recording (scopes : PlainScopes root) (reached : History.Reached root history) (recording : Recording)
    (member : recording ∈ history.recorded) :
    ∃ type ∈ namedTypes root, recording.holder? = some type ∧ recording.owner = type.simpleName ∧
      DeclaresField root type recording.name := by
  have declared := reached.declarators.subset (List.mem_map_of_mem member)
  obtain ⟨field, listed, inside⟩ := List.mem_flatMap.mp declared
  obtain ⟨same, child⟩ := Site.mem_declarators inside
  obtain ⟨present, declares⟩ := List.mem_filter.mp listed
  obtain ⟨names, first⟩ := holders_eq_typesAround field.above fun site suffix =>
    scopes.noBodies site (Site.mem_sites_of_suffix present suffix)
  have filed := field.holders_of_mem_declarators recording.declarator inside
  rw [same, names] at filed
  obtain ⟨type, outer, around, owner, -⟩ := List.map_eq_cons_iff.mp filed
  have nearest : (typesAround field.above).head? = some type := by rw [around]; rfl
  refine ⟨type, mem_namedTypes present type (by simp [around]), ?_, owner.symm, field, present, ?_, nearest,
    recording.declarator.node, child, rfl⟩
  · rw [Recording.holder?, same, first, nearest]
  · simp only [Site.declaresField, Bool.and_eq_true] at declares
    exact declares.1

theorem owner_eq_iff (scopes : PlainScopes root) (reached : History.Reached root history) (recording : Recording)
    (member : recording ∈ history.recorded) (type : Site) (named : type ∈ namedTypes root) :
    recording.owner = type.simpleName ↔ recording.holder? = some type := by
  obtain ⟨holder, present, holds, owner, -⟩ := scopes.holder_of_recording reached recording member
  rw [owner, holds, Option.some.injEq]
  constructor
  · exact List.inj_on_of_nodup_map scopes.unlike present named
  · exact congrArg Site.simpleName

theorem owner_mem_owners_iff (scopes : PlainScopes root) (reached : History.Reached root history)
    (recording : Recording) (member : recording ∈ history.recorded) {site : Site} (present : site ∈ sites root) :
    recording.owner ∈ owners site.above ↔ ∃ type ∈ typesAround site.above, recording.holder? = some type := by
  rw [owners_eq, List.mem_map]
  apply exists_congr
  intro type
  apply and_congr_right
  intro around
  rw [eq_comm]
  exact scopes.owner_eq_iff reached recording member type (mem_namedTypes present type around)

end PlainScopes

theorem History.Reached.had_value {root : Node} {history : History} (reached : History.Reached root history)
    (recording : Recording) (member : recording ∈ history.recorded) :
    ∃ moment, History.Reached root moment ∧
      recording.declarator.value? moment.constants = .ok (some recording.value) := by
  obtain ⟨before, after, split, steps⟩ := reached
  obtain ⟨earlier, later, recorded⟩ := List.append_of_mem member
  obtain ⟨first, second, moment, order, run, -, value⟩ :=
    History.run_makes before History.start history earlier later recording steps recorded
  exact ⟨moment, ⟨first, _, by rw [split, order, List.append_assoc], run⟩, value⟩

theorem source?_isSome_iff (recorded : List Recording) (owners : List Text) (name : Text) :
    (source? recorded owners name).isSome = true ↔
      (∃ recording ∈ allOf recorded name, recording.owner ∈ owners) ∨ (allOf recorded name).length = 1 := by
  rw [source?_eq, Option.isSome_or, Bool.or_eq_true]
  apply or_congr
  · rw [Option.isSome_iff_ne_none, ne_eq, innermost?_eq_none]
    simp only [not_forall, not_not, mem_allOf, exists_prop, and_assoc]
  · rw [source?]
    rcases allOf recorded name with _ | ⟨only, _ | ⟨second, others⟩⟩ <;> simp

namespace Agrees

variable {constants : Constants} {recorded : List Recording}

theorem string_iff (agrees : Agrees constants recorded) (owners : List Text) (identifier : Node) (text : Text)
    (bare : identifier.kind = .identifier) :
    constants.value? owners identifier = .ok (some (.string text)) ↔
      (source? recorded owners identifier.text).map Recording.value = some text := by
  rw [Constants.value?_identifier _ _ _ bare, Constants.nameValue, agrees.lookup?_eq]
  cases source? recorded owners identifier.text <;> simp

end Agrees

section Names

variable {root : Node} {history : History} (scopes : PlainScopes root) (reached : History.Reached root history)
  {site : Site} (present : site ∈ sites root) (identifier : Node) (bare : identifier.kind = .identifier)
include scopes reached

theorem declares_of_recording (name : Text) (recording : Recording) (member : recording ∈ allOf history.recorded name) :
    ∃ type, recording.holder? = some type ∧ DeclaresField root type name := by
  obtain ⟨inside, named⟩ := (mem_allOf _ _ _).mp member
  obtain ⟨type, -, holds, -, declared⟩ := scopes.holder_of_recording reached recording inside
  exact ⟨type, holds, named ▸ declared⟩

theorem holder?_ne_of_undeclared (name : Text) (type : Site) (absent : ¬ DeclaresField root type name)
    (recording : Recording) (member : recording ∈ allOf history.recorded name) : recording.holder? ≠ some type := by
  intro holds
  obtain ⟨holder, held, declared⟩ := declares_of_recording scopes reached name recording member
  obtain rfl := Option.some.inj (held.symm.trans holds)
  exact absent declared

theorem unique_declarer_iff (name : Text) (only : Recording) (single : allOf history.recorded name = [only]) :
    (∃ type, DeclaresField root type name ∧ ∀ other, DeclaresField root other name -> other = type) ↔
      ∀ type, DeclaresField root type name -> ∃ recording ∈ allOf history.recorded name,
        recording.holder? = some type := by
  have member : only ∈ allOf history.recorded name := single ▸ List.mem_cons_self
  obtain ⟨holder, holds, declared⟩ := declares_of_recording scopes reached name only member
  constructor
  · rintro ⟨type, -, unique⟩ other another
    refine ⟨only, member, ?_⟩
    rw [holds, unique holder declared, unique other another]
  · intro all
    refine ⟨holder, declared, ?_⟩
    intro other another
    obtain ⟨recording, listed, held⟩ := all other another
    rw [single, List.mem_singleton] at listed
    exact Option.some.inj (held.symm.trans (listed ▸ holds))

include present bare

theorem known_iff_recorded :
    (∃ text, history.constants.value? (owners site.above) identifier = .ok (some (.string text))) ↔
      (∃ recording ∈ allOf history.recorded identifier.text, ∃ type ∈ typesAround site.above,
        recording.holder? = some type) ∨ (allOf history.recorded identifier.text).length = 1 := by
  have known : (∃ text, history.constants.value? (owners site.above) identifier = .ok (some (.string text))) ↔
      (source? history.recorded (owners site.above) identifier.text).isSome = true := by
    simp only [(Agrees.of_reached reached).string_iff _ _ _ bare, ← Option.isSome_iff_exists, Option.isSome_map]
  rw [known, source?_isSome_iff]
  apply or_congr_left
  apply exists_congr
  intro recording
  apply and_congr_right
  intro member
  exact scopes.owner_mem_owners_iff reached recording ((mem_allOf _ _ _).mp member).1 present

theorem string_of_unrecorded
    (unrecorded : ∀ recording ∈ allOf history.recorded identifier.text, ∀ type ∈ typesAround site.above,
      recording.holder? ≠ some type) (text : Text) :
    history.constants.value? (owners site.above) identifier = .ok (some (.string text)) ↔
      ∃ only, allOf history.recorded identifier.text = [only] ∧ only.value = text := by
  -- No type around has recorded the name, so it is asked for in the whole file.
  have nowhere : innermost? history.recorded (owners site.above) identifier.text = none := by
    rw [innermost?_eq_none]
    intro recording member named owned
    obtain ⟨type, around, holds⟩ := (scopes.owner_mem_owners_iff reached recording member present).mp owned
    exact unrecorded recording ((mem_allOf _ _ _).mpr ⟨member, named⟩) type around holds
  rw [(Agrees.of_reached reached).string_iff _ _ _ bare, source?_eq, nowhere, Option.none_or, Option.map_eq_some_iff]
  simp only [source?_nil_eq_some]

end Names

/-- A type that declares a name without recording it does not hide the name: it still means the constant of a type
further out, or else the only one of the file. Where no type around declares the name, it means the only one recorded,
and no other type declares it exactly if every declaration of it has been recorded. -/
theorem borrowed_iff_recorded_elsewhere (root : Node) (history : History) (site : Site) (identifier : Node)
    (read : History.ofRoot root = .ok history) (scopes : PlainScopes root) (present : site ∈ sites root)
    (bare : identifier.kind = .identifier) :
    let name := identifier.text
    let found := allOf history.recorded name
    let value := history.constants.value? (owners site.above) identifier
    Constants.ofRoot root = .ok history.constants ∧
    (∀ recording ∈ found, ∃ type, recording.holder? = some type ∧ DeclaresField root type name ∧
      ∃ moment, History.Reached root moment ∧
        recording.declarator.value? moment.constants = .ok (some recording.value)) ∧
    (∀ inner type outer, typesAround site.above = inner ++ type :: outer ->
      (∀ other ∈ inner, ¬ DeclaresField root other name) -> DeclaresField root type name ->
      (∀ recording ∈ found, recording.holder? ≠ some type) ->
      ((∃ text, value = .ok (some (.string text))) ↔
        (∃ recording ∈ found, ∃ other ∈ outer, recording.holder? = some other) ∨ found.length = 1)) ∧
    ((∀ type ∈ typesAround site.above, ¬ DeclaresField root type name) ->
      (∀ text, value = .ok (some (.string text)) ↔ ∃ only, found = [only] ∧ only.value = text) ∧
      ∀ text, value = .ok (some (.string text)) ->
        ((∃ type, DeclaresField root type name ∧ ∀ other, DeclaresField root other name -> other = type) ↔
          ∀ type, DeclaresField root type name -> ∃ recording ∈ found, recording.holder? = some type)) := by
  intro name found value
  have reached := History.reached_of_ofRoot read
  refine ⟨?_, ?_, ?_, ?_⟩
  · rw [constants_eq, read]
    rfl
  · intro recording member
    obtain ⟨type, holds, declared⟩ := declares_of_recording scopes reached name recording member
    exact ⟨type, holds, declared, reached.had_value recording ((mem_allOf _ _ _).mp member).1⟩
  · intro inner type outer around unseen _ unread
    -- The types further in have no field of the name, and this one has not recorded it; only those further out remain.
    have nowhere : ∀ other ∈ inner ++ [type], ∀ recording ∈ found, recording.holder? ≠ some other := by
      intro other further recording member
      rcases List.mem_append.mp further with inside | last
      · exact holder?_ne_of_undeclared scopes reached name other (unseen other inside) recording member
      · exact List.mem_singleton.mp last ▸ unread recording member
    rw [known_iff_recorded scopes reached present identifier bare, around, List.append_cons]
    apply or_congr_left
    apply exists_congr
    intro recording
    apply and_congr_right
    intro member
    constructor
    · rintro ⟨other, inside, holds⟩
      rcases List.mem_append.mp inside with further | outside
      · exact absurd holds (nowhere other further recording member)
      · exact ⟨other, outside, holds⟩
    · rintro ⟨other, outside, holds⟩
      exact ⟨other, List.mem_append_right _ outside, holds⟩
  · intro absent
    have unrecorded : ∀ recording ∈ found, ∀ type ∈ typesAround site.above, recording.holder? ≠ some type := by
      intro recording member type around
      exact holder?_ne_of_undeclared scopes reached name type (absent type around) recording member
    have string := string_of_unrecorded scopes reached present identifier bare unrecorded
    refine ⟨string, ?_⟩
    intro text borrowed
    obtain ⟨only, single, -⟩ := (string text).mp borrowed
    exact unique_declarer_iff scopes reached name only single

section Unread

open Sketch

variable (label : Text)

def knownMembers : List Node :=
  [constant ['P'] (quoted (some .value) ['/', 'a'])]

def unreadInitializer : Node :=
  -- A string and a number.
  sum (quoted (some .left) ['/', 'b']) (leaf (.other "decimal_integer_literal") (some .right) ['1'])

def unreadMembers : List Node :=
  [constant ['P'] unreadInitializer, method ['m']]

def labelledMembers : List Node :=
  [constant label (quoted (some .value) ['/', 'c'])]

def fourTypes : Node :=
  file [classOf ['A'] knownMembers, classOf ['B'] unreadMembers, classOf ['C'] (labelledMembers label),
    classOf ['D'] [method ['n']]]

def knownType : Site :=
  ⟨0, classOf ['A'] knownMembers, [(0, fourTypes label)]⟩

def unreadType : Site :=
  ⟨1, classOf ['B'] unreadMembers, [(0, fourTypes label)]⟩

def unreadField : Site :=
  ⟨0, constant ['P'] unreadInitializer, within 1 ['B'] unreadMembers [(0, fourTypes label)]⟩

def unreadMethod : Site :=
  ⟨1, method ['m'], within 1 ['B'] unreadMembers [(0, fourTypes label)]⟩

def strangerMethod : Site :=
  ⟨0, method ['n'], within 3 ['D'] [method ['n']] [(0, fourTypes label)]⟩

def strangerType : Site :=
  ⟨3, classOf ['D'] [method ['n']], [(0, fourTypes label)]⟩

def knownRecording : Recording :=
  { declarator := Sketch.declared 0 ['P'] (quoted (some .value) ['/', 'a'])
      (within 0 ['A'] knownMembers [(0, fourTypes label)]) ['A'] []
    value := ['/', 'a'] }

def labelledRecording : Recording :=
  { declarator := Sketch.declared 0 label (quoted (some .value) ['/', 'c'])
      (within 2 ['C'] (labelledMembers label) [(0, fourTypes label)]) ['C'] []
    value := ['/', 'c'] }

def fourTypesRead (ofFile : List (Text × Option Text)) : History :=
  { constants :=
      { ofTypes := [(['A'], [(['P'], ['/', 'a'])]), (['B'], []), (['C'], [(label, ['/', 'c'])])]
        ofFile := ofFile }
    recorded := [knownRecording label, labelledRecording label] }

end Unread

open Sketch

theorem unread_declared (label : Text) (listed : (sites (fourTypes label))[13]? = some (unreadField label)) :
    DeclaresField (fourTypes label) (unreadType label) ['P'] :=
  ⟨unreadField label, List.mem_of_getElem? listed, rfl, rfl, declarator ['P'] unreadInitializer, List.mem_cons_self,
    rfl⟩

theorem names_not_borrowed :
    let root := fourTypes ['P']
    let history := fourTypesRead ['P'] [(['P'], none)]
    let value := fun site : Site => history.constants.value? (owners site.above) (bare none ['P'])
    History.ofRoot root = .ok history ∧ PlainScopes root ∧
    unreadMethod ['P'] ∈ sites root ∧ strangerMethod ['P'] ∈ sites root ∧
    (¬ ∃ text, value (unreadMethod ['P']) = .ok (some (.string text))) ∧
    ∀ text, value (strangerMethod ['P']) ≠ .ok (some (.string text)) := by
  intro root history value
  have read : History.ofRoot root = .ok history := rfl
  have scopes : PlainScopes root := ⟨by decide +kernel, by decide +kernel⟩
  have first : (sites root)[22]? = some (unreadMethod ['P']) := rfl
  have second : (sites root)[36]? = some (strangerMethod ['P']) := rfl
  have twice : (allOf history.recorded ['P']).length ≠ 1 := by decide
  refine ⟨read, scopes, List.mem_of_getElem? first, List.mem_of_getElem? second, ?_, ?_⟩
  · obtain ⟨-, -, unread, -⟩ := borrowed_iff_recorded_elsewhere root history (unreadMethod ['P']) (bare none ['P'])
      read scopes (List.mem_of_getElem? first) rfl
    have elsewhere : ∀ recording ∈ allOf history.recorded ['P'], recording.holder? ≠ some (unreadType ['P']) := by
      intro recording member holds
      have held : some (unreadType ['P']).address ∈
          (allOf history.recorded ['P']).map fun recording => recording.holder?.map Site.address :=
        List.mem_map.mpr ⟨recording, member, congrArg (Option.map Site.address) holds⟩
      exact absurd held (by decide)
    rw [unread [] (unreadType ['P']) [] rfl (by simp) (unread_declared ['P'] rfl) elsewhere]
    rintro (⟨-, -, other, outside, -⟩ | once)
    · exact absurd outside List.not_mem_nil
    · exact twice once
  · obtain ⟨-, -, -, unnamed⟩ := borrowed_iff_recorded_elsewhere root history (strangerMethod ['P']) (bare none ['P'])
      read scopes (List.mem_of_getElem? second) rfl
    have undeclared : ∀ type ∈ typesAround (strangerMethod ['P']).above, ¬ DeclaresField root type ['P'] := by
      intro type around declares
      obtain rfl : type = strangerType ['P'] := List.mem_singleton.mp around
      exact absurd declares.address_mem (by decide)
    intro text borrowed
    obtain ⟨only, single, -⟩ := ((unnamed undeclared).1 text).mp borrowed
    exact twice (congrArg List.length single)

theorem unread_field_borrows :
    let root := fourTypes ['Q']
    let history := fourTypesRead ['Q'] [(['P'], some ['/', 'a']), (['Q'], some ['/', 'c'])]
    let value := fun site : Site => history.constants.value? (owners site.above) (bare none ['P'])
    Constants.ofRoot root = .ok history.constants ∧ PlainScopes root ∧
    unreadMethod ['Q'] ∈ declared root ∧ (typesAround (unreadMethod ['Q']).above).head? = some (unreadType ['Q']) ∧
    DeclaresField root (unreadType ['Q']) ['P'] ∧
    (∀ constants owners, Constants.value? constants owners unreadInitializer = .ok none) ∧
    value (unreadMethod ['Q']) = .ok (some (.string ['/', 'a'])) ∧
    strangerMethod ['Q'] ∈ declared root ∧
    (∀ type ∈ typesAround (strangerMethod ['Q']).above, ¬ DeclaresField root type ['P']) ∧
    DeclaresField root (knownType ['Q']) ['P'] ∧ knownType ['Q'] ≠ unreadType ['Q'] ∧
    value (strangerMethod ['Q']) = .ok (some (.string ['/', 'a'])) := by
  intro root history value
  have scopes : PlainScopes root := ⟨by decide +kernel, by decide +kernel⟩
  have first : (declared root)[0]? = some (unreadMethod ['Q']) := rfl
  have second : (declared root)[1]? = some (strangerMethod ['Q']) := rfl
  have field : (sites root)[4]? =
    some ⟨0, constant ['P'] (quoted (some .value) ['/', 'a']), within 0 ['A'] knownMembers [(0, root)]⟩ := rfl
  refine ⟨rfl, scopes, List.mem_of_getElem? first, rfl, unread_declared ['Q'] rfl, fun _ _ => rfl, rfl,
    List.mem_of_getElem? second, ?_, ?_, ?_, rfl⟩
  · intro type around declares
    obtain rfl : type = strangerType ['Q'] := List.mem_singleton.mp around
    exact absurd declares.address_mem (by decide)
  · exact ⟨_, List.mem_of_getElem? field, rfl, rfl, _, List.mem_cons_self, rfl⟩
  · intro same
    exact absurd (congrArg Site.address same) (by decide)

end RouteAtlas
