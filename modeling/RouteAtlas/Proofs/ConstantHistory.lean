import RouteAtlas.Proofs.Sketch

/-!
The constants of a file as the history of what was recorded.

`events` lists, in preorder, the moments at which the tables may change, and a `History` keeps everything recorded next
to the tables. Main statement: at every moment the tables say what `Agrees` reads off the recordings
(`tables_follow_recordings`).
-/

set_option autoImplicit false

namespace RouteAtlas

namespace Trail

/-- The names of the types on a trail that hold constants, innermost first. An anonymous type has the empty name. -/
def holders : Trail -> List Text
  | [] => []
  | (_, node) :: above =>
    if node.kind.isTypeDeclaration then node.textAt .name :: holders above
    else if node.kind.isAnonymousBody (kind? above) then [] :: holders above
    else holders above

theorem holders_cons (position : Nat) (node : Node) (above : Trail) :
    holders ((position, node) :: above) = Constants.ownersInside (kind? above) (holders above) node :=
  rfl

def holder? : Trail -> Option Site
  | [] => none
  | (position, node) :: above =>
    if node.kind.isTypeDeclaration || node.kind.isAnonymousBody (kind? above) then some ⟨position, node, above⟩
    else holder? above

end Trail

open Trail

structure Declarator where
  field : Site
  index : Nat
  node : Node
  owner : Text
  outer : List Text

namespace Declarator

def name (declarator : Declarator) : Text :=
  declarator.node.textAt .name

def key (declarator : Declarator) : List Nat × Nat :=
  (declarator.field.address, declarator.index)

def value? (declarator : Declarator) (constants : Constants) : Except LiteralError (Option Text) :=
  match declarator.node.child? .value with
  | none => .ok none
  | some initializer =>
    (constants.value? (declarator.owner :: declarator.outer) initializer).map fun value => value.bind Value.string?

end Declarator

namespace Sketch

def declared (position : Nat) (name : Text) (initializer : Node) (above : Trail) (owner : Text) (outer : List Text) :
    Declarator :=
  { field := ⟨position, constant name initializer, above⟩
    index := 0
    node := declarator name initializer
    owner := owner
    outer := outer }

end Sketch

inductive Event where
  | opens (owner : Text)
  | declares (declarator : Declarator)

namespace Site

def declaresField (site : Site) : Bool :=
  site.node.kind.isField && !site.above.any fun step => step.2.kind.isField

def declarators (site : Site) : List Declarator :=
  match holders site.above with
  | [] => []
  | owner :: outer =>
    if site.node.kind = .constantDeclaration || site.node.isFinal then
      (site.node.childrenAt .declarator).zipIdx.map fun declarator =>
        { field := site, index := declarator.2, node := declarator.1, owner := owner, outer := outer }
    else []

def events (site : Site) : List Event :=
  match holders site.above with
  | [] => []
  | owner :: _ =>
    if site.node.kind = .constantDeclaration || site.node.isFinal then
      .opens owner :: site.declarators.map .declares
    else []

end Site

def fields (root : Node) : List Site :=
  (sites root).filter Site.declaresField

def events (root : Node) : List Event :=
  (fields root).flatMap Site.events

def declarators (root : Node) : List Declarator :=
  (fields root).flatMap Site.declarators

structure Recording where
  declarator : Declarator
  value : Text

namespace Recording

def owner (recording : Recording) : Text :=
  recording.declarator.owner

def name (recording : Recording) : Text :=
  recording.declarator.name

end Recording

/-- The tables at some moment, and everything that has been recorded so far. -/
structure History where
  constants : Constants
  recorded : List Recording

namespace History

def start : History :=
  { constants := Constants.empty, recorded := [] }

def record (history : History) (declarator : Declarator) : Option Text -> History
  | none => history
  | some value =>
    { constants := history.constants.record declarator.owner declarator.name value
      recorded := history.recorded ++ [{ declarator := declarator, value := value }] }

def next (history : History) : Event -> Except LiteralError History
  | .opens owner => .ok { history with constants := history.constants.declareType owner }
  | .declares declarator => (declarator.value? history.constants).map (history.record declarator)

def ofRoot (root : Node) : Except LiteralError History :=
  (events root).foldlM next start

def Reached (root : Node) (history : History) : Prop :=
  ∃ before after, events root = before ++ after ∧ before.foldlM next start = .ok history

end History

namespace History

theorem next_cases {before after : History} {event : Event} (step : before.next event = .ok after) :
    (∃ owner, event = .opens owner ∧ after = { before with constants := before.constants.declareType owner }) ∨
    (∃ declarator, event = .declares declarator ∧ declarator.value? before.constants = .ok none ∧ after = before) ∨
    (∃ declarator text, event = .declares declarator ∧ declarator.value? before.constants = .ok (some text) ∧
      after = before.record declarator (some text)) := by
  cases event with
  | opens owner => exact .inl ⟨owner, rfl, (Except.ok.inj step).symm⟩
  | declares declarator =>
    simp only [next] at step
    cases evaluated : declarator.value? before.constants with
    | error reason => simp [evaluated, Except.map] at step
    | ok value =>
      obtain rfl : before.record declarator value = after := by simpa [evaluated, Except.map] using step
      cases value with
      | none => exact .inr (.inl ⟨declarator, rfl, evaluated, rfl⟩)
      | some text => exact .inr (.inr ⟨declarator, text, rfl, evaluated, rfl⟩)

theorem foldlM_cons (event : Event) (rest : List Event) (history : History) :
    (event :: rest).foldlM next history = (history.next event).bind fun after => rest.foldlM next after :=
  List.foldlM_cons

theorem foldlM_append (first second : List Event) (history : History) :
    (first ++ second).foldlM next history =
      (first.foldlM next history).bind fun after => second.foldlM next after :=
  List.foldlM_append

theorem run_nil {before after : History} (steps : ([] : List Event).foldlM next before = .ok after) :
    after = before :=
  (Except.ok.inj steps).symm

theorem run_cons {event : Event} {rest : List Event} {before after : History}
    (steps : (event :: rest).foldlM next before = .ok after) :
    ∃ between, before.next event = .ok between ∧ rest.foldlM next between = .ok after := by
  rw [foldlM_cons] at steps
  cases step : before.next event with
  | error reason => simp [step, Except.bind] at steps
  | ok between => exact ⟨between, rfl, by simpa [step, Except.bind] using steps⟩

end History

def firstOf (recorded : List Recording) (owner name : Text) : Option Recording :=
  recorded.find? fun recording => recording.owner = owner && recording.name = name

def allOf (recorded : List Recording) (name : Text) : List Recording :=
  recorded.filter fun recording => recording.name = name

def fileEntry (recorded : List Recording) (name : Text) : Option (Option Text) :=
  match allOf recorded name with
  | [] => none
  | [only] => some (some only.value)
  | _ => some none

/-- The recording that a bare name is read from: the first one for the innermost type that has any, or the only one. -/
def source? (recorded : List Recording) (owners : List Text) (name : Text) : Option Recording :=
  match owners with
  | [] =>
    match allOf recorded name with
    | [only] => some only
    | _ => none
  | owner :: outer => (firstOf recorded owner name).or (source? recorded outer name)

structure Agrees (constants : Constants) (recorded : List Recording) : Prop where
  ofType : ∀ owner name, constants.inType? owner name = (firstOf recorded owner name).map Recording.value
  ofFile : ∀ name, constants.ofFile.lookup name = fileEntry recorded name

namespace Constants

theorem inType?_declareType (constants : Constants) (type owner name : Text) :
    (constants.declareType type).inType? owner name = constants.inType? owner name := by
  by_cases same : owner = type
  · subst same
    simp only [inType?, declareType, lookup_alter_self, Option.bind_some]
    cases constants.ofTypes.lookup owner <;> rfl
  · simp only [inType?, declareType, lookup_alter_of_ne _ _ _ _ same]

theorem inType?_record (constants : Constants) (type label value owner name : Text) :
    (constants.record type label value).inType? owner name =
      if owner = type ∧ name = label then some ((constants.inType? owner name).getD value)
      else constants.inType? owner name := by
  by_cases sameType : owner = type
  · subst sameType
    by_cases sameName : name = label
    · subst sameName
      simp only [inType?, record, lookup_alter_self, Option.bind_some, and_self, if_true]
      cases constants.ofTypes.lookup owner <;> rfl
    · simp only [inType?, record, lookup_alter_self, Option.bind_some, lookup_alter_of_ne _ _ _ _ sameName, sameName,
        and_false, if_false]
      cases constants.ofTypes.lookup owner <;> rfl
  · simp only [inType?, record, lookup_alter_of_ne _ _ _ _ sameType, sameType, false_and, if_false]

theorem lookup_ofFile_record (constants : Constants) (type label value name : Text) :
    (constants.record type label value).ofFile.lookup name =
      if name = label then some (if (constants.ofFile.lookup name).isSome then none else some value)
      else constants.ofFile.lookup name := by
  by_cases same : name = label
  · subst same
    simp [record, lookup_alter_self]
  · simp [record, lookup_alter_of_ne _ _ _ _ same, same]

end Constants

theorem firstOf_append (first second : List Recording) (owner name : Text) :
    firstOf (first ++ second) owner name = (firstOf first owner name).or (firstOf second owner name) := by
  simp [firstOf, List.find?_append]

theorem allOf_append (first second : List Recording) (name : Text) :
    allOf (first ++ second) name = allOf first name ++ allOf second name := by
  simp [allOf]

theorem mem_allOf (recorded : List Recording) (name : Text) (recording : Recording) :
    recording ∈ allOf recorded name ↔ recording ∈ recorded ∧ recording.name = name := by
  simp [allOf]

namespace Agrees

theorem start : Agrees Constants.empty [] := by
  constructor
  · intro owner name
    rfl
  · intro name
    rfl

theorem declareType {constants : Constants} {recorded : List Recording} (agrees : Agrees constants recorded)
    (type : Text) : Agrees (constants.declareType type) recorded := by
  constructor
  · intro owner name
    rw [Constants.inType?_declareType, agrees.ofType]
  · exact agrees.ofFile

theorem record {constants : Constants} {recorded : List Recording} (agrees : Agrees constants recorded)
    (recording : Recording) :
    Agrees (constants.record recording.owner recording.name recording.value) (recorded ++ [recording]) := by
  constructor
  · intro owner name
    rw [Constants.inType?_record, agrees.ofType, firstOf_append]
    by_cases same : owner = recording.owner ∧ name = recording.name
    · obtain ⟨rfl, rfl⟩ := same
      have found : firstOf [recording] recording.owner recording.name = some recording := by simp [firstOf]
      rw [found]
      cases firstOf recorded recording.owner recording.name <;> simp
    · have absent : firstOf [recording] owner name = none := by
        simp only [firstOf, List.find?_singleton]
        rw [if_neg]
        simp only [Bool.and_eq_true, decide_eq_true_eq]
        rintro ⟨rfl, rfl⟩
        exact same ⟨rfl, rfl⟩
      rw [absent, if_neg same, Option.or_none]
  · intro name
    rw [Constants.lookup_ofFile_record, agrees.ofFile, fileEntry, fileEntry, allOf_append]
    by_cases same : name = recording.name
    · have found : allOf [recording] name = [recording] := by simp [allOf, same]
      rw [found, if_pos same]
      -- One recording gives a value, and every further one withdraws it.
      cases allOf recorded name with
      | nil => rfl
      | cons first rest => cases rest <;> rfl
    · have absent : allOf [recording] name = [] := by simp [allOf, Ne.symm same]
      rw [absent, if_neg same, List.append_nil]

theorem next {before after : History} {event : Event} (agrees : Agrees before.constants before.recorded)
    (step : before.next event = .ok after) : Agrees after.constants after.recorded := by
  rcases History.next_cases step with ⟨owner, -, rfl⟩ | ⟨declarator, -, -, rfl⟩ | ⟨declarator, text, -, -, rfl⟩
  · exact agrees.declareType owner
  · exact agrees
  · exact agrees.record { declarator := declarator, value := text }

theorem run (events : List Event) (before after : History) (agrees : Agrees before.constants before.recorded)
    (steps : events.foldlM History.next before = .ok after) : Agrees after.constants after.recorded := by
  induction events generalizing before with
  | nil =>
    obtain rfl := History.run_nil steps
    exact agrees
  | cons event rest ih =>
    obtain ⟨between, step, later⟩ := History.run_cons steps
    exact ih between (agrees.next step) later

theorem of_reached {root : Node} {history : History} (reached : History.Reached root history) :
    Agrees history.constants history.recorded := by
  obtain ⟨before, after, -, steps⟩ := reached
  exact run before .start history start steps

end Agrees

namespace History

theorem recordDeclarator_eq (declarator : Declarator) (history : History) :
    Constants.recordDeclarator declarator.owner declarator.outer history.constants declarator.node =
      (history.next (.declares declarator)).map constants := by
  simp only [Constants.recordDeclarator, next, Declarator.value?]
  cases declarator.node.child? .value with
  | none => rfl
  | some initializer =>
    cases evaluated : history.constants.value? (declarator.owner :: declarator.outer) initializer with
    | error reason => simp [evaluated, bind, Except.bind, Except.map]
    | ok value =>
      cases text : value.bind Value.string? <;>
        simp [evaluated, text, bind, Except.bind, Except.map, pure, Except.pure, record, Declarator.name]

theorem foldlM_declarators (site : Site) (owner : Text) (outer : List Text) (nodes : List Node) (start : Nat)
    (history : History) :
    nodes.foldlM (Constants.recordDeclarator owner outer) history.constants =
      (((nodes.zipIdx start).map fun declarator => Event.declares
        { field := site, index := declarator.2, node := declarator.1, owner := owner, outer := outer }).foldlM next
          history).map constants := by
  induction nodes generalizing start history with
  | nil => rfl
  | cons node rest ih =>
    have first := recordDeclarator_eq ⟨site, start, node, owner, outer⟩ history
    rw [List.foldlM_cons, List.zipIdx_cons, List.map_cons, foldlM_cons, first]
    cases history.next (.declares ⟨site, start, node, owner, outer⟩) with
    | error reason => rfl
    | ok after => exact ih (start + 1) after

theorem recordField_eq (site : Site) (history : History) :
    Constants.recordField (holders site.above) history.constants site.node =
      (site.events.foldlM next history).map constants := by
  simp only [Constants.recordField, Site.events, Site.declarators]
  cases holders site.above with
  | nil => rfl
  | cons owner outer =>
    dsimp only
    split
    · rw [foldlM_cons, List.map_map]
      exact foldlM_declarators site owner outer (site.node.childrenAt .declarator) 0
        { history with constants := history.constants.declareType owner }
    · rfl

end History

def eventsOf (listed : List Site) : List Event :=
  (listed.filter Site.declaresField).flatMap Site.events

theorem eventsOf_cons (site : Site) (rest : List Site) :
    eventsOf (site :: rest) = (if site.declaresField then site.events else []) ++ eventsOf rest := by
  cases declares : site.declaresField <;> simp [eventsOf, declares]

theorem eventsOf_append (first second : List Site) : eventsOf (first ++ second) = eventsOf first ++ eventsOf second := by
  simp [eventsOf]

theorem eventsOf_inside_field (here : Site) (children : List Node) (field : here.node.kind.isField = true) :
    eventsOf (Site.preorderAmong here.trail 0 children) = [] := by
  have none : (Site.preorderAmong here.trail 0 children).filter Site.declaresField = [] := by
    rw [List.filter_eq_nil_iff]
    intro site member declares
    have inside := Site.above_suffix_of_mem_among here.trail 0 site children member
    have around : (here.position, here.node) ∈ site.above := inside.subset List.mem_cons_self
    simp only [Site.declaresField, Bool.and_eq_true, Bool.not_eq_true', List.any_eq_false] at declares
    exact declares.2 _ around field
  simp [eventsOf, none]

mutual

theorem collect_eq (above : Trail) (position : Nat) (history : History)
    (outside : (above.any fun step => step.2.kind.isField) = false) :
    (node : Node) -> Constants.collect (kind? above) (holders above) history.constants node =
      ((eventsOf (Site.preorder above position node)).foldlM History.next history).map History.constants
  | ⟨kind, text, line, named, field, missing, children⟩ => by
    let here : Site := ⟨position, ⟨kind, text, line, named, field, missing, children⟩, above⟩
    rw [Constants.collect]
    cases isField : kind.isField with
    | true =>
      have declares : here.declaresField = true := by simp [Site.declaresField, here, isField, outside]
      have told : eventsOf (Site.preorder above position here.node) = here.events := by
        rw [Site.preorder_eq, eventsOf_cons, if_pos declares]
        exact (congrArg (here.events ++ ·) (eventsOf_inside_field here children isField)).trans (List.append_nil _)
      rw [told, if_pos rfl]
      exact History.recordField_eq here history
    | false =>
      have plain : here.declaresField = false := by simp [Site.declaresField, here, isField]
      have told : eventsOf (Site.preorder above position here.node) =
          eventsOf (Site.preorderAmong here.trail 0 children) := by
        rw [Site.preorder_eq, eventsOf_cons, if_neg (by rw [plain]; exact Bool.false_ne_true)]
        rfl
      have inner := collectAll_eq here.trail kind rfl 0 history (by simp [Site.trail, here, isField, outside]) children
      rw [Site.trail, holders_cons] at inner
      rw [told, if_neg Bool.false_ne_true]
      exact inner

theorem collectAll_eq (above : Trail) (parent : Kind) (around : kind? above = parent) (start : Nat) (history : History)
    (outside : (above.any fun step => step.2.kind.isField) = false) :
    (children : List Node) -> Constants.collectAll parent (holders above) history.constants children =
      ((eventsOf (Site.preorderAmong above start children)).foldlM History.next history).map History.constants
  | [] => rfl
  | node :: rest => by
    rw [Site.preorderAmong, eventsOf_append, History.foldlM_append, Constants.collectAll]
    cases named : node.named with
    | false =>
      exact collectAll_eq above parent around (start + 1) history outside rest
    | true =>
      have first := collect_eq above start history outside node
      rw [around] at first
      simp only [if_true, first]
      cases (eventsOf (Site.preorder above start node)).foldlM History.next history with
      | error reason => rfl
      | ok after => exact collectAll_eq above parent around (start + 1) after outside rest

end

theorem constants_eq (root : Node) : Constants.ofRoot root = (History.ofRoot root).map History.constants :=
  collect_eq [] 0 History.start rfl root

theorem constants_of_history {root : Node} {history : History} (read : History.ofRoot root = .ok history) :
    Constants.ofRoot root = .ok history.constants := by
  rw [constants_eq, read]
  rfl

theorem firstOf_eq_some {recorded : List Recording} {owner name : Text} {recording : Recording}
    (found : firstOf recorded owner name = some recording) :
    recording ∈ recorded ∧ recording.owner = owner ∧ recording.name = name := by
  have chosen := List.find?_some found
  simp only [Bool.and_eq_true, decide_eq_true_eq] at chosen
  exact ⟨List.mem_of_find?_eq_some found, chosen⟩

theorem firstOf_eq_none {recorded : List Recording} {owner name : Text} :
    firstOf recorded owner name = none ↔
      ∀ recording ∈ recorded, recording.name = name -> recording.owner ≠ owner := by
  simp only [firstOf, List.find?_eq_none, Bool.and_eq_true, decide_eq_true_eq]
  constructor
  · intro unseen recording member named owned
    exact unseen recording member ⟨owned, named⟩
  · rintro apart recording member ⟨owned, named⟩
    exact apart recording member named owned

def innermost? (recorded : List Recording) (owners : List Text) (name : Text) : Option Recording :=
  owners.findSome? fun owner => firstOf recorded owner name

theorem innermost?_eq_none {recorded : List Recording} {owners : List Text} {name : Text} :
    innermost? recorded owners name = none ↔
      ∀ recording ∈ recorded, recording.name = name -> recording.owner ∉ owners := by
  simp only [innermost?, List.findSome?_eq_none_iff, firstOf_eq_none]
  constructor
  · intro apart recording member named inside
    exact apart _ inside recording member named rfl
  · rintro apart owner inside recording member named rfl
    exact apart recording member named inside

theorem innermost?_eq_some {recorded : List Recording} {owners : List Text} {name : Text} {recording : Recording}
    (found : innermost? recorded owners name = some recording) :
    recording ∈ recorded ∧ recording.owner ∈ owners ∧ recording.name = name := by
  obtain ⟨owner, asked, first⟩ := List.exists_of_findSome?_eq_some found
  obtain ⟨member, rfl, named⟩ := firstOf_eq_some first
  exact ⟨member, asked, named⟩

theorem source?_append (recorded : List Recording) (inner outer : List Text) (name : Text) :
    source? recorded (inner ++ outer) name =
      (innermost? recorded inner name).or (source? recorded outer name) := by
  induction inner with
  | nil => rfl
  | cons owner rest ih =>
    rw [List.cons_append, source?, ih, innermost?, innermost?, List.findSome?_cons]
    cases firstOf recorded owner name <;> rfl

theorem source?_eq (recorded : List Recording) (owners : List Text) (name : Text) :
    source? recorded owners name = (innermost? recorded owners name).or (source? recorded [] name) := by
  have asked := source?_append recorded owners [] name
  rwa [List.append_nil] at asked

namespace Agrees

variable {constants : Constants} {recorded : List Recording}

theorem lookup?_eq (agrees : Agrees constants recorded) (owners : List Text) (name : Text) :
    constants.lookup? owners name = (source? recorded owners name).map Recording.value := by
  induction owners with
  | nil =>
    rw [Constants.lookup?, Constants.inFile?, agrees.ofFile, fileEntry, source?]
    cases allOf recorded name with
    | nil => rfl
    | cons first rest => cases rest <;> rfl
  | cons owner outer ih =>
    rw [Constants.lookup?, ih, agrees.ofType, source?]
    cases firstOf recorded owner name <;> rfl

theorem only_type (agrees : Agrees constants recorded) (name value : Text)
    (known : constants.ofFile.lookup name = some (some value)) :
    ∃ owner, constants.inType? owner name = some value ∧
      ∀ other, (constants.inType? other name).isSome = true -> other = owner := by
  rw [agrees.ofFile, fileEntry] at known
  split at known
  · simp at known
  · next only all =>
    obtain rfl : only.value = value := by simpa using known
    have member : only ∈ allOf recorded name := by rw [all]; exact List.mem_cons_self
    obtain ⟨present, named⟩ := (mem_allOf recorded name only).mp member
    have unique : ∀ owner recording, firstOf recorded owner name = some recording -> recording = only := by
      intro owner recording found
      obtain ⟨inside, -, same⟩ := firstOf_eq_some found
      have listed := (mem_allOf recorded name recording).mpr ⟨inside, same⟩
      rw [all] at listed
      exact List.mem_singleton.mp listed
    refine ⟨only.owner, ?_, ?_⟩
    · rw [agrees.ofType]
      cases found : firstOf recorded only.owner name with
      | none =>
        have absent := List.find?_eq_none.mp found only present
        simp [named] at absent
      | some recording => rw [unique _ recording found, Option.map_some]
    · intro other has
      rw [agrees.ofType, Option.isSome_map] at has
      obtain ⟨recording, found⟩ := Option.isSome_iff_exists.mp has
      rw [← unique other recording found]
      exact (firstOf_eq_some found).2.1.symm
  · simp at known

theorem known_in_file (agrees : Agrees constants recorded) (owner name : Text)
    (has : (constants.inType? owner name).isSome = true) : (constants.ofFile.lookup name).isSome = true := by
  rw [agrees.ofType, Option.isSome_map] at has
  obtain ⟨recording, found⟩ := Option.isSome_iff_exists.mp has
  obtain ⟨present, -, named⟩ := firstOf_eq_some found
  have member := (mem_allOf recorded name recording).mpr ⟨present, named⟩
  rw [agrees.ofFile, fileEntry]
  cases all : allOf recorded name with
  | nil => simp [all] at member
  | cons first rest => cases rest <;> rfl

end Agrees

namespace History

def declared (events : List Event) : List Declarator :=
  events.filterMap fun event =>
    match event with
    | .opens _ => none
    | .declares declarator => some declarator

theorem next_recorded {before after : History} {event : Event} (step : before.next event = .ok after) :
    ∃ more, after.recorded = before.recorded ++ more ∧
      (more.map Recording.declarator).Sublist (declared [event]) := by
  rcases next_cases step with ⟨owner, rfl, rfl⟩ | ⟨declarator, rfl, -, rfl⟩ | ⟨declarator, text, rfl, -, rfl⟩
  · exact ⟨[], by simp, by simp⟩
  · exact ⟨[], by simp, by simp⟩
  · exact ⟨[{ declarator := declarator, value := text }], rfl, by simp [declared]⟩

theorem run_recorded (events : List Event) (before after : History)
    (steps : events.foldlM next before = .ok after) :
    ∃ more, after.recorded = before.recorded ++ more ∧
      (more.map Recording.declarator).Sublist (declared events) := by
  induction events generalizing before with
  | nil =>
    obtain rfl := run_nil steps
    exact ⟨[], by simp, by simp⟩
  | cons event rest ih =>
    obtain ⟨between, step, remaining⟩ := run_cons steps
    obtain ⟨own, first, ownOrder⟩ := next_recorded step
    obtain ⟨more, later, order⟩ := ih between remaining
    refine ⟨own ++ more, ?_, ?_⟩
    · rw [later, first, List.append_assoc]
    · rw [List.map_append, show event :: rest = [event] ++ rest from rfl, declared, List.filterMap_append]
      exact ownOrder.append order

def Makes (events : List Event) (before : History) (earlier : List Recording) (own : Recording) : Prop :=
  ∃ first second between, events = first ++ .declares own.declarator :: second ∧
    first.foldlM next before = .ok between ∧ between.recorded = before.recorded ++ earlier ∧
    own.declarator.value? between.constants = .ok (some own.value)

theorem Makes.cons {event : Event} {rest : List Event} {before between : History} {passed earlier : List Recording}
    {own : Recording} (step : before.next event = .ok between)
    (same : between.recorded = before.recorded ++ passed) (makes : Makes rest between earlier own) :
    Makes (event :: rest) before (passed ++ earlier) own := by
  obtain ⟨first, second, moment, split, run, known, value⟩ := makes
  refine ⟨event :: first, second, moment, by rw [split, List.cons_append], ?_, ?_, value⟩
  · rw [foldlM_cons, step]
    exact run
  · rw [known, same, List.append_assoc]

theorem run_makes (events : List Event) (before after : History) (earlier later : List Recording) (own : Recording)
    (steps : events.foldlM next before = .ok after)
    (recorded : after.recorded = before.recorded ++ (earlier ++ own :: later)) :
    Makes events before earlier own := by
  induction events generalizing before earlier with
  | nil =>
    obtain rfl := run_nil steps
    simp at recorded
  | cons event rest ih =>
    obtain ⟨between, step, remaining⟩ := run_cons steps
    rcases next_cases step with ⟨owner, rfl, rfl⟩ | ⟨declarator, rfl, -, rfl⟩ | ⟨declarator, text, rfl, value, rfl⟩
    · exact Makes.cons step (List.append_nil _).symm (ih _ earlier remaining recorded)
    · exact Makes.cons step (List.append_nil _).symm (ih _ earlier remaining recorded)
    · -- The first of the recordings is the one of this step.
      obtain ⟨more, same, -⟩ := run_recorded rest _ after remaining
      rw [same, record, List.append_assoc] at recorded
      have order := List.append_cancel_left recorded
      cases earlier with
      | nil =>
        obtain ⟨rfl, -⟩ := List.cons.inj order
        exact ⟨[], rest, before, rfl, rfl, by simp, value⟩
      | cons passed others =>
        obtain ⟨rfl, tail⟩ := List.cons.inj order
        obtain rfl : more = others ++ own :: later := tail
        exact Makes.cons step rfl (ih _ others remaining same)

theorem declared_events (root : Node) : declared (events root) = declarators root := by
  have site (here : Site) : declared here.events = here.declarators := by
    simp only [Site.events, Site.declarators]
    cases holders here.above with
    | nil => rfl
    | cons owner outer =>
      dsimp only
      split
      · rw [List.map_map, declared, List.filterMap_cons, List.filterMap_map]
        exact congrFun List.filterMap_eq_map _
      · rfl
  simp only [declared, events, declarators, List.filterMap_flatMap] at site ⊢
  simp only [site]

theorem reached_of_ofRoot {root : Node} {history : History} (read : ofRoot root = .ok history) : Reached root history :=
  ⟨events root, [], by simp, read⟩

theorem Reached.final {root : Node} {history final : History} (reached : Reached root history)
    (finished : ofRoot root = .ok final) : history.recorded <+: final.recorded := by
  obtain ⟨before, after, split, steps⟩ := reached
  rw [ofRoot, split, foldlM_append, steps] at finished
  obtain ⟨more, same, -⟩ := run_recorded after history final finished
  exact ⟨more, same.symm⟩

theorem Reached.declarators {root : Node} {history : History} (reached : Reached root history) :
    (history.recorded.map Recording.declarator).Sublist (declarators root) := by
  obtain ⟨before, after, split, steps⟩ := reached
  obtain ⟨more, same, order⟩ := run_recorded before start history steps
  obtain rfl : history.recorded = more := same
  rw [← declared_events, split, declared, List.filterMap_append]
  exact order.trans (List.sublist_append_left _ _)

end History

/-- At every moment of the walk that fills the tables, they say exactly what the recordings so far say: a type knows the
first value of a name, the file the only one, and none after a second. -/
theorem tables_follow_recordings (root : Node) :
    Constants.ofRoot root = (History.ofRoot root).map History.constants ∧
    ∀ history, History.Reached root history ->
      (history.recorded.map Recording.declarator).Sublist (declarators root) ∧
      (∀ final, History.ofRoot root = .ok final -> history.recorded <+: final.recorded) ∧
      (∀ owner name, history.constants.inType? owner name =
        (firstOf history.recorded owner name).map Recording.value) ∧
      (∀ name, history.constants.ofFile.lookup name = fileEntry history.recorded name) ∧
      (∀ name value, history.constants.ofFile.lookup name = some (some value) ->
        ∃ owner, history.constants.inType? owner name = some value ∧
          ∀ other, (history.constants.inType? other name).isSome = true -> other = owner) ∧
      (∀ owner name, (history.constants.inType? owner name).isSome = true ->
        (history.constants.ofFile.lookup name).isSome = true) ∧
      (∀ owners name, history.constants.lookup? owners name =
        (source? history.recorded owners name).map Recording.value) := by
  refine ⟨constants_eq root, ?_⟩
  intro history reached
  have agrees := Agrees.of_reached reached
  exact ⟨reached.declarators, fun final finished => reached.final finished, agrees.ofType, agrees.ofFile,
    agrees.only_type, agrees.known_in_file, agrees.lookup?_eq⟩

namespace Sketch

def constantTypes : Node :=
  file [
    classOf ['A'] [
      constant ['P'] (quoted (some .value) "/a"),
      constant ['Q'] (sum (bare (some .left) ['P']) (quoted (some .right) "/q")),
      branch .objectCreation none [body [constant ['R'] (quoted (some .value) "/r")]]],
    classOf ['B'] [constant ['P'] (quoted (some .value) "/b")],
    classOf ['A'] [constant ['Q'] (quoted (some .value) "/c")]]

end Sketch

open Sketch in
theorem tables_of_constant_types :
    let recorded : List (Text × Text × Text) :=
      [(['A'], ['P'], "/a"), (['A'], ['Q'], "/a/q"), ([], ['R'], "/r"), (['B'], ['P'], "/b"), (['A'], ['Q'], "/c")]
    let tables : Constants := {
      ofTypes := [(['A'], [(['P'], "/a"), (['Q'], "/a/q")]), ([], [(['R'], "/r")]), (['B'], [(['P'], "/b")])]
      ofFile := [(['P'], none), (['Q'], none), (['R'], some "/r")] }
    ∃ history, History.Reached constantTypes history ∧ Constants.ofRoot constantTypes = .ok tables ∧
      history.recorded.map (fun recording => (recording.owner, recording.name, recording.value)) = recorded ∧
      (∀ owner name, tables.inType? owner name = (firstOf history.recorded owner name).map Recording.value) ∧
      ∀ name, tables.ofFile.lookup name = fileEntry history.recorded name := by
  intro recorded tables
  obtain ⟨same, moments⟩ := tables_follow_recordings constantTypes
  have told : (History.ofRoot constantTypes).map (fun history =>
      (history.recorded.map (fun recording => (recording.owner, recording.name, recording.value)),
        history.constants)) = .ok (recorded, tables) :=
    rfl
  cases read : History.ofRoot constantTypes with
  | error reason => simp [read, Except.map] at told
  | ok history =>
    rw [read] at told same
    obtain ⟨listed, filled⟩ := Prod.mk.inj (Except.ok.inj told)
    have reached := History.reached_of_ofRoot read
    obtain ⟨-, -, ofType, ofFile, -⟩ := moments history reached
    rw [filled] at ofType ofFile
    exact ⟨history, reached, same.trans (congrArg Except.ok filled), listed, ofType, ofFile⟩

end RouteAtlas
