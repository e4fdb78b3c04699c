import RouteAtlas.Proofs.ReadLiterals
import RouteAtlas.Proofs.Sketch
import RouteAtlas.Proofs.TrimmedBodies
import RouteAtlas.Proofs.UnreadFields

set_option autoImplicit false

namespace RouteAtlas

open Trail

def othersThan (body : List Nat) (recorded : List Recording) : List Recording :=
  recorded.filter fun recording => !recording.declarator.field.isFieldOf body

theorem source?_mem {recorded : List Recording} {owners : List Text} {name : Text} {found : Recording}
    (meant : source? recorded owners name = some found) : found ∈ recorded := by
  induction owners with
  | nil =>
    rw [source?_nil_eq_some] at meant
    exact ((mem_allOf recorded name found).mp (meant ▸ List.mem_cons_self)).1
  | cons owner outer ih =>
    rcases Option.or_eq_some_iff.mp meant with first | ⟨-, further⟩
    · exact (firstOf_eq_some first).1
    · exact ih further

theorem firstOf_othersThan_of_none {recorded : List Recording} {owner name : Text} (body : List Nat)
    (unknown : firstOf recorded owner name = none) : firstOf (othersThan body recorded) owner name = none := by
  rw [firstOf_eq_none] at unknown ⊢
  intro recording member
  exact unknown recording (List.mem_filter.mp member).1

theorem firstOf_othersThan_of_some {recorded : List Recording} {owner name : Text} {found : Recording} (body : List Nat)
    (first : firstOf recorded owner name = some found) (other : found.declarator.field.isFieldOf body = false) :
    firstOf (othersThan body recorded) owner name = some found := by
  rw [firstOf, List.find?_eq_some_iff_append] at first
  obtain ⟨fits, before, after, rfl, earlier⟩ := first
  rw [firstOf, List.find?_eq_some_iff_append]
  refine ⟨fits, othersThan body before, othersThan body after, by simp [othersThan, other], ?_⟩
  intro recording member
  exact earlier recording (List.mem_filter.mp member).1

theorem allOf_othersThan (body : List Nat) (recorded : List Recording) (name : Text) :
    allOf (othersThan body recorded) name = othersThan body (allOf recorded name) := by
  rw [allOf, othersThan, othersThan, allOf, List.filter_comm]

theorem source?_othersThan_of_some {recorded : List Recording} {owners : List Text} {name : Text} {found : Recording}
    (body : List Nat) (meant : source? recorded owners name = some found)
    (other : found.declarator.field.isFieldOf body = false) :
    source? (othersThan body recorded) owners name = some found := by
  induction owners with
  | nil =>
    rw [source?_nil_eq_some] at meant ⊢
    rw [allOf_othersThan, meant, othersThan, List.filter_cons_of_pos (by simp [other]), List.filter_nil]
  | cons owner outer ih =>
    rw [source?] at meant ⊢
    cases inside : firstOf recorded owner name with
    | some first =>
      obtain rfl : first = found := by simpa [inside] using meant
      rw [firstOf_othersThan_of_some body inside other, Option.some_or]
    | none =>
      rw [inside, Option.none_or] at meant
      rw [firstOf_othersThan_of_none body inside, Option.none_or, ih meant]

theorem source?_othersThan_of_none {recorded : List Recording} {owners : List Text} {name : Text} (body : List Nat)
    (unknown : source? recorded owners name = none) (only : Recording) :
    source? (othersThan body recorded) owners name = some only ↔ othersThan body (allOf recorded name) = [only] := by
  induction owners with
  | nil => rw [source?_nil_eq_some, allOf_othersThan]
  | cons owner outer ih =>
    rw [source?, Option.or_eq_none_iff] at unknown
    rw [source?, firstOf_othersThan_of_none body unknown.1, Option.none_or, ih unknown.2]

namespace Operand

/-- A name means a field of the body, or it means nothing and would mean the only other constant of its name. -/
def Reveals (body : List Nat) (recorded : List Recording) (owners : List Text) (reference : Operand) : Prop :=
  (∃ found, reference.recording? recorded owners = some found ∧ found.declarator.field.isFieldOf body = true) ∨
  (reference.recording? recorded owners = none ∧
    ∃ name only, reference = .bare name ∧ othersThan body (allOf recorded name) = [only])

variable (body : List Nat) {recorded : List Recording} {owners : List Text}

theorem recording?_othersThan_of_some {reference : Operand} {found : Recording}
    (meant : reference.recording? recorded owners = some found)
    (other : found.declarator.field.isFieldOf body = false) :
    reference.recording? (othersThan body recorded) owners = some found := by
  cases reference with
  | literal text => simp [recording?] at meant
  | bare name => exact source?_othersThan_of_some body meant other
  | dotted source =>
    rw [recording?] at meant ⊢
    obtain ⟨type, parts, first⟩ := Option.bind_eq_some_iff.mp meant
    rw [parts, Option.bind_some]
    exact firstOf_othersThan_of_some body first other

theorem recording?_othersThan_of_none {reference : Operand} (unknown : reference.recording? recorded owners = none)
    (only : Recording) :
    reference.recording? (othersThan body recorded) owners = some only ↔
      ∃ name, reference = .bare name ∧ othersThan body (allOf recorded name) = [only] := by
  cases reference with
  | literal text => simp [recording?]
  | bare name =>
    rw [recording?, source?_othersThan_of_none body unknown]
    simp
  | dotted source =>
    rw [recording?] at unknown ⊢
    cases parts : (Text.lastTwo (Text.split CodePoint.dot (Text.compact source))).1 with
    | none => simp
    | some type =>
      rw [parts, Option.bind_some] at unknown
      simp [firstOf_othersThan_of_none body unknown]

theorem other_of_recording? {reference : Operand} {found : Recording}
    (meant : reference.recording? (othersThan body recorded) owners = some found) :
    found.declarator.field.isFieldOf body = false := by
  have member : found ∈ othersThan body recorded := by
    cases reference with
    | literal text => simp [recording?] at meant
    | bare name => exact source?_mem meant
    | dotted source =>
      obtain ⟨type, parts, first⟩ := Option.bind_eq_some_iff.mp meant
      exact (firstOf_eq_some first).1
  simpa [othersThan] using (List.mem_filter.mp member).2

theorem recording?_othersThan_iff (reference : Operand) :
    reference.recording? (othersThan body recorded) owners = reference.recording? recorded owners ↔
      ¬ reference.Reveals body recorded owners := by
  cases meant : reference.recording? recorded owners with
  | some found =>
    simp only [Reveals, meant, Option.some.injEq, exists_eq_left', reduceCtorEq, false_and, or_false, Bool.not_eq_true]
    exact ⟨other_of_recording? body, recording?_othersThan_of_some body meant⟩
  | none =>
    rw [Option.eq_none_iff_forall_not_mem]
    simp only [Reveals, meant, reduceCtorEq, false_and, exists_false, false_or, true_and, Option.mem_def,
      recording?_othersThan_of_none body meant]
    constructor
    · rintro unknown ⟨name, only, written, single⟩
      exact unknown only ⟨name, written, single⟩
    · rintro hidden only ⟨name, written, single⟩
      exact hidden ⟨name, only, written, single⟩

end Operand

namespace Declarator

def references (declarator : Declarator) : List Operand :=
  (declarator.node.child? .value).elim [] Node.references

theorem value?_congr (first second : Constants) (declarator : Declarator)
    (agree : first.AgreeOn second (declarator.owner :: declarator.outer) (declarator.owner :: declarator.outer)
      declarator.references) : declarator.value? first = declarator.value? second := by
  rw [references] at agree
  rw [value?, value?]
  cases initializer : declarator.node.child? .value with
  | none => rfl
  | some node =>
    rw [initializer] at agree
    simp only [first.value?_congr second _ _ node agree]

structure Kept (body : List Nat) (first second : Declarator) : Prop where
  alike : first.Alike second
  place : Moved body first.field.address second.field.address

end Declarator

inductive Trims (body : List Nat) : List Event -> List Event -> Prop
  | nil : Trims body [] []
  | opens (owner : Text) {events others : List Event} (rest : Trims body events others) :
      Trims body (.opens owner :: events) (.opens owner :: others)
  | declares {first second : Declarator} (shown : first.field.isFieldOf body = false) (kept : first.Kept body second)
      {events others : List Event} (rest : Trims body events others) :
      Trims body (.declares first :: events) (.declares second :: others)
  | opensLess (owner : Text) {events others : List Event} (rest : Trims body events others) :
      Trims body (.opens owner :: events) others
  | declaresLess (declarator : Declarator) (hidden : declarator.field.isFieldOf body = true)
      {events others : List Event} (rest : Trims body events others) :
      Trims body (.declares declarator :: events) others

namespace Trims

variable {body : List Nat}

theorem append {first second later others : List Event} (here : Trims body first second)
    (rest : Trims body later others) : Trims body (first ++ later) (second ++ others) := by
  induction here with
  | nil => exact rest
  | opens owner _ ih => exact .opens owner ih
  | declares shown kept _ ih => exact .declares shown kept ih
  | opensLess owner _ ih => exact .opensLess owner ih
  | declaresLess declarator hidden _ ih => exact .declaresLess declarator hidden ih

theorem hidden {site : Site} (field : site.isFieldOf body = true) : Trims body site.events [] := by
  have declarators (listed : List Declarator) (inside : ∀ declarator ∈ listed, declarator.field = site) :
      Trims body (listed.map .declares) [] := by
    induction listed with
    | nil => exact .nil
    | cons declarator rest ih =>
      obtain ⟨here, later⟩ := List.forall_mem_cons.mp inside
      exact .declaresLess declarator (here ▸ field) (ih later)
  rw [Site.events]
  cases holders site.above with
  | nil => exact .nil
  | cons owner outer =>
    dsimp only
    split
    · exact .opensLess owner (declarators _ fun declarator member => (Site.mem_declarators member).1)
    · exact .nil

theorem kept {site other : Site} (kept : site.Kept body other) (declares : site.node.kind.isField = true)
    (shown : site.isFieldOf body = false) : Trims body site.events other.events := by
  have plain := Node.plain_of_kind (kind? site.above) Kind.isField rfl declares
  have declarators {firsts seconds : List Declarator}
      (alike : List.Forall₂ (fun first second => first.field = site ∧ second.field = other ∧ first.Alike second) firsts
        seconds) : Trims body (firsts.map .declares) (seconds.map .declares) := by
    induction alike with
    | nil => exact .nil
    | cons here _ ih =>
      obtain ⟨left, right, same⟩ := here
      exact .declares (left ▸ shown) ⟨same, by rw [left, right]; exact kept.place⟩ ih
  have below := declarators (kept.alike.declarators declares)
  rw [Site.events, Site.events, ← kept.alike.outside.holders_eq, ← kept.alike.here.kind_eq,
    ← kept.alike.here.isFinal_eq plain]
  cases holders site.above with
  | nil => exact .nil
  | cons owner outer =>
    dsimp only
    split
    · exact .opens owner below
    · exact .nil

theorem fields (listed others : List Site) (declare : ∀ site ∈ listed, site.node.kind.isField = true)
    (kept : List.Forall₂ (Site.Kept body) (listed.filter fun site => !site.isFieldOf body) others) :
    Trims body (listed.flatMap Site.events) (others.flatMap Site.events) := by
  induction listed generalizing others with
  | nil =>
    cases kept
    exact .nil
  | cons site rest ih =>
    obtain ⟨here, later⟩ := List.forall_mem_cons.mp declare
    cases field : site.isFieldOf body with
    | true =>
      rw [List.filter_cons_of_neg (by simp [field])] at kept
      exact (hidden field).append (ih others later kept)
    | false =>
      rw [List.filter_cons_of_pos (by simp [field])] at kept
      cases kept with
      | cons same remaining => exact (Trims.kept same here field).append (ih _ later remaining)

theorem ofRoot (root : Node) (body : List Nat) : Trims body (events root) (events (root.withoutFieldsOf body)) := by
  refine fields (RouteAtlas.fields root) _ ?_ (Site.kept_fields body root)
  intro site member
  have declares := (List.mem_filter.mp member).2
  simp only [Site.declaresField, Bool.and_eq_true] at declares
  exact declares.1

end Trims

def History.Discreet (body : List Nat) (history : History) (events : List Event) : Prop :=
  ∀ before declarator after moment, events = before ++ .declares declarator :: after ->
    before.foldlM History.next history = .ok moment -> declarator.field.isFieldOf body = false ->
    ∀ reference ∈ declarator.references,
      ¬ reference.Reveals body moment.recorded (declarator.owner :: declarator.outer)

structure Recording.Kept (body : List Nat) (first second : Recording) : Prop where
  declarator : first.declarator.Kept body second.declarator
  value : first.value = second.value

structure Mirrors (body : List Nat) (history other : History) : Prop where
  agrees : Agrees history.constants history.recorded
  agree : Agrees other.constants (othersThan body history.recorded)
  recorded : List.Forall₂ (Recording.Kept body) (othersThan body history.recorded) other.recorded

namespace Mirrors

variable {body : List Nat} {history other : History}

theorem agreeOn (mirrors : Mirrors body history other) {owners : List Text} {references : List Operand}
    (discreet : ∀ reference ∈ references, ¬ reference.Reveals body history.recorded owners) :
    history.constants.AgreeOn other.constants owners owners references := by
  intro reference member
  apply mirrors.agrees.meaning_congr mirrors.agree
  exact ((Operand.recording?_othersThan_iff body reference).mpr (discreet reference member)).symm

theorem start (body : List Nat) : Mirrors body .start .start where
  agrees := Agrees.start
  agree := Agrees.start
  recorded := .nil

theorem declareType (mirrors : Mirrors body history other) (owner : Text) :
    Mirrors body { history with constants := history.constants.declareType owner } other where
  agrees := mirrors.agrees.declareType owner
  agree := mirrors.agree
  recorded := mirrors.recorded

theorem hide (mirrors : Mirrors body history other) (declarator : Declarator) (text : Text)
    (hidden : declarator.field.isFieldOf body = true) :
    Mirrors body (history.record declarator (some text)) other := by
  have same : othersThan body (history.record declarator (some text)).recorded = othersThan body history.recorded := by
    simp [othersThan, History.record, hidden]
  exact ⟨mirrors.agrees.record ⟨declarator, text⟩, same ▸ mirrors.agree, same ▸ mirrors.recorded⟩

theorem record (mirrors : Mirrors body history other) {first second : Declarator} (text : Text)
    (shown : first.field.isFieldOf body = false) (kept : first.Kept body second) :
    Mirrors body (history.record first (some text)) (other.record second (some text)) := by
  have longer : othersThan body (history.record first (some text)).recorded =
      othersThan body history.recorded ++ [⟨first, text⟩] := by
    simp [othersThan, History.record, shown]
  -- What the tables of the other history know is written with the names of its own declarator, which are the same.
  refine ⟨mirrors.agrees.record ⟨first, text⟩, ?_, ?_⟩
  · have known := mirrors.agree.record ⟨first, text⟩
    rw [longer]
    simp only [Recording.owner, Recording.name, kept.alike.owner, kept.alike.name] at known
    exact known
  · rw [longer]
    exact List.rel_append mirrors.recorded (.cons ⟨kept, rfl⟩ .nil)

end Mirrors

theorem History.Discreet.next {body : List Nat} {history after : History} {event : Event} {rest : List Event}
    (discreet : history.Discreet body (event :: rest)) (step : history.next event = .ok after) :
    after.Discreet body rest := by
  intro before declarator later moment split run
  apply discreet (event :: before) declarator later moment (congrArg (event :: ·) split)
  rw [foldlM_cons, step]
  exact run

theorem Mirrors.run {body : List Nat} {events others : List Event} (trims : Trims body events others)
    {history other final : History} (mirrors : Mirrors body history other) (discreet : history.Discreet body events)
    (steps : events.foldlM History.next history = .ok final) :
    ∃ after, others.foldlM History.next other = .ok after ∧ Mirrors body final after := by
  induction trims generalizing history other with
  | nil =>
    obtain rfl := History.run_nil steps
    exact ⟨other, rfl, mirrors⟩
  | opens owner _ ih =>
    obtain ⟨between, step, later⟩ := History.run_cons steps
    have remaining := discreet.next step
    obtain rfl := Except.ok.inj step
    rw [History.foldlM_cons]
    have opened := mirrors.declareType owner
    exact ih ⟨opened.agrees, opened.agree.declareType owner, opened.recorded⟩ remaining later
  | @declares first second shown kept events others _ ih =>
    obtain ⟨between, step, later⟩ := History.run_cons steps
    have remaining := discreet.next step
    -- The initializer reveals no field of the body at this moment, so it has the same value in both runs.
    have unrevealed := discreet [] first events history rfl rfl shown
    have value : second.value? other.constants = first.value? history.constants := by
      rw [first.value?_congr _ _ (mirrors.agreeOn unrevealed), kept.alike.value]
    rw [History.foldlM_cons, History.next, value]
    rcases History.next_cases step with ⟨owner, same, -⟩ | ⟨declarator, same, unread, rfl⟩ |
      ⟨declarator, text, same, read, rfl⟩
    · simp at same
    · obtain rfl := Event.declares.inj same
      rw [unread]
      exact ih mirrors remaining later
    · obtain rfl := Event.declares.inj same
      rw [read]
      exact ih (mirrors.record text shown kept) remaining later
  | opensLess owner _ ih =>
    obtain ⟨between, step, later⟩ := History.run_cons steps
    have remaining := discreet.next step
    obtain rfl := Except.ok.inj step
    exact ih (mirrors.declareType owner) remaining later
  | declaresLess declarator hidden _ ih =>
    obtain ⟨between, step, later⟩ := History.run_cons steps
    have remaining := discreet.next step
    rcases History.next_cases step with ⟨owner, same, -⟩ | ⟨declarator, same, unread, rfl⟩ |
      ⟨declarator, text, same, read, rfl⟩
    · simp at same
    · exact ih mirrors remaining later
    · obtain rfl := Event.declares.inj same
      exact ih (mirrors.hide _ text hidden) remaining later

theorem Mirrors.annotations_eq {body : List Nat} {history other : History} (mirrors : Mirrors body history other)
    (file left : FileContext) (known : file.constants = history.constants) (rest : left.constants = other.constants)
    (site : Site)
    (discreet : ∀ reference ∈ site.node.annotationReferences,
      ¬ reference.Reveals body history.recorded (owners site.above)) :
    site.annotations left = site.annotations file := by
  rw [Site.annotations, Site.annotations, known, rest]
  exact (AnnotationUse.ofDeclaration_congr _ _ _ _ _ (mirrors.agreeOn discreet)).symm

theorem Moved.eq_of_outside {body address moved : List Nat} (place : Moved body address moved)
    (outside : ¬ body <:+ address ∨ ¬ body <:+ moved) : moved = address := by
  rcases place with same | ⟨inside, still⟩
  · exact same
  · simp [inside, still] at outside

theorem Mirrors.recorded_iff {body : List Nat} {history other : History} (mirrors : Mirrors body history other)
    (key : List Nat × Nat) (value : Text) (outside : ¬ body <:+ key.1) :
    (∃ recording ∈ history.recorded, recording.declarator.key = key ∧ recording.value = value) ↔
      ∃ recording ∈ other.recorded, recording.declarator.key = key ∧ recording.value = value := by
  constructor
  · rintro ⟨recording, member, rfl, rfl⟩
    have shown : recording.declarator.field.isFieldOf body = false := by
      by_contra field
      exact outside (Site.suffix_of_isFieldOf (by simpa using field))
    obtain ⟨second, present, kept⟩ := exists_of_forall₂ mirrors.recorded recording
      (List.mem_filter.mpr ⟨member, by simp [shown]⟩)
    have same := kept.declarator.place.eq_of_outside (.inl outside)
    exact ⟨second, present, Prod.ext same kept.declarator.alike.index.symm, kept.value.symm⟩
  · rintro ⟨recording, member, rfl, rfl⟩
    obtain ⟨first, present, kept⟩ := exists_of_forall₂ mirrors.recorded.flip recording member
    have same := kept.declarator.place.eq_of_outside (.inr outside)
    exact ⟨first, (List.mem_filter.mp present).1, Prod.ext same.symm kept.declarator.alike.index, kept.value⟩

/-- Without the fields of an anonymous body, and unless the initializer of another constant reveals one of them, a file
records the same constants outside the body, and it has the same methods there. An annotation of a method or of the type
around it is read the same way if no name in it reveals them. A name means the same exactly if it does not. -/
theorem body_fields_unseen (root : Node) (body : List Nat) (history : History)
    (read : History.ofRoot root = .ok history) (discreet : History.start.Discreet body (events root)) :
    let rest := root.withoutFieldsOf body
    let reveals := Operand.Reveals body history.recorded
    let file : FileContext := { package := FileReading.packageOf root, constants := history.constants }
    Constants.ofRoot root = .ok history.constants ∧
    ∃ others, History.ofRoot rest = .ok others ∧ Constants.ofRoot rest = .ok others.constants ∧
      let left : FileContext := { package := FileReading.packageOf rest, constants := others.constants }
      (∀ key value, ¬ body <:+ key.1 ->
        ((∃ recording ∈ history.recorded, recording.declarator.key = key ∧ recording.value = value) ↔
          ∃ recording ∈ others.recorded, recording.declarator.key = key ∧ recording.value = value)) ∧
      (∀ site ∈ declared root, ¬ body <:+ site.address -> ∃ other ∈ declared rest, other.address = site.address ∧
        ((∀ reference ∈ site.node.annotationReferences, ¬ reveals (owners site.above) reference) ->
          other.annotations left = site.annotations file) ∧
        ((∀ type, frame? site.above = some type -> type.node.kind.isTypeDeclaration = true ->
            ∀ reference ∈ type.node.annotationReferences, ¬ reveals (owners type.above) reference) ->
          typeAnnotations left other.above = typeAnnotations file site.above)) ∧
      (∀ other ∈ declared rest, ¬ body <:+ other.address -> ∃ site ∈ declared root, site.address = other.address) ∧
      ∀ around element reference, element.reference? = some reference ->
        let meant := reference.recording? history.recorded around
        let remains := reference.recording? (othersThan body history.recorded) around
        history.constants.value? around element =
          .ok (some (meant.elim (.symbol reference.label) fun found => .string found.value)) ∧
        others.constants.value? around element =
          .ok (some (remains.elim (.symbol reference.label) fun found => .string found.value)) ∧
        (remains = meant ↔ ¬ reveals around reference) := by
  intro rest reveals file
  refine ⟨constants_of_history read, ?_⟩
  obtain ⟨others, steps, mirrors⟩ := Mirrors.run (Trims.ofRoot root body) (Mirrors.start body) discreet read
  have kept := Site.kept_declared body root
  refine ⟨others, steps, constants_of_history steps, mirrors.recorded_iff, ?_, ?_, ?_⟩
  · intro site member outside
    have shown : site.isHidden body = false := by
      by_contra hidden
      exact outside (Site.suffix_of_isHidden body (by simpa using hidden))
    obtain ⟨other, present, same⟩ := exists_of_forall₂ kept site (List.mem_filter.mpr ⟨member, by simp [shown]⟩)
    refine ⟨other, present, same.place.eq_of_outside (.inl outside), ?_, ?_⟩
    · intro own
      have declares := (List.mem_filter.mp member).2
      simp only [Site.declaresMethod, Bool.and_eq_true, decide_eq_true_eq] at declares
      have plain := Node.plain_of_ne (kind? site.above) (by simp [declares.1] : site.node.kind ≠ .classBody)
      rw [← same.alike.annotations_eq _ plain]
      exact mirrors.annotations_eq file _ rfl rfl site own
    · intro own
      rw [← same.alike.outside.typeAnnotations_eq, typeAnnotations_eq_frame?, typeAnnotations_eq_frame?]
      cases framed : frame? site.above with
      | none => rfl
      | some type =>
        simp only [Option.elim_some]
        split
        next declares => exact mirrors.annotations_eq file _ rfl rfl type (own type framed declares)
        next => rfl
  · intro other member outside
    obtain ⟨site, present, same⟩ := exists_of_forall₂ kept.flip other member
    exact ⟨site, (List.mem_filter.mp present).1, (same.place.eq_of_outside (.inr outside)).symm⟩
  · intro around element reference written
    exact ⟨mirrors.agrees.value?_reference around element reference written,
      mirrors.agree.value?_reference around element reference written,
      Operand.recording?_othersThan_iff body reference⟩

section Hosting

open Sketch

variable (fields : List Node) (name : Text)

def hostingMembers : List Node :=
  [constant ['Q'] (quoted (some .value) ['/', 'q']),
    branch .methodDeclaration none [bare (some .name) ['o'], branch .objectCreation none [body fields]],
    routed ['m'] [bare none name]]

def hosting : Node :=
  file [classOf ['A'] (hostingMembers fields name)]

def hostingBody : Site :=
  ⟨0, body fields, (1, branch .objectCreation none [body fields]) ::
    (1, branch .methodDeclaration none [bare (some .name) ['o'], branch .objectCreation none [body fields]]) ::
      within 0 ['A'] (hostingMembers fields name) [(0, hosting fields name)]⟩

def hostingMethod : Site :=
  ⟨2, routed ['m'] [bare none name], within 0 ['A'] (hostingMembers fields name) [(0, hosting fields name)]⟩

def hostedField : List Node :=
  [constant ['P'] (quoted (some .value) ['/', 'x'])]

def hostingConstants : Constants :=
  { ofTypes := [(['A'], [(['Q'], ['/', 'q'])]), ([], [(['P'], ['/', 'x'])])]
    ofFile := [(['Q'], some ['/', 'q']), (['P'], some ['/', 'x'])] }

def hostingRead : History :=
  { constants := hostingConstants
    recorded := [
      { declarator := Sketch.declared 0 ['Q'] (quoted (some .value) ['/', 'q'])
          (within 0 ['A'] (hostingMembers hostedField name) [(0, hosting hostedField name)]) ['A'] []
        value := ['/', 'q'] },
      { declarator := Sketch.declared 0 ['P'] (quoted (some .value) ['/', 'x']) (hostingBody hostedField name).trail []
          [['A']]
        value := ['/', 'x'] }] }

end Hosting

open Sketch

theorem other_name_unchanged :
    let root := hosting hostedField ['Q']
    let site := hostingMethod hostedField ['Q']
    let file : FileContext := { package := [], constants := hostingConstants }
    History.ofRoot root = .ok (hostingRead ['Q']) ∧
    site.annotations file = .ok [{ name := ['M'], attributes := [(AnnotationUse.defaultKey, [.string ['/', 'q']])] }] ∧
    ∃ others, History.ofRoot (root.withoutFieldsOf (hostingBody hostedField ['Q']).address) = .ok others ∧
      ∃ other ∈ declared (root.withoutFieldsOf (hostingBody hostedField ['Q']).address),
        other.address = site.address ∧
        other.annotations { package := [], constants := others.constants } = site.annotations file := by
  intro root site file
  have read : History.ofRoot root = .ok (hostingRead ['Q']) := rfl
  have discreet : History.start.Discreet (hostingBody hostedField ['Q']).address (events root) := by
    intro before declarator after moment split _ _ reference member
    have plain : ∀ listed ∈ declarators root, listed.references = [] := by decide +kernel
    have present : declarator ∈ declarators root := by
      rw [← History.declares_mem_events, split]
      simp
    simp [plain declarator present] at member
  obtain ⟨-, others, steps, -, -, methods, -, -⟩ :=
    body_fields_unseen root (hostingBody hostedField ['Q']).address (hostingRead ['Q']) read discreet
  have listed : (declared root)[1]? = some site := rfl
  obtain ⟨other, present, same, own, -⟩ := methods site (List.mem_of_getElem? listed) (by decide +kernel)
  refine ⟨read, rfl, others, steps, other, present, same, own ?_⟩
  intro reference member
  obtain rfl : reference = .bare ['Q'] := by simpa using (show reference ∈ [Operand.bare ['Q']] from member)
  exact (Operand.recording?_othersThan_iff _ _).mp rfl

theorem body_field_leaks :
    let root := hosting hostedField ['P']
    let site := hostingMethod hostedField ['P']
    let body := hostingBody hostedField ['P']
    let rest := root.withoutFieldsOf body.address
    body ∈ sites root ∧ body.node.kind.isAnonymousBody (kind? body.above) = true ∧
    (∀ field ∈ sites root, field.isFieldOf body.address = true ->
      ∀ inner ∈ sites root, field.address <:+ inner.address ->
        inner.node.kind.isTypeDeclaration = false ∧ inner.node.kind.isAnonymousBody (kind? inner.above) = false) ∧
    rest = hosting [] ['P'] ∧
    site ∈ declared root ∧ ¬ body.address <:+ site.address ∧
    ∃ constants others, Constants.ofRoot root = .ok constants ∧ Constants.ofRoot rest = .ok others ∧
      site.annotations { package := [], constants := constants } =
        .ok [{ name := ['M'], attributes := [(AnnotationUse.defaultKey, [.string ['/', 'x']])] }] ∧
      ∃ other ∈ declared rest, other.address = site.address ∧
        other.annotations { package := [], constants := others } =
          .ok [{ name := ['M'], attributes := [(AnnotationUse.defaultKey, [.symbol ['P']])] }] := by
  intro root site body rest
  have inside : (sites root)[13]? = some body := rfl
  have listed : (declared root)[1]? = some site := rfl
  have left : (declared rest)[1]? = some (hostingMethod [] ['P']) := rfl
  exact ⟨List.mem_of_getElem? inside, rfl, by decide +kernel, rfl, List.mem_of_getElem? listed, by decide +kernel, _, _,
    rfl, rfl, rfl, _, List.mem_of_getElem? left, rfl, rfl⟩

end RouteAtlas
