import RouteAtlas.Proofs.MethodListing
import RouteAtlas.Proofs.ConstantHistory
import RouteAtlas.Reading.File

set_option autoImplicit false

namespace RouteAtlas

def Succeeds {Error Result : Type} (result : Except Error Result) : Prop :=
  ∃ value, result = .ok value

section Succeeds

variable {Error First Second Item State : Type}

@[simp]
theorem succeeds_ok (value : First) : Succeeds (.ok value : Except Error First) :=
  ⟨value, rfl⟩

@[simp]
theorem not_succeeds_error (reason : Error) : ¬ Succeeds (.error reason : Except Error First) := by
  simp [Succeeds]

@[simp]
theorem succeeds_map (change : First -> Second) (result : Except Error First) :
    Succeeds (result.map change) ↔ Succeeds result := by
  cases result <;> simp [Except.map]

theorem succeeds_bind {first : Except Error First} {next : First -> Except Error Second} {later : Prop}
    (each : ∀ value, first = .ok value -> (Succeeds (next value) ↔ later)) :
    Succeeds (first >>= next) ↔ Succeeds first ∧ later := by
  cases first with
  | error reason =>
    change Succeeds (.error reason : Except Error Second) ↔ _
    simp
  | ok value =>
    change Succeeds (next value) ↔ _
    simp [each value rfl]

theorem succeeds_bind_pure (result : Except Error First) (change : First -> Second) :
    Succeeds (do
      let value <- result
      return change value) ↔ Succeeds result :=
  succeeds_map change result

theorem succeeds_foldlM {step : State -> Item -> Except Error State} {good : Item -> Prop}
    (each : ∀ state item, Succeeds (step state item) ↔ good item) (items : List Item) (state : State) :
    Succeeds (items.foldlM step state) ↔ ∀ item ∈ items, good item := by
  induction items generalizing state with
  | nil => simp [pure, Except.pure]
  | cons item rest ih =>
    rw [List.foldlM_cons, succeeds_bind fun after _ => ih after, each, List.forall_mem_cons]

theorem succeeds_mapM (read : Item -> Except Error First) (items : List Item) :
    Succeeds (items.mapM read) ↔ ∀ item ∈ items, Succeeds (read item) := by
  induction items with
  | nil => simp [pure, Except.pure]
  | cons item rest ih =>
    rw [List.mapM_cons, succeeds_bind, List.forall_mem_cons]
    intro value _
    rw [succeeds_bind_pure, ih]

end Succeeds

namespace Literal

def escapeLength (text : Text) : Nat :=
  match escape text with
  | .ok found => found.length
  | .error _ => 0

def escapesFrom : Nat -> Text -> List Text
  -- What stands behind each backslash that begins an escape; the first argument is that of `unescapeFrom`.
  | _, [] => []
  | taken + 1, _ :: rest => escapesFrom taken rest
  | 0, point :: rest =>
    if point = CodePoint.backslash then rest :: escapesFrom (escapeLength rest) rest else escapesFrom 0 rest

def isFinished (text : Text) : Bool :=
  -- An escape that begins with a `u` goes on with four digits after its last `u`.
  text.head? ≠ some letterU || (Text.fourHexDigits? (text.drop (text.takeWhile (· = letterU)).length)).isSome

def isWhole (raw : Text) : Bool :=
  raw.startsWith blockStart || raw.length < 2 || (escapesFrom 0 (raw.drop 1).dropLast).all isFinished

theorem succeeds_unicodeEscape (text : Text) :
    Succeeds (unicodeEscape text) ↔
      (Text.fourHexDigits? (text.drop (text.takeWhile (· = letterU)).length)).isSome = true := by
  rw [unicodeEscape]
  cases Text.fourHexDigits? (text.drop (text.takeWhile (· = letterU)).length) <;> simp

theorem succeeds_escape (text : Text) : Succeeds (escape text) ↔ isFinished text = true := by
  cases text with
  | nil => simp [escape, isFinished]
  | cons point rest =>
    by_cases marked : point = letterU
    · rw [escape, if_pos marked, succeeds_unicodeEscape]
      simp [isFinished, marked]
    · rw [escape, if_neg marked]
      split <;> simp [isFinished, marked]

theorem succeeds_unescapeFrom (taken : Nat) (text : Text) :
    Succeeds (unescapeFrom taken text) ↔ ∀ rest ∈ escapesFrom taken text, isFinished rest = true := by
  induction text generalizing taken with
  | nil => simp [unescapeFrom, escapesFrom]
  | cons point rest ih =>
    cases taken with
    | succ taken => exact ih taken
    | zero =>
      rw [unescapeFrom, escapesFrom]
      split
      · rw [List.forall_mem_cons, ← succeeds_escape, succeeds_bind]
        intro found told
        rw [succeeds_bind_pure, ih,
          escapeLength, told]
      · rw [succeeds_bind_pure, ih]

theorem succeeds_decode (raw : Text) : Succeeds (decode raw) ↔ isWhole raw = true := by
  rw [decode, isWhole]
  cases raw.startsWith blockStart || decide (raw.length < 2) with
  | true => exact iff_of_true (succeeds_ok none) rfl
  | false =>
    rw [if_neg Bool.false_ne_true, Bool.false_or, succeeds_map, unescape, succeeds_unescapeFrom, List.all_eq_true]

end Literal

def Whole (raws : List Text) : Prop :=
  ∀ raw ∈ raws, Literal.isWhole raw = true

instance (raws : List Text) : Decidable (Whole raws) :=
  inferInstanceAs (Decidable (∀ raw ∈ raws, _))

@[simp]
theorem whole_nil : Whole [] := by
  simp [Whole]

@[simp]
theorem whole_append (first second : List Text) : Whole (first ++ second) ↔ Whole first ∧ Whole second := by
  simp only [Whole, List.mem_append, or_imp, forall_and]

theorem whole_flatMap {Item : Type} (literals : Item -> List Text) (items : List Item) :
    Whole (items.flatMap literals) ↔ ∀ item ∈ items, Whole (literals item) := by
  simp only [Whole, List.mem_flatMap, forall_exists_index, and_imp]
  exact ⟨fun all item member raw inside => all raw item member inside,
    fun all raw item member inside => all item member raw inside⟩

namespace Node

mutual

def literals : Node -> List Text
  -- The literals that the value of an expression is made from, known or not.
  | ⟨.stringLiteral, text, _, _, _, _, _⟩ => [text]
  | ⟨.parenthesizedExpression, _, _, _, _, _, children⟩ =>
    if (children.filter fun child => child.named && !child.isComment).length = 1 then onlyLiterals children else []
  | ⟨.binaryExpression, _, _, _, _, _, children⟩ =>
    let operator := (children.find? fun child => child.field = some .operator).elim [] Node.text
    let has := fun place => children.any fun child => child.field = some place
    if operator = Constants.plus && has .left && has .right then
      literalsAt .left children ++ literalsAt .right children
    else []
  | _ => []

def onlyLiterals : List Node -> List Text
  | [] => []
  | node :: rest => if node.named && !node.isComment then literals node else onlyLiterals rest

def literalsAt (field : Field) : List Node -> List Text
  | [] => []
  | node :: rest => if node.field = some field then literals node else literalsAt field rest

end

mutual

def elementLiterals : Node -> List Text
  | ⟨kind, text, line, named, field, missing, children⟩ =>
    if kind = .elementValueArray then arrayLiterals children
    else if kind.isComment then []
    else literals ⟨kind, text, line, named, field, missing, children⟩

def arrayLiterals : List Node -> List Text
  | [] => []
  | node :: rest => (if node.named then elementLiterals node else []) ++ arrayLiterals rest

end

def argumentLiterals (argument : Node) : List Text :=
  if argument.isComment then [] else (AnnotationUse.argumentParts argument).2.elim [] elementLiterals

def annotationLiterals (node : Node) : List Text :=
  node.annotationNodes.flatMap fun written =>
    ((written.child? .arguments).elim [] Node.namedChildren).flatMap argumentLiterals

end Node

namespace Constants

variable (constants : Constants) (owners : List Text)

mutual

theorem succeeds_value? : (node : Node) -> Succeeds (constants.value? owners node) ↔ Whole node.literals
  | ⟨kind, text, line, named, field, missing, children⟩ => by
    cases kind with
    | stringLiteral => simp [value?, Node.literals, Whole, Literal.succeeds_decode]
    | parenthesizedExpression =>
      rw [value?, Node.literals]
      split
      · exact succeeds_onlyValue? children
      · simp
    | binaryExpression =>
      rw [value?, Node.literals]
      split
      · rw [whole_append, ← succeeds_operandValue? .left children, succeeds_bind]
        intro left _
        rw [succeeds_bind_pure]
        exact succeeds_operandValue? .right children
      · simp
    | _ => simp [value?, Node.literals]

theorem succeeds_onlyValue? :
    (children : List Node) -> Succeeds (constants.onlyValue? owners children) ↔ Whole (Node.onlyLiterals children)
  | [] => by simp [onlyValue?, Node.onlyLiterals]
  | node :: rest => by
    rw [onlyValue?, Node.onlyLiterals]
    split
    · exact succeeds_value? node
    · exact succeeds_onlyValue? rest

theorem succeeds_operandValue? (field : Field) :
    (children : List Node) ->
      (Succeeds (constants.operandValue? owners field children) ↔ Whole (Node.literalsAt field children))
  | [] => by simp [operandValue?, Node.literalsAt]
  | node :: rest => by
    rw [operandValue?, Node.literalsAt]
    split
    · exact succeeds_value? node
    · exact succeeds_operandValue? field rest

end

end Constants

namespace AnnotationUse

variable (constants : Constants) (owners : List Text)

mutual

theorem succeeds_elementValues :
    (node : Node) -> Succeeds (elementValues constants owners node) ↔ Whole node.elementLiterals
  | ⟨kind, text, line, named, field, missing, children⟩ => by
    rw [elementValues, Node.elementLiterals]
    split
    · exact succeeds_arrayValues children
    · split
      · simp
      · rw [succeeds_map]
        exact Constants.succeeds_value? constants owners _

theorem succeeds_arrayValues :
    (children : List Node) -> Succeeds (arrayValues constants owners children) ↔ Whole (Node.arrayLiterals children)
  | [] => by simp [arrayValues, Node.arrayLiterals]
  | node :: rest => by
    rw [arrayValues, Node.arrayLiterals, whole_append, ← succeeds_arrayValues rest]
    cases node.named with
    | true =>
      rw [if_pos rfl, if_pos rfl, ← succeeds_elementValues node]
      exact succeeds_bind fun values _ => succeeds_bind_pure _ fun others => values ++ others
    | false =>
      rw [if_neg Bool.false_ne_true, if_neg Bool.false_ne_true]
      exact (succeeds_bind_pure _ fun others => [] ++ others).trans (by simp)

end

theorem succeeds_addArgument (attributes : List (Text × List Value)) (argument : Node) :
    Succeeds (addArgument constants owners attributes argument) ↔ Whole argument.argumentLiterals := by
  rw [addArgument, Node.argumentLiterals]
  split
  · simp
  · rw [succeeds_bind_pure]
    cases (argumentParts argument).2 with
    | none => simp
    | some value => exact succeeds_elementValues constants owners value

theorem succeeds_ofDeclaration (node : Node) :
    Succeeds (ofDeclaration constants owners node) ↔ Whole node.annotationLiterals := by
  rw [ofDeclaration, succeeds_mapM, Node.annotationLiterals, whole_flatMap]
  apply forall₂_congr
  intro written _
  rw [ofNode, succeeds_bind_pure, whole_flatMap]
  exact succeeds_foldlM (succeeds_addArgument constants owners) _ []

end AnnotationUse

def Declarator.literals (declarator : Declarator) : List Text :=
  (declarator.node.child? .value).elim [] Node.literals

def Site.isAnnotated (site : Site) : Bool :=
  site.node.kind.isTypeDeclaration || site.declaresMethod

def annotated (root : Node) : List Site :=
  (sites root).filter Site.isAnnotated

def readLiterals (root : Node) : List Text :=
  (declarators root).flatMap Declarator.literals ++
    (annotated root).flatMap fun site => site.node.annotationLiterals

theorem Declarator.succeeds_value? (declarator : Declarator) (constants : Constants) :
    Succeeds (declarator.value? constants) ↔ Whole declarator.literals := by
  rw [Declarator.value?, Declarator.literals]
  cases declarator.node.child? .value with
  | none => simp
  | some initializer =>
    dsimp only
    rw [succeeds_map]
    exact Constants.succeeds_value? constants _ initializer

namespace History

theorem succeeds_next (history : History) (event : Event) :
    Succeeds (history.next event) ↔ ∀ declarator, event = .declares declarator -> Whole declarator.literals := by
  cases event with
  | opens owner => simp [next]
  | declares declarator => simp [next, Declarator.succeeds_value?]

theorem declares_mem_events (root : Node) (declarator : Declarator) :
    .declares declarator ∈ events root ↔ declarator ∈ declarators root := by
  rw [← declared_events, declared, List.mem_filterMap]
  constructor
  · intro member
    exact ⟨.declares declarator, member, rfl⟩
  · rintro ⟨event, member, told⟩
    cases event with
    | opens owner => simp at told
    | declares other => exact Option.some.inj told ▸ member

theorem succeeds_ofRoot (root : Node) :
    Succeeds (History.ofRoot root) ↔ ∀ declarator ∈ declarators root, Whole declarator.literals := by
  rw [History.ofRoot, succeeds_foldlM succeeds_next]
  constructor
  · intro all declarator member
    exact all (.declares declarator) ((declares_mem_events root declarator).mpr member) declarator rfl
  · rintro all event member declarator rfl
    exact all declarator ((declares_mem_events root declarator).mp member)

end History

open Trail

section Methods

variable (file : FileContext) (root : Node)

theorem Site.succeeds_annotations (site : Site) :
    Succeeds (site.annotations file) ↔ Whole site.node.annotationLiterals :=
  AnnotationUse.succeeds_ofDeclaration file.constants (owners site.above) site.node

theorem Trail.succeeds_typeAnnotations (trail : Trail)
    (each : ∀ site : Site, site.trail <:+ trail -> site.node.kind.isTypeDeclaration = true ->
      Succeeds (site.annotations file)) : Succeeds (typeAnnotations file trail) := by
  induction trail with
  | nil => simp [typeAnnotations]
  | cons step above ih =>
    rw [typeAnnotations]
    split
    next type => exact each ⟨step.1, step.2, above⟩ List.suffix_rfl type
    next =>
      split
      · simp
      · exact ih fun site inside => each site (inside.trans (List.suffix_cons _ _))

theorem Site.succeeds_method (site : Site) :
    Succeeds (site.method file root) ↔
      Succeeds (site.annotations file) ∧ Succeeds (typeAnnotations file site.above) := by
  rw [Site.method, succeeds_bind]
  intro annotations _
  rw [succeeds_bind_pure]

theorem Site.succeeds_methodsOf (listed : List Site) :
    Succeeds (Site.methodsOf file root listed) ↔ ∀ site ∈ listed, Succeeds (site.methods file root) := by
  induction listed with
  | nil => simp [Site.methodsOf]
  | cons site rest ih =>
    rw [Site.methodsOf, List.forall_mem_cons, succeeds_bind]
    intro own _
    rw [succeeds_bind_pure, ih]

theorem Method.succeeds_walk :
    Succeeds (Method.walk file root) ↔ ∀ site ∈ annotated root, Whole site.node.annotationLiterals := by
  rw [Method.walk_eq_list, list_eq_methodsOf, Site.succeeds_methodsOf]
  simp only [annotated, List.mem_filter, and_imp, ← Site.succeeds_annotations file]
  constructor
  · intro all site member annotated
    have read := all site member
    rw [Site.methods] at read
    cases type : site.node.kind.isTypeDeclaration with
    | true => rwa [if_pos type, succeeds_map] at read
    | false =>
      have declares : site.declaresMethod = true := by simpa [Site.isAnnotated, type] using annotated
      rw [if_neg (by simp [type]), if_pos declares, succeeds_map, Site.succeeds_method] at read
      exact read.1
  · intro all site member
    rw [Site.methods]
    split
    next type =>
      rw [succeeds_map]
      exact all site member (by simp [Site.isAnnotated, type])
    next =>
      split
      next declares =>
        rw [succeeds_map, Site.succeeds_method]
        refine ⟨all site member (by simp [Site.isAnnotated, declares]), ?_⟩
        -- The annotations of the type around the method are those of a type that is listed, too.
        apply Trail.succeeds_typeAnnotations
        intro outer inside type
        exact all outer (Site.mem_sites_of_suffix member inside) (by simp [Site.isAnnotated, type])
      next => simp

end Methods

/-- A file can be read if each literal that reading it comes to can. -/
theorem FileReading.succeeds_ofRoot (root : Node) :
    Succeeds (FileReading.ofRoot root) ↔ Whole (readLiterals root) := by
  rw [readLiterals, whole_append, whole_flatMap, whole_flatMap, ← History.succeeds_ofRoot, FileReading.ofRoot,
    succeeds_bind]
  · rw [constants_eq, succeeds_map]
  · intro constants _
    rw [succeeds_bind_pure, Method.succeeds_walk]

end RouteAtlas
