import RouteAtlas.Java.Parse

/-!
The trees of the grammar have no errors.

A rule fails or makes nodes none of which has an error, whatever the tokens are. This is true of the rules for single
tokens, is kept by each way to put rules together, and so goes through the grammar at every depth (`unbroken_grammar`).
A text that the grammar accepts therefore has a tree without errors (`parse_hasError`).
-/

set_option autoImplicit false

namespace RouteAtlas.Java

class Unbroken (parts : List Part) : Prop where
  noError : ∀ part ∈ parts, part.node.hasError = false

class HarmlessKind (kind : Kind) : Prop where
  noError : kind ≠ .error

class UnbrokenRule (rule : Rule) : Prop where
  unbroken : ∀ cursor parts after, rule cursor = .found parts after -> Unbroken parts

class UnbrokenRules (rules : List Rule) : Prop where
  each : ∀ rule ∈ rules, UnbrokenRule rule

namespace Unbroken

instance : Unbroken [] where
  noError := by simp

theorem append {first second : List Part} (before : Unbroken first) (behind : Unbroken second) :
    Unbroken (first ++ second) where
  noError := by
    intro part member
    rcases List.mem_append.mp member with earlier | later
    · exact before.noError part earlier
    · exact behind.noError part later

theorem anyHasError {parts : List Part} (unbroken : Unbroken parts) :
    Node.anyHasError (parts.map Part.node) = false := by
  induction parts with
  | nil => rfl
  | cons part rest ih =>
    have here := unbroken.noError part List.mem_cons_self
    have others := ih ⟨fun other member => unbroken.noError other (List.mem_cons_of_mem _ member)⟩
    rw [List.map_cons, Node.anyHasError, here, others, Bool.or_false]

theorem singleton {part : Part} (kind : part.node.kind ≠ .error) (present : part.node.missing = false)
    (below : Node.anyHasError part.node.children = false) : Unbroken [part] where
  noError := by
    intro other member
    rw [List.mem_singleton.mp member]
    obtain ⟨⟨kind, text, line, named, field, missing, children⟩, start⟩ := part
    simp_all [Node.hasError]

theorem wrap {kind : Kind} [harmless : HarmlessKind kind] {parts : List Part} (unbroken : Unbroken parts)
    (after : Cursor) : Unbroken [Rule.wrap kind parts after] :=
  singleton harmless.noError rfl unbroken.anyHasError

theorem placed {parts : List Part} (unbroken : Unbroken parts) (place : Field) :
    Unbroken (parts.map fun part => { part with node := { part.node with field := some place } }) where
  noError := by
    intro other member
    obtain ⟨part, inside, rfl⟩ := List.mem_map.mp member
    have same := unbroken.noError part inside
    obtain ⟨⟨kind, text, line, named, field, missing, children⟩, start⟩ := part
    exact same

end Unbroken

namespace HarmlessKind

instance (name : String) : HarmlessKind (.other name) := ⟨by simp⟩
instance : HarmlessKind .program := ⟨by simp⟩
instance : HarmlessKind .packageDeclaration := ⟨by simp⟩
instance : HarmlessKind .classDeclaration := ⟨by simp⟩
instance : HarmlessKind .interfaceDeclaration := ⟨by simp⟩
instance : HarmlessKind .enumDeclaration := ⟨by simp⟩
instance : HarmlessKind .recordDeclaration := ⟨by simp⟩
instance : HarmlessKind .annotationTypeDeclaration := ⟨by simp⟩
instance : HarmlessKind .classBody := ⟨by simp⟩
instance : HarmlessKind .interfaceBody := ⟨by simp⟩
instance : HarmlessKind .enumBody := ⟨by simp⟩
instance : HarmlessKind .enumBodyDeclarations := ⟨by simp⟩
instance : HarmlessKind .annotationTypeBody := ⟨by simp⟩
instance : HarmlessKind .objectCreation := ⟨by simp⟩
instance : HarmlessKind .enumConstant := ⟨by simp⟩
instance : HarmlessKind .methodDeclaration := ⟨by simp⟩
instance : HarmlessKind .fieldDeclaration := ⟨by simp⟩
instance : HarmlessKind .constantDeclaration := ⟨by simp⟩
instance : HarmlessKind .modifiers := ⟨by simp⟩
instance : HarmlessKind .annotationMarker := ⟨by simp⟩
instance : HarmlessKind .annotationWithArguments := ⟨by simp⟩
instance : HarmlessKind .elementValuePair := ⟨by simp⟩
instance : HarmlessKind .elementValueArray := ⟨by simp⟩
instance : HarmlessKind .identifier := ⟨by simp⟩
instance : HarmlessKind .scopedIdentifier := ⟨by simp⟩
instance : HarmlessKind .fieldAccess := ⟨by simp⟩
instance : HarmlessKind .stringLiteral := ⟨by simp⟩
instance : HarmlessKind .parenthesizedExpression := ⟨by simp⟩
instance : HarmlessKind .binaryExpression := ⟨by simp⟩

end HarmlessKind

namespace UnbrokenRule

open Rule

instance : UnbrokenRules [] where
  each := by simp

instance (rule : Rule) (rules : List Rule) [first : UnbrokenRule rule] [others : UnbrokenRules rules] :
    UnbrokenRules (rule :: rules) where
  each := by
    intro other member
    rcases List.mem_cons.mp member with rfl | later
    · exact first
    · exact others.each other later

instance (parts : List Part) [unbroken : Unbroken parts] : UnbrokenRule (given parts) where
  unbroken := by
    rintro cursor found after ⟨⟩
    exact unbroken

instance : UnbrokenRule nothing :=
  inferInstanceAs (UnbrokenRule (given []))

instance : UnbrokenRule failure where
  unbroken := by
    rintro cursor found after ⟨⟩

theorem followed {rule : Rule} {next : List Part -> Rule} (first : UnbrokenRule rule)
    (later : ∀ left, Unbroken left -> UnbrokenRule (next left)) : UnbrokenRule (andThen rule next) where
  unbroken := by
    intro cursor parts after found
    rw [andThen] at found
    split at found
    · cases found
    next left place read => exact (later left (first.unbroken _ _ _ read)).unbroken _ _ _ found

theorem sequence {rules : List Rule} (each : ∀ rule ∈ rules, UnbrokenRule rule) : UnbrokenRule (seq rules) := by
  induction rules with
  | nil => exact inferInstanceAs (UnbrokenRule nothing)
  | cons rule rules ih =>
    constructor
    intro cursor parts after found
    simp only [seq] at found
    split at found
    · cases found
    next left place read =>
      split at found
      · cases found
      next more last others =>
        cases found
        have first := (each rule List.mem_cons_self).unbroken _ _ _ read
        have second := ih fun other member => each other (List.mem_cons_of_mem _ member)
        exact first.append (second.unbroken _ _ _ others)

theorem alternatives {rules : List Rule} (each : ∀ rule ∈ rules, UnbrokenRule rule) : UnbrokenRule (choice rules) := by
  induction rules with
  | nil => exact inferInstanceAs (UnbrokenRule failure)
  | cons rule rules ih =>
    constructor
    intro cursor parts after found
    simp only [choice] at found
    split at found
    next read =>
      cases found
      exact (each rule List.mem_cons_self).unbroken _ _ _ read
    next =>
      have others := ih fun other member => each other (List.mem_cons_of_mem _ member)
      exact others.unbroken _ _ _ found

theorem repeated {rule : Rule} (unbroken : UnbrokenRule rule) (count : Nat) : UnbrokenRule (repeatUpTo rule count) := by
  induction count with
  | zero => exact inferInstanceAs (UnbrokenRule nothing)
  | succ count ih =>
    constructor
    intro cursor parts after found
    simp only [repeatUpTo] at found
    split at found
    · cases found
      infer_instance
    next left place read =>
      have first := unbroken.unbroken _ _ _ read
      split at found
      · cases found
        exact first
      · split at found
        · cases found
        next more last others =>
          cases found
          exact first.append (ih.unbroken _ _ _ others)

theorem chosen {select : Cursor -> Rule} (each : ∀ cursor, UnbrokenRule (select cursor)) : UnbrokenRule (choose select) where
  unbroken := fun cursor => (each cursor).unbroken cursor

instance (rules : List Rule) [each : UnbrokenRules rules] : UnbrokenRule (seq rules) :=
  sequence each.each

instance (rules : List Rule) [each : UnbrokenRules rules] : UnbrokenRule (choice rules) :=
  alternatives each.each

instance (rule : Rule) [UnbrokenRule rule] : UnbrokenRule (optional rule) :=
  inferInstanceAs (UnbrokenRule (choice [rule, nothing]))

instance (rule : Rule) [unbroken : UnbrokenRule rule] : UnbrokenRule (many rule) :=
  chosen fun cursor => repeated unbroken cursor.rest.length

instance (rule : Rule) [UnbrokenRule rule] : UnbrokenRule (many1 rule) :=
  inferInstanceAs (UnbrokenRule (seq [rule, many rule]))

instance (select : Cursor -> Rule) [each : ∀ cursor, UnbrokenRule (select cursor)] : UnbrokenRule (choose select) :=
  chosen each

instance (test : Prop) [Decidable test] (yes no : Rule) [first : UnbrokenRule yes] [second : UnbrokenRule no] :
    UnbrokenRule (if test then yes else no) := by
  split
  · exact first
  · exact second

instance (test : Cursor -> Bool) (yes no : Rule) [first : UnbrokenRule yes] [second : UnbrokenRule no] :
    UnbrokenRule (ifAt test yes no) where
  unbroken := by
    intro cursor parts after found
    rw [ifAt] at found
    split at found
    · exact first.unbroken _ _ _ found
    · exact second.unbroken _ _ _ found

instance (test : Cursor -> Bool) (rule : Rule) [UnbrokenRule rule] : UnbrokenRule (guarded test rule) :=
  inferInstanceAs (UnbrokenRule (ifAt test rule failure))

instance (kind : Kind) (left : List Part) (rule : Rule) [HarmlessKind kind] [before : Unbroken left]
    [unbroken : UnbrokenRule rule] : UnbrokenRule (extend kind left rule) where
  unbroken := by
    intro cursor parts after found
    rw [extend] at found
    split at found
    · cases found
    next right place read =>
      cases found
      exact (before.append (unbroken.unbroken _ _ _ read)).wrap _

instance (kind : Kind) (rule : Rule) [HarmlessKind kind] [UnbrokenRule rule] : UnbrokenRule (node kind rule) :=
  inferInstanceAs (UnbrokenRule (extend kind [] rule))

instance (place : Field) (rule : Rule) [unbroken : UnbrokenRule rule] : UnbrokenRule (field place rule) where
  unbroken := by
    intro cursor parts after found
    rw [field] at found
    split at found
    · cases found
    next read =>
      cases found
      exact (unbroken.unbroken _ _ _ read).placed place

theorem extended {step : List Part -> Cursor -> Option Rule} {left : List Part} (before : Unbroken left)
    (steps : ∀ left cursor rule, Unbroken left -> step left cursor = some rule -> UnbrokenRule rule) :
    UnbrokenRule (extendMany step left) := by
  have bounded : ∀ count left, Unbroken left -> UnbrokenRule (extendUpTo step count left) := by
    intro count
    induction count with
    | zero => exact fun left before => inferInstanceAs (UnbrokenRule (given left))
    | succ count ih =>
      intro left before
      constructor
      intro cursor parts after found
      simp only [extendUpTo] at found
      split at found
      · cases found
        exact before
      next rule next => exact (followed (steps left cursor rule before next) ih).unbroken _ _ _ found
  exact chosen fun cursor => bounded cursor.rest.length left before

theorem single {test : Token -> Bool} {named : Bool} {kind : Token -> Kind} (harmless : ∀ first, kind first ≠ .error) :
    UnbrokenRule (token test named kind) where
  unbroken := by
    intro cursor parts after found
    rw [token] at found
    split at found
    · cases found
    · split at found
      · cases found
        exact Unbroken.singleton (harmless _) rfl rfl
      · cases found

theorem keywordKind_ne (text : String) : (if text = "final" then Kind.finalKeyword else .other text) ≠ .error := by
  split <;> simp

instance (text : String) : UnbrokenRule (symbol text) :=
  single fun _ => by simp

instance (text : String) : UnbrokenRule (keyword text) :=
  single fun _ => keywordKind_ne text

instance (texts : List String) : UnbrokenRule (anyKeyword texts) :=
  single fun first => keywordKind_ne first.text

instance (kind : Kind) (keywords : List String) [harmless : HarmlessKind kind] : UnbrokenRule (nameExcept kind keywords) :=
  single fun _ => harmless.noError

instance (keywords : List String) : UnbrokenRule (identifierExcept keywords) :=
  inferInstanceAs (UnbrokenRule (nameExcept .identifier keywords))

instance : UnbrokenRule identifier :=
  inferInstanceAs (UnbrokenRule (identifierExcept []))

instance (rule : Rule) [UnbrokenRule rule] : UnbrokenRule (parens rule) :=
  inferInstanceAs (UnbrokenRule (seq [symbol "(", rule, symbol ")"]))

instance (rule : Rule) [UnbrokenRule rule] : UnbrokenRule (braces rule) :=
  inferInstanceAs (UnbrokenRule (seq [symbol "\x7b", rule, symbol "\x7d"]))

instance (separator : String) (rule : Rule) [UnbrokenRule rule] : UnbrokenRule (separated1 separator rule) :=
  inferInstanceAs (UnbrokenRule (seq [rule, many (seq [symbol separator, rule])]))

instance (rule : Rule) [UnbrokenRule rule] : UnbrokenRule (commas1 rule) :=
  inferInstanceAs (UnbrokenRule (separated1 "," rule))

instance (rule : Rule) [UnbrokenRule rule] : UnbrokenRule (commas rule) :=
  inferInstanceAs (UnbrokenRule (optional (commas1 rule)))

end UnbrokenRule

class UnbrokenGrammar (g : Grammar) : Prop where
  type : UnbrokenRule g.type
  typeArguments : UnbrokenRule g.typeArguments
  annotation : UnbrokenRule g.annotation
  expression : ∀ place, UnbrokenRule (g.expression place)
  operand : ∀ place, UnbrokenRule (g.operand place)
  elementValue : UnbrokenRule g.elementValue
  arrayInitializer : UnbrokenRule g.arrayInitializer
  statement : UnbrokenRule g.statement
  block : UnbrokenRule g.block
  switchBlock : UnbrokenRule g.switchBlock
  recordPattern : UnbrokenRule g.recordPattern
  classBody : UnbrokenRule g.classBody
  typeDeclaration : ∀ left [Unbroken left], UnbrokenRule (g.typeDeclaration left)

attribute [instance] UnbrokenGrammar.type UnbrokenGrammar.typeArguments UnbrokenGrammar.annotation
  UnbrokenGrammar.expression UnbrokenGrammar.operand UnbrokenGrammar.elementValue UnbrokenGrammar.arrayInitializer
  UnbrokenGrammar.statement UnbrokenGrammar.block UnbrokenGrammar.switchBlock UnbrokenGrammar.recordPattern
  UnbrokenGrammar.classBody UnbrokenGrammar.typeDeclaration

section Grammar

open Rule UnbrokenRule

variable (g : Grammar) [UnbrokenGrammar g]

namespace Types

instance : UnbrokenRule name :=
  followed inferInstance fun _ before => extended before fun left cursor rule before step => by
    split at step
    · cases step
      infer_instance
    · cases step

instance (keywords : List String) : UnbrokenRule (typeIdentifier keywords) := by
  unfold typeIdentifier
  infer_instance

instance : UnbrokenRule primitive := by
  unfold primitive
  infer_instance

instance (left : List Part) [Unbroken left] : UnbrokenRule (withArguments g left) := by
  unfold withArguments
  infer_instance

instance (keywords : List String) : UnbrokenRule (classType g keywords) :=
  followed (followed inferInstance fun _ _ => inferInstance) fun left before =>
    extended before fun left cursor rule before step => by
      split at step
      · cases step
        exact followed inferInstance fun _ _ => inferInstance
      · cases step

instance (keywords : List String) : UnbrokenRule (simple g keywords) := by
  unfold simple
  infer_instance

instance : UnbrokenRule (dimensions g) := by
  unfold dimensions
  infer_instance

instance : UnbrokenRule (perhapsDimensions g) := by
  unfold perhapsDimensions
  infer_instance

instance (keywords : List String) : UnbrokenRule (unannotated g keywords) :=
  followed inferInstance fun _ _ => inferInstance

instance : UnbrokenRule (type g) := by
  unfold type
  infer_instance

instance : UnbrokenRule (typeArguments g) := by
  unfold typeArguments wildcard
  infer_instance

instance : UnbrokenRule (typeParameters g) := by
  unfold typeParameters typeParameter
  infer_instance

instance : UnbrokenRule (perhapsTypeParameters g) := by
  unfold perhapsTypeParameters
  infer_instance

instance : UnbrokenRule (annotationArguments g) := by
  unfold annotationArguments elementValuePair
  infer_instance

instance : UnbrokenRule ( oneAnnotation g) := by
  have rest : UnbrokenRule (andThen (seq [symbol "@", field .name name]) fun left =>
      ifAt (fun place => place.atSymbol "(")
        (extend .annotationWithArguments left (field .arguments (annotationArguments g)))
        (extend .annotationMarker left nothing)) := followed inferInstance fun _ _ => inferInstance
  constructor
  intro cursor parts after found
  rw [ oneAnnotation] at found
  split at found
  · exact rest.unbroken _ _ _ found
  · cases found

instance : UnbrokenRule (elementValue g) := by
  unfold elementValue
  infer_instance

instance : UnbrokenRule (modifier g) := by
  unfold modifier
  infer_instance

instance : UnbrokenRule (modifiers g) where
  unbroken := by
    intro cursor parts after found
    rw [modifiers] at found
    split at found
    · cases found
    · cases found
      infer_instance
    next marks place some read =>
      cases found
      exact (UnbrokenRule.unbroken _ _ _ read).wrap _

end Types

namespace Expressions

instance (count : Nat) : UnbrokenRule (operator count) where
  unbroken := by
    intro cursor parts after found
    simp only [operator] at found
    split at found
    · cases found
    · cases found
      exact Unbroken.singleton (by simp) rfl rfl

instance : UnbrokenRule (parenthesized g) := by
  unfold parenthesized
  infer_instance

instance : UnbrokenRule (arguments g) := by
  unfold arguments
  infer_instance

instance : UnbrokenRule (variableName g) := by
  unfold variableName
  infer_instance

instance : UnbrokenRule (receiverParameter g) := by
  unfold receiverParameter
  infer_instance

instance : UnbrokenRule (variableDeclarator g) := by
  unfold variableDeclarator
  infer_instance

instance : UnbrokenRule (formalParameter g) :=
  followed inferInstance fun _ _ => inferInstance

instance : UnbrokenRule (formalParameters g) := by
  unfold formalParameters
  infer_instance

instance : UnbrokenRule (lambda g) := by
  unfold lambda inferredParameters
  infer_instance

instance : UnbrokenRule (switchExpression g) := by
  unfold switchExpression
  infer_instance

instance (kind : TokenKind) : UnbrokenRule (stringToken kind) :=
  single fun _ => by simp

instance : UnbrokenRule (stringLiteral g) := by
  unfold stringLiteral
  infer_instance

instance : UnbrokenRule literal :=
  single fun _ => by simp

instance : UnbrokenRule wordLiteral :=
  single fun _ => by simp

instance (left : List Part) [Unbroken left] : UnbrokenRule (creation g left) :=
  followed inferInstance fun _ _ => inferInstance

instance (left : List Part) [Unbroken left] : UnbrokenRule (reference g left) := by
  unfold reference
  infer_instance

instance (left : List Part) [Unbroken left] : UnbrokenRule (call g left) := by
  unfold call
  infer_instance

instance (left : List Part) [Unbroken left] : UnbrokenRule (member g left) := by
  unfold member
  infer_instance

instance (left : List Part) [Unbroken left] : UnbrokenRule (afterDot g left) :=
  followed inferInstance fun parts before => by
    have inside : UnbrokenRule (andThen (seq [given parts, node (.other "super") (keyword "super"), symbol "."])
        (member g)) := followed inferInstance fun _ _ => inferInstance
    infer_instance

instance : UnbrokenRule (fromType g) :=
  followed inferInstance fun _ _ => inferInstance

instance : UnbrokenRule (atom g) := by
  have outer : UnbrokenRule (andThen (node (.other "super") (keyword "super")) fun left =>
      ifAt (fun place => place.atSymbol "::") (reference g left)
        (andThen (seq [given left, symbol "."]) (member g))) :=
    followed inferInstance fun left _ => by
      have inside : UnbrokenRule (andThen (seq [given left, symbol "."]) (member g)) :=
        followed inferInstance fun _ _ => inferInstance
      infer_instance
  apply chosen
  intro cursor
  split
  · infer_instance
  · split <;> infer_instance

instance : UnbrokenRule (primary g) :=
  followed inferInstance fun left before => extended before fun left cursor rule before step => by
    unfold Expressions.step at step
    split at step
    · split at step
      · cases step
      · cases step
        infer_instance
    · split at step
      · cases step
        infer_instance
      · split at step
        · cases step
          infer_instance
        · cases step

instance (left : List Part) [before : Unbroken left] : UnbrokenRule (afterOperand left) :=
  extended before fun left cursor rule before step => by
    split at step
    · cases step
      infer_instance
    · cases step

instance (place : ExpressionPlace) : UnbrokenRule (assignable g place) :=
  followed inferInstance fun _ _ => inferInstance

instance (place : ExpressionPlace) : UnbrokenRule (operand g place) :=
  chosen fun cursor => by
    split <;> infer_instance

instance (left : List Part) [Unbroken left] : UnbrokenRule (typeTest g left) := by
  unfold typeTest
  infer_instance

instance (place : ExpressionPlace) (count : Nat) : UnbrokenRule (tier g place count) := by
  induction count with
  | zero => exact inferInstanceAs (UnbrokenRule (operand g place))
  | succ below ih =>
    refine followed ih fun left before => extended before fun left cursor rule before step => ?_
    split at step
    · cases step
      infer_instance
    · split at step
      · split at step
        · cases step
          have placed := before.placed .left
          infer_instance
        · cases step
      · cases step

instance (place : ExpressionPlace) : UnbrokenRule (expression g place) :=
  followed inferInstance fun _ _ => inferInstance

instance : UnbrokenRule (arrayInitializer g) := by
  unfold arrayInitializer
  infer_instance

end Expressions

namespace Declarations

instance : UnbrokenRule semicolon := by
  unfold semicolon
  infer_instance

instance (kind word : String) : UnbrokenRule (perhapsTypes g kind word) := by
  unfold perhapsTypes typeList
  infer_instance

instance : UnbrokenRule (superclass g) := by
  unfold superclass
  infer_instance

instance : UnbrokenRule (declarators g) := by
  unfold declarators
  infer_instance

instance : UnbrokenRule (throwsClause g) := by
  unfold throwsClause
  infer_instance

instance (left : List Part) [Unbroken left] : UnbrokenRule (method g left) := by
  unfold method
  infer_instance

instance (kind : Kind) (left : List Part) [HarmlessKind kind] [Unbroken left] : UnbrokenRule (fields g kind left) := by
  unfold fields
  infer_instance

instance : UnbrokenRule (constructorCall g) := by
  unfold constructorCall
  infer_instance

instance : UnbrokenRule (constructorBody g) := by
  unfold constructorBody
  infer_instance

instance (left : List Part) [Unbroken left] : UnbrokenRule (constructor g left) := by
  unfold constructor
  infer_instance

instance (left : List Part) [Unbroken left] : UnbrokenRule (classMember g left) := by
  unfold classMember
  infer_instance

instance (left : List Part) [Unbroken left] : UnbrokenRule (interfaceMember g left) := by
  unfold interfaceMember
  infer_instance

instance (left : List Part) [Unbroken left] : UnbrokenRule (annotationTypeMember g left) := by
  unfold annotationTypeMember element
  infer_instance

theorem unbroken_members {member : List Part -> Rule} (each : ∀ left, Unbroken left -> UnbrokenRule (member left)) :
    UnbrokenRule (members g member) := by
  have one : UnbrokenRule (andThen (Types.modifiers g) member) := followed inferInstance each
  exact inferInstanceAs (UnbrokenRule (many (andThen (Types.modifiers g) member)))

instance : UnbrokenRule (classBody g) := by
  have inside : UnbrokenRule (members g (classMember g)) := unbroken_members g fun _ _ => inferInstance
  unfold classBody
  infer_instance

instance : UnbrokenRule (interfaceBody g) := by
  have inside : UnbrokenRule (members g (interfaceMember g)) := unbroken_members g fun _ _ => inferInstance
  unfold interfaceBody
  infer_instance

instance : UnbrokenRule (annotationTypeBody g) := by
  have inside : UnbrokenRule (members g (annotationTypeMember g)) := unbroken_members g fun _ _ => inferInstance
  unfold annotationTypeBody
  infer_instance

instance : UnbrokenRule (enumConstant g) :=
  followed inferInstance fun _ _ => inferInstance

instance : UnbrokenRule (enumBody g) := by
  have inside : UnbrokenRule (members g (classMember g)) := unbroken_members g fun _ _ => inferInstance
  unfold enumBody
  infer_instance

instance (left : List Part) [Unbroken left] : UnbrokenRule (classDeclaration g left) := by
  unfold classDeclaration
  infer_instance

instance (left : List Part) [Unbroken left] : UnbrokenRule (recordDeclaration g left) := by
  unfold recordDeclaration
  infer_instance

instance (left : List Part) [Unbroken left] : UnbrokenRule (interfaceDeclaration g left) := by
  unfold interfaceDeclaration
  infer_instance

instance (left : List Part) [Unbroken left] : UnbrokenRule (enumDeclaration g left) := by
  unfold enumDeclaration
  infer_instance

instance (left : List Part) [Unbroken left] : UnbrokenRule (annotationTypeDeclaration g left) := by
  unfold annotationTypeDeclaration
  infer_instance

instance (left : List Part) [Unbroken left] : UnbrokenRule (typeDeclaration g left) := by
  unfold typeDeclaration
  infer_instance

end Declarations

namespace Statements

instance : UnbrokenRule semicolon := by
  unfold semicolon
  infer_instance

instance (kind : String) (rules : List Rule) [UnbrokenRules rules] : UnbrokenRule (statement kind rules) := by
  unfold statement
  infer_instance

instance : UnbrokenRule (anyExpression g) := by
  unfold anyExpression
  infer_instance

instance : UnbrokenRule (perhapsExpression g) := by
  unfold perhapsExpression
  infer_instance

instance : UnbrokenRule (block g) := by
  unfold block
  infer_instance

instance (left : List Part) [Unbroken left] : UnbrokenRule (declaredVariables g left) := by
  unfold declaredVariables
  infer_instance

instance : UnbrokenRule (perhapsExpressions g) := by
  unfold perhapsExpressions
  infer_instance

instance : UnbrokenRule (sequenceVariable g) := by
  unfold sequenceVariable
  infer_instance

instance : UnbrokenRule (forStatement g) := by
  have start : UnbrokenRule (andThen (Types.modifiers g) fun modifiers =>
      ifAt (fun cursor => !modifiers.isEmpty || atVariable g Keywords.statementTypeStart cursor)
        (declaredVariables g modifiers)
        (seq [ifAt (fun cursor => cursor.atSymbol ";") nothing (perhapsExpressions g), semicolon])) :=
    followed inferInstance fun _ _ => inferInstance
  exact followed inferInstance fun _ _ => inferInstance

instance : UnbrokenRule (catchClause g) := by
  unfold catchClause
  infer_instance

instance : UnbrokenRule (finallyClause g) := by
  unfold finallyClause
  infer_instance

instance : UnbrokenRule (catches g) := by
  unfold catches
  infer_instance

instance : UnbrokenRule (perhapsFinally g) := by
  unfold perhapsFinally
  infer_instance

instance : UnbrokenRule (resource g) := by
  have inside : UnbrokenRule (andThen (Types.modifiers g) fun left =>
      ifAt (fun cursor => !left.isEmpty || atVariable g Keywords.statementTypeStart cursor)
        (seq [given left, Types.unannotated g Keywords.memberStart, Expressions.variableName g, symbol "=",
          anyExpression g])
        (Expressions.primary g)) := followed inferInstance fun _ _ => inferInstance
  unfold resource
  infer_instance

instance : UnbrokenRule (resources g) := by
  unfold resources
  infer_instance

instance : UnbrokenRule (tryStatement g) :=
  followed inferInstance fun _ _ => inferInstance

instance : UnbrokenRule (typePattern g) := by
  unfold typePattern
  infer_instance

instance : UnbrokenRule (patternComponent g) := by
  unfold patternComponent
  infer_instance

instance : UnbrokenRule (recordPattern g) := by
  have name : UnbrokenRule (andThen (Types.typeIdentifier Keywords.values) (Types.withArguments g)) :=
    followed inferInstance fun _ _ => inferInstance
  unfold recordPattern
  infer_instance

instance : UnbrokenRule (labelValues g) := by
  unfold labelValues
  infer_instance

instance : UnbrokenRule (switchLabel g) := by
  unfold switchLabel guardClause
  infer_instance

instance : UnbrokenRule (expressionStatement g) := by
  unfold expressionStatement
  infer_instance

instance : UnbrokenRule (throwStatement g) := by
  unfold throwStatement
  infer_instance

instance : UnbrokenRule (labelledGroup g) := by
  unfold labelledGroup
  infer_instance

instance : UnbrokenRule (switchRule g) := by
  unfold switchRule ruleBody
  infer_instance

instance : UnbrokenRule (switchBlock g) := by
  unfold switchBlock
  infer_instance

instance (left : List Part) [Unbroken left] : UnbrokenRule (packageDeclaration left) := by
  unfold packageDeclaration
  infer_instance

instance : UnbrokenRule importDeclaration := by
  unfold importDeclaration
  infer_instance

instance (word : String) : UnbrokenRule (names word) := by
  unfold names
  infer_instance

instance : UnbrokenRule directive := by
  unfold directive
  infer_instance

instance (left : List Part) [Unbroken left] : UnbrokenRule (moduleDeclaration left) := by
  unfold moduleDeclaration
  infer_instance

instance (word : String) : UnbrokenRule (keywordStatement g word) := by
  unfold keywordStatement
  split <;> infer_instance

instance (left : List Part) [Unbroken left] : UnbrokenRule (declaration g left) := by
  unfold declaration
  infer_instance

instance : UnbrokenRule (anyStatement g) := by
  have declared : UnbrokenRule (andThen (Types.modifiers g) (declaration g)) :=
    followed inferInstance fun _ _ => inferInstance
  unfold anyStatement
  infer_instance

instance : UnbrokenRule (topLevel g) := by
  have member : UnbrokenRule (andThen (Types.modifiers g) fun left =>
      ifAt (fun cursor => cursor.atSymbol "<" || Declarations.atMethod g (typeKeywords left) cursor)
        (Declarations.method g left)
        (ifAt (fun _ => left.isEmpty) g.statement (declaration g left))) :=
    followed inferInstance fun _ _ => inferInstance
  unfold topLevel
  infer_instance

end Statements

end Grammar

instance unbroken_grammar (depth : Nat) : UnbrokenGrammar (grammar depth) := by
  induction depth with
  | zero =>
    constructor <;> intros <;> exact inferInstanceAs (UnbrokenRule Rule.failure)
  | succ depth ih =>
    exact {
      type := inferInstanceAs (UnbrokenRule (Types.type (grammar depth)))
      typeArguments := inferInstanceAs (UnbrokenRule (Types.typeArguments (grammar depth)))
      annotation := inferInstanceAs (UnbrokenRule (Types.oneAnnotation (grammar depth)))
      expression := fun place => inferInstanceAs (UnbrokenRule (Expressions.expression (grammar depth) place))
      operand := fun place => inferInstanceAs (UnbrokenRule (Expressions.operand (grammar depth) place))
      elementValue := inferInstanceAs (UnbrokenRule (Types.elementValue (grammar depth)))
      arrayInitializer := inferInstanceAs (UnbrokenRule (Expressions.arrayInitializer (grammar depth)))
      statement := inferInstanceAs (UnbrokenRule (Statements.anyStatement (grammar depth)))
      block := inferInstanceAs (UnbrokenRule (Statements.block (grammar depth)))
      switchBlock := inferInstanceAs (UnbrokenRule (Statements.switchBlock (grammar depth)))
      recordPattern := inferInstanceAs (UnbrokenRule (Statements.recordPattern (grammar depth)))
      classBody := inferInstanceAs (UnbrokenRule (Declarations.classBody (grammar depth)))
      typeDeclaration := fun left _ => inferInstanceAs (UnbrokenRule (Declarations.typeDeclaration (grammar depth) left)) }

instance (depth : Nat) : UnbrokenRule (unit depth) := by
  unfold unit
  infer_instance

theorem readTokens_hasError {source : Array CodePoint} {tokens : List Token} {root : Node}
    (read : readTokens source tokens = .ok root) : root.hasError = false := by
  rw [readTokens] at read
  split at read
  · cases read
  next parts after found =>
    have unbroken : Unbroken parts := UnbrokenRule.unbroken _ _ _ found
    split at read
    · cases read
      exact unbroken.noError _ List.mem_cons_self
    · cases read

/-- A text that follows the grammar has a tree without errors. -/
theorem parse_hasError {source : List Char} {root : Node} (parsed : parse source = .ok root) : root.hasError = false := by
  rw [parse] at parsed
  generalize read : readTokens _ _ = result at parsed
  cases result with
  | error count => cases parsed
  | ok node =>
    cases parsed
    exact readTokens_hasError read

end RouteAtlas.Java
