import RouteAtlas.Proofs.Sites
import RouteAtlas.Reading.Methods

set_option autoImplicit false

namespace RouteAtlas

namespace Trail

/-- The innermost type on a trail. A body of an anonymous type counts only inside another type. -/
def frame? : Trail -> Option Site
  | [] => none
  | (position, node) :: above =>
    if node.kind.isTypeDeclaration then some ⟨position, node, above⟩
    else if node.kind.isAnonymousBody (kind? above) then (frame? above).map fun _ => ⟨position, node, above⟩
    else frame? above

def owners : Trail -> List Text
  | [] => []
  | (_, node) :: above => if node.kind.isTypeDeclaration then node.textAt .name :: owners above else owners above

end Trail

namespace Site

open Trail

/-- What numbers the type at a site: the type around it and its name. Anonymous types go by the empty name. -/
def counter? (site : Site) : Option (List Nat × Text) :=
  (frame? site.above).bind fun outer =>
    if site.node.kind.isTypeDeclaration then
      if Kind.holdsLocals (kind? site.above) then some (outer.address, site.node.textAt .name) else none
    else if site.node.kind.isAnonymousBody (kind? site.above) then some (outer.address, []) else none

def number (root : Node) (site : Site) : Nat :=
  ((sites root).takeWhile fun earlier => earlier.address ≠ site.address).countP
    (fun earlier => earlier.counter? = site.counter?) + 1

end Site

namespace Trail

variable (file : FileContext) (root : Node)

/-- The full name of the innermost type on a trail. -/
def typeName : Trail -> Text
  | [] => []
  | (position, node) :: above =>
    let outer := typeName above
    let name := node.textAt .name
    let number := Text.ofNat ((⟨position, node, above⟩ : Site).number root)
    if node.kind.isTypeDeclaration then
      if (frame? above).isNone then
        if file.package.isEmpty then name else file.package ++ "." ++ name
      else if Kind.holdsLocals (kind? above) then outer ++ "$" ++ number ++ name
      else outer ++ "$" ++ name
    else if node.kind.isAnonymousBody (kind? above) && (frame? above).isSome then outer ++ "$" ++ number
    else outer

theorem typeName_cons (position : Nat) (node : Node) (above : Trail) :
    typeName file root ((position, node) :: above) =
      let outer := typeName file root above
      let name := node.textAt .name
      let number := (⟨position, node, above⟩ : Site).number root
      if node.kind.isTypeDeclaration then
        if (frame? above).isNone then TypeFrame.topName file.package name
        else if Kind.holdsLocals (kind? above) then TypeFrame.numberedName outer number name
        else TypeFrame.memberName outer name
      else if node.kind.isAnonymousBody (kind? above) && (frame? above).isSome then TypeFrame.numberedName outer number []
      else outer := by
  have dot : Text.ofString "." = [CodePoint.dot] := rfl
  have dollar : Text.ofString "$" = [CodePoint.dollar] := rfl
  simp only [typeName, dot, dollar, TypeFrame.topName, TypeFrame.numberedName, TypeFrame.memberName, List.append_nil,
    List.append_assoc, List.cons_append, List.nil_append]

def typeAnnotations : Trail -> Except LiteralError (List AnnotationUse)
  | [] => .ok []
  | (_, node) :: above =>
    if node.kind.isTypeDeclaration then AnnotationUse.ofDeclaration file.constants (owners above) node
    else if node.kind.isAnonymousBody (kind? above) then .ok []
    else typeAnnotations above

end Trail

namespace Site

open Trail

variable (file : FileContext) (root : Node)

def annotations (site : Site) : Except LiteralError (List AnnotationUse) :=
  AnnotationUse.ofDeclaration file.constants (owners site.above) site.node

def declaresMethod (site : Site) : Bool :=
  site.node.kind = .methodDeclaration && (frame? site.above).isSome

def method (site : Site) : Except LiteralError Method := do
  let annotations <- site.annotations file
  let typeAnnotations <- Trail.typeAnnotations file site.above
  return {
    name := site.node.textAt .name
    type := typeName file root site.above
    annotations := annotations
    typeAnnotations := typeAnnotations
    line := site.node.line }

def methods (site : Site) : Except LiteralError (List Method) :=
  if site.node.kind.isTypeDeclaration then (site.annotations file).map fun _ => []
  else if site.declaresMethod then (site.method file root).map fun method => [method]
  else .ok []

def methodsOf : List Site -> Except LiteralError (List Method)
  | [] => .ok []
  | site :: rest => do
    let own <- site.methods file root
    let others <- methodsOf rest
    return own ++ others

end Site

namespace Trail

theorem trail_suffix_of_frame? (trail : Trail) (frame : Site) (found : frame? trail = some frame) :
    frame.trail <:+ trail := by
  induction trail with
  | nil => simp [frame?] at found
  | cons step above ih =>
    obtain ⟨position, node⟩ := step
    simp only [frame?] at found
    split at found
    · obtain rfl := Option.some.inj found
      exact List.suffix_rfl
    · split at found
      · obtain ⟨outer, -, rfl⟩ := Option.map_eq_some_iff.mp found
        exact List.suffix_rfl
      · exact (ih found).trans (List.suffix_cons _ _)

theorem address_suffix_of_frame? (trail : Trail) (frame : Site) (found : frame? trail = some frame) :
    frame.address <:+ trail.map Prod.fst :=
  (trail_suffix_of_frame? trail frame found).map Prod.fst

theorem frame?_of_suffix (inner outer : Trail) (frame : Site) (inside : outer <:+ inner)
    (found : frame? outer = some frame) : ∃ other, frame? inner = some other ∧ frame.address <:+ other.address := by
  induction inner with
  | nil =>
    obtain rfl : outer = [] := List.suffix_nil.mp inside
    simp [frame?] at found
  | cons step above ih =>
    rcases List.suffix_cons_iff.mp inside with rfl | below
    · exact ⟨frame, found, List.suffix_rfl⟩
    · obtain ⟨other, present, nested⟩ := ih below
      obtain ⟨position, node⟩ := step
      have deeper : frame.address <:+ (⟨position, node, above⟩ : Site).address :=
        (nested.trans (address_suffix_of_frame? above other present)).trans (List.suffix_cons _ _)
      simp only [frame?]
      split
      · exact ⟨_, rfl, deeper⟩
      · split
        · rw [present]
          exact ⟨_, rfl, deeper⟩
        · exact ⟨other, present, nested⟩

theorem owners_of_frameless (trail : Trail) (frameless : frame? trail = none) : owners trail = [] := by
  induction trail with
  | nil => rfl
  | cons step above ih =>
    obtain ⟨position, node⟩ := step
    simp only [frame?] at frameless
    split at frameless
    · simp at frameless
    · next notType =>
      have outside : frame? above = none := by
        split at frameless
        · exact Option.map_eq_none_iff.mp frameless
        · exact frameless
      simp only [owners, notType]
      exact ih outside

end Trail

end RouteAtlas
