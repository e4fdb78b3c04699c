import RouteAtlas.Proofs.MethodListing
import RouteAtlas.Proofs.Outlines

set_option autoImplicit false

namespace RouteAtlas

open Trail

namespace Trail

def atBody : Trail -> Bool
  | [] => false
  | (_, node) :: above => node.kind.isAnonymousBody (kind? above)

end Trail

def Site.isFieldOf (body : List Nat) (site : Site) : Bool :=
  site.node.kind.isField && atBody site.above && site.above.map Prod.fst = body

theorem Site.above_of_isFieldOf {body : List Nat} {site : Site} (field : site.isFieldOf body = true) :
    site.above.map Prod.fst = body := by
  simp only [isFieldOf, Bool.and_eq_true, decide_eq_true_eq] at field
  exact field.2

def Trail.inFieldOf (body : List Nat) : Trail -> Bool
  | [] => false
  | (position, node) :: above => (⟨position, node, above⟩ : Site).isFieldOf body || inFieldOf body above

namespace Node

mutual

def trim (body : List Nat) (above : Trail) (position : Nat) : Node -> Node
  | ⟨kind, text, line, named, field, missing, children⟩ =>
    let here : Site := ⟨position, ⟨kind, text, line, named, field, missing, children⟩, above⟩
    ⟨kind, text, line, named, field, missing, trimAmong body here.trail 0 children⟩

def trimAmong (body : List Nat) (above : Trail) (start : Nat) : List Node -> List Node
  | [] => []
  | node :: rest =>
    if (⟨start, node, above⟩ : Site).isFieldOf body then trimAmong body above (start + 1) rest
    else trim body above start node :: trimAmong body above (start + 1) rest

end

def withoutFieldsOf (root : Node) (body : List Nat) : Node :=
  root.trim body [] 0

variable (body : List Nat) (above : Trail)

@[simp]
theorem trim_named (position : Nat) (node : Node) : (node.trim body above position).named = node.named := by
  cases node
  rfl

mutual

theorem trim_alike (above : Trail) (position : Nat) : (node : Node) ->
    node.Alike (kind? above) (node.trim body above position)
  | ⟨kind, text, line, named, field, missing, children⟩ => by
    let here : Site := ⟨position, ⟨kind, text, line, named, field, missing, children⟩, above⟩
    have below (plain : kind.isAnonymousBody (kind? above) = false) := trimAmong_alike here.trail plain 0 children
    rw [Alike, trim, outline, outline]
    split
    next => rfl
    next plain => exact congrArg _ (below (by simpa using plain)).symm

theorem trimAmong_alike (above : Trail) (plain : atBody above = false) (start : Nat) : (nodes : List Node) ->
    outlineAll (kind? above) (trimAmong body above start nodes) = outlineAll (kind? above) nodes
  | [] => rfl
  | node :: rest => by
    have kept : (⟨start, node, above⟩ : Site).isFieldOf body = false := by simp [Site.isFieldOf, plain]
    rw [trimAmong, kept, if_neg Bool.false_ne_true, outlineAll, outlineAll,
      trimAmong_alike above plain (start + 1) rest, trim_alike above start node]

end

end Node

/-- An address before and after: the same one, unless it is inside the body. -/
def Moved (body address moved : List Nat) : Prop :=
  moved = address ∨ body <:+ address ∧ body <:+ moved

namespace Site

structure Kept (body : List Nat) (site other : Site) : Prop where
  alike : site.Alike other
  place : Moved body site.address other.address

def isHidden (body : List Nat) (site : Site) : Bool :=
  inFieldOf body site.trail

theorem inFieldOf_of_suffix {body : List Nat} {outer inner : Trail} (inside : outer <:+ inner)
    (hidden : inFieldOf body outer = true) : inFieldOf body inner = true := by
  induction inner with
  | nil => rwa [List.suffix_nil.mp inside] at hidden
  | cons step above ih =>
    rcases List.suffix_cons_iff.mp inside with rfl | below
    · exact hidden
    · rw [inFieldOf, ih below, Bool.or_true]

theorem filter_preorder_of_hidden {body : List Nat} {above : Trail} {position : Nat} {node : Node}
    (hidden : inFieldOf body ((position, node) :: above) = true) :
    (preorder above position node).filter (fun site => !site.isHidden body) = [] := by
  rw [List.filter_eq_nil_iff]
  intro site member
  simpa [isHidden] using inFieldOf_of_suffix (trail_suffix_of_mem_preorder above position site node member) hidden

section Keep

variable (body : List Nat)

mutual

theorem kept_preorder (above beyond : Trail) (around : Trail.Alike above beyond) (position index : Nat) :
    (node : Node) -> Moved body (position :: above.map Prod.fst) (index :: beyond.map Prod.fst) ->
      inFieldOf body ((position, node) :: above) = false ->
      List.Forall₂ (Kept body) ((preorder above position node).filter fun site => !site.isHidden body)
        (preorder beyond index (node.trim body above position))
  | ⟨kind, text, line, named, field, missing, children⟩, place, shown => by
    let here : Site := ⟨position, ⟨kind, text, line, named, field, missing, children⟩, above⟩
    let there : Site := ⟨index, here.node.trim body above position, beyond⟩
    have inner : here.Alike there := .cons (Node.trim_alike body above position here.node) around
    have below := kept_among here.trail there.trail inner shown 0 0 children (place.imp_left fun same => ⟨same, rfl⟩)
    rw [preorder_eq, preorder_eq, List.filter_cons_of_pos (by simp [isHidden, Site.trail, shown])]
    exact .cons ⟨inner, place⟩ below

theorem kept_among (above beyond : Trail) (around : Trail.Alike above beyond) (outside : inFieldOf body above = false)
    (start index : Nat) : (nodes : List Node) ->
      (beyond.map Prod.fst = above.map Prod.fst ∧ index = start ∨
        body <:+ above.map Prod.fst ∧ body <:+ beyond.map Prod.fst) ->
      List.Forall₂ (Kept body) ((preorderAmong above start nodes).filter fun site => !site.isHidden body)
        (preorderAmong beyond index (Node.trimAmong body above start nodes))
  | [], _ => .nil
  | node :: rest, aligned => by
    rw [preorderAmong, List.filter_append, Node.trimAmong]
    cases field : (⟨start, node, above⟩ : Site).isFieldOf body with
    | true =>
      -- The field goes with everything below it, and what follows it moves up, inside the body.
      have hidden : inFieldOf body ((start, node) :: above) = true := by rw [inFieldOf, field, Bool.true_or]
      have gone : (if node.named then preorder above start node else []).filter (fun site => !site.isHidden body) =
          [] := by
        split
        · exact filter_preorder_of_hidden hidden
        · rfl
      have around_body : above.map Prod.fst = body := above_of_isFieldOf field
      rw [gone, List.nil_append, if_pos rfl]
      refine kept_among above beyond around outside (start + 1) index rest (.inr ?_)
      rcases aligned with ⟨same, -⟩ | inside
      · exact ⟨around_body ▸ List.suffix_rfl, same ▸ around_body ▸ List.suffix_rfl⟩
      · exact inside
    | false =>
      have shown : inFieldOf body ((start, node) :: above) = false := by rw [inFieldOf, field, outside, Bool.false_or]
      rw [if_neg Bool.false_ne_true, preorderAmong, Node.trim_named]
      apply List.rel_append
      · split
        · refine kept_preorder above beyond around start index node ?_ shown
          rcases aligned with ⟨same, rfl⟩ | ⟨inside, still⟩
          · exact .inl (by rw [same])
          · exact .inr ⟨inside.trans (List.suffix_cons _ _), still.trans (List.suffix_cons _ _)⟩
        · exact .nil
      · apply kept_among above beyond around outside (start + 1) (index + 1) rest
        exact aligned.imp_left fun same => ⟨same.1, congrArg (· + 1) same.2⟩

end

theorem kept_sites (root : Node) :
    List.Forall₂ (Kept body) ((sites root).filter fun site => !site.isHidden body)
      (sites (root.withoutFieldsOf body)) :=
  kept_preorder body [] [] .nil 0 0 root (.inl rfl) (by simp [inFieldOf, isFieldOf, atBody])

theorem kept_filter (root : Node) (test : Site -> Bool)
    (blind : ∀ site other : Site, site.Alike other -> test site = test other) :
    List.Forall₂ (Kept body) (((sites root).filter test).filter fun site => !site.isHidden body)
      ((sites (root.withoutFieldsOf body)).filter test) := by
  rw [List.filter_comm]
  refine List.rel_filter ?_ (kept_sites body root)
  intro site other kept
  simp only [blind site other kept.alike]

theorem kept_declared (root : Node) :
    List.Forall₂ (Kept body) ((declared root).filter fun site => !site.isHidden body)
      (declared (root.withoutFieldsOf body)) :=
  kept_filter body root declaresMethod fun _ _ => Alike.declaresMethod_eq

theorem suffix_of_isFieldOf {body : List Nat} {site : Site} (field : site.isFieldOf body = true) :
    body <:+ site.address := by
  rw [← above_of_isFieldOf field]
  exact List.suffix_cons _ _

theorem suffix_of_isHidden {site : Site} (hidden : site.isHidden body = true) : body <:+ site.address := by
  have inside (trail : Trail) (through : inFieldOf body trail = true) : body <:+ trail.map Prod.fst := by
    induction trail with
    | nil => simp [inFieldOf] at through
    | cons step above ih =>
      rcases Bool.or_eq_true_iff.mp through with field | further
      · exact suffix_of_isFieldOf field
      · exact (ih further).trans (List.suffix_cons _ _)
  exact inside site.trail hidden

theorem isHidden_field {site : Site} (declares : site.declaresField = true) :
    site.isHidden body = site.isFieldOf body := by
  have outside (trail : Trail) (noField : (trail.any fun step => step.2.kind.isField) = false) :
      inFieldOf body trail = false := by
    induction trail with
    | nil => rfl
    | cons step above ih =>
      rw [List.any_cons, Bool.or_eq_false_iff] at noField
      simp [inFieldOf, isFieldOf, noField.1, ih noField.2]
  simp only [declaresField, Bool.and_eq_true, Bool.not_eq_true'] at declares
  rw [isHidden, Site.trail, inFieldOf, outside site.above declares.2, Bool.or_false]

theorem kept_fields (root : Node) :
    List.Forall₂ (Kept body) ((fields root).filter fun site => !site.isFieldOf body)
      (fields (root.withoutFieldsOf body)) := by
  have kept := kept_filter body root declaresField fun _ _ => Alike.declaresField_eq
  rw [List.filter_congr fun site member => by rw [isHidden_field body (List.mem_filter.mp member).2]] at kept
  exact kept

end Keep

end Site

end RouteAtlas
