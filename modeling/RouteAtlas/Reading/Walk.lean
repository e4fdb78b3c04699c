import RouteAtlas.Reading.Methods

/-!
The methods of a file, listed by a loop over the nodes that are still to be visited, in source order.

A node waits together with the number of the type that it stands in. All nodes of a body share that type, and with it
the counts of its local types, so that a count taken at one node is seen at every later one.
-/

set_option autoImplicit false

namespace RouteAtlas

/-- A type whose body is being read, with the counts of its local types so far. -/
structure SharedFrame where
  type : TypeFrame
  counts : LocalCounts

structure Visit where
  node : Node
  parent : Option Kind
  frame : Option Nat

namespace Visit

def below (parent : Kind) (frame : Option Nat) (children : List Node) : List Visit :=
  (children.filter Node.named).map fun child => { node := child, parent := some parent, frame := frame }

def weight : List Visit -> Nat
  | [] => 0
  | here :: pending => here.node.size + weight pending

theorem weight_append (first second : List Visit) : weight (first ++ second) = weight first + weight second := by
  induction first with
  | nil => simp [weight]
  | cons here pending ih => simp only [List.cons_append, weight, ih, Nat.add_assoc]

theorem weight_below_le (parent : Kind) (frame : Option Nat) (children : List Node) :
    weight (below parent frame children) ≤ Node.sizeAll children := by
  induction children with
  | nil => exact Nat.le_refl 0
  | cons child rest ih =>
    cases named : child.named with
    | true =>
      have first : below parent frame (child :: rest) = ⟨child, some parent, frame⟩ :: below parent frame rest := by
        simp [below, named]
      simp only [first, weight, Node.sizeAll]
      omega
    | false =>
      have skipped : below parent frame (child :: rest) = below parent frame rest := by simp [below, named]
      rw [skipped, Node.sizeAll]
      omega

end Visit

/-- The types opened by a walk, by number, and the methods that it found. -/
structure Listing where
  frames : List SharedFrame
  methods : List Method

namespace Listing

def empty : Listing :=
  { frames := [], methods := [] }

def frameAt? (listing : Listing) (frame : Option Nat) : Option SharedFrame :=
  frame.bind fun number => listing.frames[number]?

def place (listing : Listing) (frame : Option Nat) : Place :=
  match listing.frameAt? frame with
  | none => Place.top
  | some shared => { frame := some shared.type, counts := shared.counts }

def setCounts (frames : List SharedFrame) (frame : Option Nat) (counts : LocalCounts) : List SharedFrame :=
  match frame with
  | none => frames
  | some number => frames.modify number fun shared => { shared with counts := counts }

def opened (listing : Listing) (outer : Option Nat) (entered : Place × LocalCounts) : Listing :=
  let inside := entered.1.frame.toList.map fun type => { type := type, counts := entered.1.counts }
  { listing with frames := setCounts listing.frames outer entered.2 ++ inside }

def visit (file : FileContext) (listing : Listing) (here : Visit) : Except LiteralError (Listing × Option Nat) :=
  let place := listing.place here.frame
  if here.node.kind.isTypeDeclaration then do
    let entered <- place.enterNamed file (Kind.holdsLocals here.parent) here.node
    return (listing.opened here.frame entered, some listing.frames.length)
  else match place.frame with
    | none => .ok (listing, here.frame)
    | some frame =>
      if here.node.kind.isAnonymousBody here.parent then
        .ok (listing.opened here.frame (Place.enterAnonymous frame place.counts), some listing.frames.length)
      else if here.node.kind = .methodDeclaration then do
        let method <- Method.ofNode file frame here.node
        return ({ listing with methods := listing.methods ++ [method] }, here.frame)
      else .ok (listing, here.frame)

def run (file : FileContext) : List Visit -> Listing -> Except LiteralError Listing
  -- Visits the nodes that are still to be visited; the children of a node come before everything else.
  | [], listing => .ok listing
  | here :: pending, listing => do
    let visited <- listing.visit file here
    run file (Visit.below here.node.kind visited.2 here.node.children ++ pending) visited.1
termination_by pending => Visit.weight pending
decreasing_by
  have below := Visit.weight_below_le here.node.kind visited.2 here.node.children
  have here_size : here.node.size = Node.sizeAll here.node.children + 1 := by
    cases here.node
    rfl
  rw [Visit.weight_append]
  simp only [Visit.weight]
  omega

end Listing

namespace Method

def walk (file : FileContext) (root : Node) : Except LiteralError (List Method) :=
  (Listing.run file [{ node := root, parent := none, frame := none }] Listing.empty).map Listing.methods

end Method

end RouteAtlas
