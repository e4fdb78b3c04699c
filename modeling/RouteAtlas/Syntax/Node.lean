import RouteAtlas.Text.Basic
import RouteAtlas.Syntax.Kind

set_option autoImplicit false

namespace RouteAtlas

structure Node where
  kind : Kind
  text : Text
  line : Nat
  named : Bool
  field : Option Field
  missing : Bool
  children : List Node

namespace Node

def isComment (node : Node) : Bool :=
  node.kind.isComment

def isBroken (node : Node) : Bool :=
  node.kind = .error || node.missing

mutual

def hasError : Node -> Bool
  | ⟨kind, _, _, _, _, missing, children⟩ => kind = .error || missing || anyHasError children

def anyHasError : List Node -> Bool
  | [] => false
  | node :: rest => hasError node || anyHasError rest

end

mutual

def size : Node -> Nat
  | ⟨_, _, _, _, _, _, children⟩ => sizeAll children + 1

def sizeAll : List Node -> Nat
  | [] => 0
  | node :: rest => size node + sizeAll rest

end

theorem size_eq (node : Node) : node.size = sizeAll node.children + 1 := by
  cases node
  rfl

theorem sizeAll_append (first second : List Node) : sizeAll (first ++ second) = sizeAll first + sizeAll second := by
  induction first with
  | nil => simp [sizeAll]
  | cons node rest ih => simp only [List.cons_append, sizeAll, ih, Nat.add_assoc]

def searchError? : List Node -> Option Nat
  -- The line of the first error in nodes that are still to be searched. The children of a node come before everything
  -- else, and those of a node without error are left out.
  | [] => none
  | node :: pending =>
    if node.isBroken then some node.line
    else if node.hasError then searchError? (node.children ++ pending)
    else searchError? pending
termination_by pending => sizeAll pending
decreasing_by
  · rw [sizeAll_append, sizeAll, size_eq]
    omega
  · rw [sizeAll, size_eq]
    omega

def firstErrorLine? (root : Node) : Option Nat :=
  searchError? [root]

def child? (node : Node) (field : Field) : Option Node :=
  node.children.find? fun child => child.field = some field

def childrenAt (node : Node) (field : Field) : List Node :=
  node.children.filter fun child => child.field = some field

def textAt (node : Node) (field : Field) : Text :=
  (node.child? field).elim [] Node.text

def namedChildren (node : Node) : List Node :=
  node.children.filter Node.named

def modifiers? (node : Node) : Option Node :=
  node.children.find? fun child => child.kind = .modifiers

def isFinal (node : Node) : Bool :=
  node.modifiers?.any fun modifiers => modifiers.children.any fun child => child.kind = .finalKeyword

def annotationNodes (node : Node) : List Node :=
  match node.modifiers? with
  | none => []
  | some modifiers => modifiers.namedChildren.filter fun child => child.kind.isAnnotation

end Node

end RouteAtlas
