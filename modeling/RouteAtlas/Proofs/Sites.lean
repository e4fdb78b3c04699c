import RouteAtlas.Syntax.Node

set_option autoImplicit false

namespace RouteAtlas

/-- The way from a node to the root, innermost node first, each with its position among its siblings. -/
abbrev Trail := List (Nat × Node)

namespace Trail

def kind? (trail : Trail) : Option Kind :=
  trail.head?.map fun step => step.2.kind

@[simp]
theorem kind?_cons (step : Nat × Node) (above : Trail) : kind? (step :: above) = some step.2.kind :=
  rfl

end Trail

structure Site where
  position : Nat
  node : Node
  above : Trail

namespace Site

def trail (site : Site) : Trail :=
  (site.position, site.node) :: site.above

def address (site : Site) : List Nat :=
  site.position :: site.above.map Prod.fst

mutual

def preorder (above : Trail) (position : Nat) : Node -> List Site
  | ⟨kind, text, line, named, field, missing, children⟩ =>
    let here : Site := ⟨position, ⟨kind, text, line, named, field, missing, children⟩, above⟩
    here :: preorderAmong here.trail 0 children

def preorderAmong (above : Trail) (start : Nat) : List Node -> List Site
  | [] => []
  | node :: rest =>
    (if node.named then preorder above start node else []) ++ preorderAmong above (start + 1) rest

end

end Site

def sites (root : Node) : List Site :=
  Site.preorder [] 0 root

namespace Site

theorem preorder_eq (above : Trail) (position : Nat) (node : Node) :
    preorder above position node =
      ⟨position, node, above⟩ :: preorderAmong ((position, node) :: above) 0 node.children := by
  cases node
  rfl

inductive Reached (root : Node) : Site -> Prop
  | root : Reached root ⟨0, root, []⟩
  | child {outer : Site} (index : Nat) (node : Node) (reached : Reached root outer)
      (present : outer.node.children[index]? = some node) (named : node.named = true) :
      Reached root ⟨index, node, outer.trail⟩

mutual

theorem reached_of_mem_preorder (root : Node) (above : Trail) (position : Nat) (site : Site) :
    (node : Node) -> Reached root ⟨position, node, above⟩ -> site ∈ preorder above position node -> Reached root site
  | ⟨kind, text, line, named, field, missing, children⟩, here, member => by
    rw [preorder_eq, List.mem_cons] at member
    rcases member with rfl | below
    · exact here
    · exact reached_of_mem_among root _ 0 site here children (by simp) below

theorem reached_of_mem_among (root : Node) (outer : Site) (start : Nat) (site : Site) (here : Reached root outer) :
    (children : List Node) -> (∀ index, children[index]? = outer.node.children[start + index]?) ->
      site ∈ preorderAmong outer.trail start children -> Reached root site
  | [], _, member => by simp [preorderAmong] at member
  | node :: rest, aligned, member => by
    simp only [preorderAmong, List.mem_append] at member
    rcases member with first | later
    · have present : outer.node.children[start]? = some node := by simpa using (aligned 0).symm
      by_cases named : node.named = true
      · rw [if_pos named] at first
        exact reached_of_mem_preorder root _ start site node (.child start node here present named) first
      · simp [named] at first
    · refine reached_of_mem_among root outer (start + 1) site here rest ?_ later
      intro index
      have next := aligned (index + 1)
      simpa [Nat.add_assoc, Nat.add_comm 1] using next

end

theorem mem_among_of_child (above : Trail) (start index : Nat) (child : Node) (named : child.named = true)
    (children : List Node) (present : children[index]? = some child) :
    ⟨start + index, child, above⟩ ∈ preorderAmong above start children := by
  induction children generalizing start index with
  | nil => simp at present
  | cons node rest ih =>
    simp only [preorderAmong, List.mem_append]
    cases index with
    | zero =>
      left
      obtain rfl : node = child := by simpa using present
      rw [if_pos named, preorder_eq]
      exact List.mem_cons_self
    | succ index =>
      right
      have later := ih (start + 1) index (by simpa using present)
      simpa [Nat.add_assoc, Nat.add_comm 1] using later

mutual

theorem child_mem_preorder (above : Trail) (position : Nat) (outer : Site) (index : Nat) (child : Node)
    (present : outer.node.children[index]? = some child) (named : child.named = true) :
    (node : Node) -> outer ∈ preorder above position node ->
      ⟨index, child, outer.trail⟩ ∈ preorder above position node
  | ⟨kind, text, line, isNamed, field, missing, children⟩, member => by
    rw [preorder_eq, List.mem_cons] at member ⊢
    right
    rcases member with rfl | below
    · rw [← Nat.zero_add index]
      exact mem_among_of_child _ 0 index child named children present
    · exact child_mem_among _ 0 outer index child present named children below

theorem child_mem_among (above : Trail) (start : Nat) (outer : Site) (index : Nat) (child : Node)
    (present : outer.node.children[index]? = some child) (named : child.named = true) :
    (children : List Node) -> outer ∈ preorderAmong above start children ->
      ⟨index, child, outer.trail⟩ ∈ preorderAmong above start children
  | [], member => by simp [preorderAmong] at member
  | node :: rest, member => by
    simp only [preorderAmong, List.mem_append] at member ⊢
    rcases member with first | later
    · left
      by_cases isNamed : node.named = true
      · rw [if_pos isNamed] at first ⊢
        exact child_mem_preorder above start outer index child present named node first
      · simp [isNamed] at first
    · right
      exact child_mem_among above (start + 1) outer index child present named rest later

end

theorem mem_sites_iff (root : Node) (site : Site) : site ∈ sites root ↔ Reached root site := by
  constructor
  · exact reached_of_mem_preorder root [] 0 site root .root
  · intro reached
    induction reached with
    | root =>
      rw [sites, preorder_eq]
      exact List.mem_cons_self
    | child index node reached present named ih =>
      exact child_mem_preorder [] 0 _ index node present named root ih

theorem mem_sites_of_suffix {root : Node} {site outer : Site} (member : site ∈ sites root)
    (around : outer.trail <:+ site.above) : outer ∈ sites root := by
  rw [mem_sites_iff] at member ⊢
  induction member with
  | root => exact absurd (List.suffix_nil.mp around) (List.cons_ne_nil _ _)
  | child index node reached present named ih =>
    rcases List.suffix_cons_iff.mp around with same | further
    · obtain ⟨step, above⟩ := List.cons.inj same
      obtain ⟨position, inner⟩ := Prod.mk.inj step
      cases outer
      subst position inner above
      exact reached
    · exact ih further

mutual

theorem trail_suffix_of_mem_preorder (above : Trail) (position : Nat) (site : Site) :
    (node : Node) -> site ∈ preorder above position node -> (position, node) :: above <:+ site.trail
  | ⟨kind, text, line, named, field, missing, children⟩, member => by
    rw [preorder_eq, List.mem_cons] at member
    rcases member with rfl | below
    · exact List.suffix_rfl
    · obtain ⟨index, child, -, inside⟩ := trail_suffix_of_mem_among _ 0 site children below
      exact (List.suffix_cons (index, child) _).trans inside

theorem trail_suffix_of_mem_among (above : Trail) (start : Nat) (site : Site) :
    (children : List Node) -> site ∈ preorderAmong above start children ->
      ∃ index node, start ≤ index ∧ (index, node) :: above <:+ site.trail
  | [], member => by simp [preorderAmong] at member
  | node :: rest, member => by
    simp only [preorderAmong, List.mem_append] at member
    rcases member with first | later
    · by_cases named : node.named = true
      · rw [if_pos named] at first
        exact ⟨start, node, Nat.le_refl start, trail_suffix_of_mem_preorder above start site node first⟩
      · simp [named] at first
    · obtain ⟨index, child, past, inside⟩ := trail_suffix_of_mem_among above (start + 1) site rest later
      exact ⟨index, child, by omega, inside⟩

end

theorem address_suffix_of_mem_preorder (above : Trail) (position : Nat) (site : Site) (node : Node)
    (member : site ∈ preorder above position node) : position :: above.map Prod.fst <:+ site.address :=
  (trail_suffix_of_mem_preorder above position site node member).map Prod.fst

theorem address_suffix_of_mem_among (above : Trail) (start : Nat) (site : Site) (children : List Node)
    (member : site ∈ preorderAmong above start children) :
    ∃ index, start ≤ index ∧ index :: above.map Prod.fst <:+ site.address := by
  obtain ⟨index, node, past, inside⟩ := trail_suffix_of_mem_among above start site children member
  exact ⟨index, past, inside.map Prod.fst⟩

theorem above_suffix_of_mem_among (above : Trail) (start : Nat) (site : Site) (children : List Node)
    (member : site ∈ preorderAmong above start children) : above <:+ site.above := by
  obtain ⟨index, node, -, inside⟩ := trail_suffix_of_mem_among above start site children member
  rcases List.suffix_cons_iff.mp inside with same | below
  · exact (List.cons.inj same).2 ▸ List.suffix_rfl
  · exact (List.suffix_cons _ _).trans below

theorem sibling_eq {first second : Nat} {above address : List Nat} (left : first :: above <:+ address)
    (right : second :: above <:+ address) : first = second := by
  have nested := List.suffix_of_suffix_length_le left right (by simp)
  have same := nested.eq_of_length (by simp)
  exact (List.cons.inj same).1

theorem not_below_itself {index : Nat} {above : List Nat} : ¬ index :: above <:+ above := by
  intro inside
  have shorter := inside.length_le
  simp only [List.length_cons] at shorter
  omega

/-- The sites listed so far are neither at nor below any sibling from the given position on. -/
def Fresh (above : Trail) (position : Nat) (before : List Site) : Prop :=
  ∀ site ∈ before, ∀ index, position ≤ index -> ¬ index :: above.map Prod.fst <:+ site.address

theorem Fresh.ne_here {here : Site} {before : List Site} (fresh : Fresh here.above here.position before) (site : Site)
    (member : site ∈ before) : site.address ≠ here.address := by
  intro same
  apply fresh site member here.position (Nat.le_refl here.position)
  exact same ▸ List.suffix_rfl

theorem Fresh.enter {here : Site} {before : List Site} (fresh : Fresh here.above here.position before) :
    Fresh here.trail 0 (before ++ [here]) := by
  intro site member index _ inside
  rcases List.mem_append.mp member with earlier | last
  · exact fresh site earlier here.position (Nat.le_refl here.position) ((List.suffix_cons index _).trans inside)
  · rw [List.mem_singleton.mp last] at inside
    exact not_below_itself inside

theorem Fresh.leave {above : Trail} {position : Nat} {before : List Site} (fresh : Fresh above position before)
    (node : Node) : Fresh above (position + 1) (before ++ preorder above position node) := by
  intro site member index past inside
  rcases List.mem_append.mp member with earlier | below
  · exact fresh site earlier index (by omega) inside
  · have same := sibling_eq (address_suffix_of_mem_preorder above position site node below) inside
    omega

theorem Fresh.skip {above : Trail} {position : Nat} {before : List Site} (fresh : Fresh above position before) :
    Fresh above (position + 1) before := by
  intro site member index past
  exact fresh site member index (by omega)

mutual

theorem addresses_nodup_preorder (above : Trail) (position : Nat) :
    (node : Node) -> ((preorder above position node).map address).Nodup
  | ⟨kind, text, line, named, field, missing, children⟩ => by
    rw [preorder_eq, List.map_cons, List.nodup_cons]
    refine ⟨?_, addresses_nodup_among _ 0 children⟩
    intro repeated
    obtain ⟨site, below, same⟩ := List.mem_map.mp repeated
    obtain ⟨index, -, inside⟩ := address_suffix_of_mem_among _ 0 site children below
    rw [same] at inside
    exact not_below_itself inside

theorem addresses_nodup_among (above : Trail) (start : Nat) :
    (children : List Node) -> ((preorderAmong above start children).map address).Nodup
  | [] => by simp [preorderAmong]
  | node :: rest => by
    rw [preorderAmong, List.map_append, List.nodup_append]
    refine ⟨?_, addresses_nodup_among above (start + 1) rest, ?_⟩
    · split
      · exact addresses_nodup_preorder above start node
      · simp
    · intro first firstMember second secondMember same
      obtain ⟨site, below, rfl⟩ := List.mem_map.mp firstMember
      obtain ⟨other, later, rfl⟩ := List.mem_map.mp secondMember
      by_cases named : node.named = true
      · rw [if_pos named] at below
        have left := address_suffix_of_mem_preorder above start site node below
        obtain ⟨index, past, right⟩ := address_suffix_of_mem_among above (start + 1) other rest later
        rw [same] at left
        have equal := sibling_eq left right
        omega
      · simp [named] at below

end

theorem addresses_nodup (root : Node) : ((sites root).map address).Nodup :=
  addresses_nodup_preorder [] 0 root

end Site

end RouteAtlas
