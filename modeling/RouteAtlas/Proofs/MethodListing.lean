import Mathlib.Data.List.Forall2
import RouteAtlas.Proofs.MethodWalk
import RouteAtlas.Proofs.Sketch
import RouteAtlas.Proofs.TypeNames

/-!
The methods of a file are those of its sites, in preorder.

A walk hands on the counts of local types; `Standing` says what they are at each moment: for every name, how many sites
listed so far take their number from the type around the walk. Main statement: `walk_lists_declared_methods`.
-/

set_option autoImplicit false

namespace RouteAtlas

theorem LocalCounts.count_increment (counts : LocalCounts) (name other : Text) :
    (counts.increment name).count other = counts.count other + if other = name then 1 else 0 := by
  by_cases same : other = name
  · subst same
    simp [count, increment, lookup_alter_self]
  · simp [count, increment, lookup_alter_of_ne _ _ _ _ same, same]

namespace Site

open Trail

theorem counter?_frame (site : Site) (address : List Nat) (name : Text)
    (counter : site.counter? = some (address, name)) :
    ∃ outer, frame? site.above = some outer ∧ outer.address = address := by
  simp only [counter?] at counter
  obtain ⟨outer, found, numbered⟩ := Option.bind_eq_some_iff.mp counter
  refine ⟨outer, found, ?_⟩
  split at numbered
  · split at numbered
    · exact (Prod.mk.inj (Option.some.inj numbered)).1
    · simp at numbered
  · split at numbered
    · exact (Prod.mk.inj (Option.some.inj numbered)).1
    · simp at numbered

theorem countP_entered (before : List Site) (here : Site) (name : Text)
    (fresh : Fresh here.above here.position before) :
    (before ++ [here]).countP (fun site => site.counter? = some (here.address, name)) = 0 := by
  rw [List.countP_eq_zero]
  intro site member counted
  obtain ⟨outer, found, same⟩ := counter?_frame site _ name (by simpa using counted)
  have inside := address_suffix_of_frame? site.above outer found
  rw [same] at inside
  rcases List.mem_append.mp member with earlier | last
  · exact fresh site earlier here.position (Nat.le_refl here.position) (inside.trans (List.suffix_cons _ _))
  · rw [List.mem_singleton.mp last] at inside
    exact not_below_itself inside

theorem countP_inside (here outer : Site) (children : List Node) (name : Text) (opens : frame? here.trail = some here)
    (found : frame? here.above = some outer) :
    (preorderAmong here.trail 0 children).countP (fun site => site.counter? = some (outer.address, name)) = 0 := by
  rw [List.countP_eq_zero]
  intro site member counted
  obtain ⟨nearest, around, same⟩ := counter?_frame site _ name (by simpa using counted)
  have above := above_suffix_of_mem_among here.trail 0 site children member
  obtain ⟨other, present, nested⟩ := frame?_of_suffix site.above here.trail here above opens
  obtain rfl : nearest = other := Option.some.inj (around.symm.trans present)
  rw [same] at nested
  exact not_below_itself (nested.trans (address_suffix_of_frame? here.above outer found))

theorem number_eq (root : Node) (before rest : List Site) (here : Site) (whole : sites root = before ++ here :: rest)
    (fresh : Fresh here.above here.position before) :
    here.number root = before.countP (fun site => site.counter? = here.counter?) + 1 := by
  have others : ∀ site ∈ before, decide (site.address ≠ here.address) = true := by
    intro site member
    exact decide_eq_true (fresh.ne_here site member)
  rw [number, whole, List.takeWhile_append_of_pos others]
  simp

end Site

open Trail

/-- A place tells the type around it and the counts of the sites listed so far. -/
inductive Standing (file : FileContext) (root : Node) (above : Trail) (before : List Site) : Place -> Prop
  | outside (frameless : frame? above = none) (counts : LocalCounts) :
      Standing file root above before { frame := none, counts := counts }
  | inside (outer : Site) (found : frame? above = some outer) (type : TypeFrame)
      (fullName : type.fullName = typeName file root above) (owners : type.owners = owners above)
      (annotations : typeAnnotations file above = .ok type.annotations) (counts : LocalCounts)
      (counted : ∀ name, counts.count name = before.countP fun site => site.counter? = some (outer.address, name)) :
      Standing file root above before { frame := some type, counts := counts }

namespace Standing

variable {file : FileContext} {root : Node} {before : List Site} {place : Place}

theorem frameless {above : Trail} (standing : Standing file root above before place) (outside : place.frame = none) :
    frame? above = none := by
  cases standing with
  | outside frameless counts => exact frameless
  | inside outer found type fullName owners annotations counts counted => simp at outside

theorem framed {above : Trail} (standing : Standing file root above before place) (type : TypeFrame)
    (inside : place.frame = some type) : ∃ outer, frame? above = some outer := by
  cases standing with
  | outside frameless counts => simp at inside
  | inside outer found type fullName owners annotations counts counted => exact ⟨outer, found⟩

theorem owners_eq {above : Trail} (standing : Standing file root above before place) :
    place.frame.elim [] TypeFrame.owners = owners above := by
  cases standing with
  | outside frameless counts => exact (owners_of_frameless above frameless).symm
  | inside outer found type fullName owners annotations counts counted => exact owners

section Enter

variable {here : Site} {rest : List Site}

theorem enter_type (standing : Standing file root here.above before place)
    (whole : sites root = before ++ here :: rest) (fresh : Site.Fresh here.above here.position before)
    (type : here.node.kind.isTypeDeclaration = true) (annotations : List AnnotationUse)
    (read : here.annotations file = .ok annotations) :
    let named := place.nameType file (Kind.holdsLocals (kind? here.above)) (here.node.textAt .name)
    Standing file root here.trail (before ++ [here])
      { frame := some {
          fullName := named.1
          owners := here.node.textAt .name :: place.frame.elim [] TypeFrame.owners
          annotations := annotations }
        counts := [] } := by
  intro named
  refine .inside here ?_ _ ?_ ?_ ?_ [] ?_
  · simp [frame?, Site.trail, type]
  · cases standing with
    | outside frameless counts => simp [named, Place.nameType, typeName_cons, Site.trail, type, frameless]
    | inside outer found frame fullName owners annotations counts counted =>
      cases isLocal : Kind.holdsLocals (kind? here.above) with
      | false => simp [named, Place.nameType, typeName_cons, Site.trail, type, found, isLocal, fullName]
      | true =>
        have counter : here.counter? = some (outer.address, here.node.textAt .name) := by
          simp [Site.counter?, found, type, isLocal]
        have number := Site.number_eq root before rest here whole fresh
        rw [counter, ← counted] at number
        simp [named, Place.nameType, typeName_cons, Site.trail, type, found, isLocal, fullName, number,
          LocalCounts.count_increment]
  · simp [owners, Site.trail, type, standing.owners_eq]
  · simpa [typeAnnotations, Site.trail, type, Site.annotations] using read
  · intro name
    exact (Site.countP_entered before here name fresh).symm

theorem enter_body (outer : TypeFrame) (counts : LocalCounts)
    (standing : Standing file root here.above before { frame := some outer, counts := counts })
    (whole : sites root = before ++ here :: rest) (fresh : Site.Fresh here.above here.position before)
    (type : here.node.kind.isTypeDeclaration = false)
    (body : here.node.kind.isAnonymousBody (kind? here.above) = true) :
    Standing file root here.trail (before ++ [here]) (Place.enterAnonymous outer counts).1 := by
  cases standing with
  | inside around found frame fullName owners annotations counts counted =>
    have counter : here.counter? = some (around.address, []) := by
      simp [Site.counter?, found, type, body]
    have number := Site.number_eq root before rest here whole fresh
    rw [counter, ← counted] at number
    refine .inside here ?_ _ ?_ ?_ ?_ [] ?_
    · simp [frame?, Site.trail, type, body, found]
    · simp [typeName_cons, Site.trail, type, body, found, fullName, number, LocalCounts.count_increment]
    · simpa [Trail.owners, Site.trail, type] using owners
    · simp [typeAnnotations, Site.trail, type, body]
    · intro name
      exact (Site.countP_entered before here name fresh).symm

theorem counts_type (standing : Standing file root here.above before place)
    (type : here.node.kind.isTypeDeclaration = true) (outer : Site) (found : frame? here.above = some outer)
    (name : Text) :
    (place.nameType file (Kind.holdsLocals (kind? here.above)) (here.node.textAt .name)).2.count name =
      place.counts.count name + if here.counter? = some (outer.address, name) then 1 else 0 := by
  cases standing with
  | outside frameless counts => simp [found] at frameless
  | inside around present frame fullName owners annotations counts counted =>
    cases isLocal : Kind.holdsLocals (kind? here.above) with
    | false => simp [Place.nameType, Site.counter?, found, type, isLocal]
    | true => simp [Place.nameType, Site.counter?, found, type, isLocal, LocalCounts.count_increment, eq_comm]

theorem counts_body (type : here.node.kind.isTypeDeclaration = false)
    (body : here.node.kind.isAnonymousBody (kind? here.above) = true) (outer : Site)
    (found : frame? here.above = some outer) (frame : TypeFrame) (counts : LocalCounts) (name : Text) :
    (Place.enterAnonymous frame counts).2.count name =
      counts.count name + if here.counter? = some (outer.address, name) then 1 else 0 := by
  simp [Place.enterAnonymous, Site.counter?, found, type, body, LocalCounts.count_increment, eq_comm]

theorem leave (standing : Standing file root here.above before place) (opens : frame? here.trail = some here)
    (counts : LocalCounts)
    (counted : ∀ outer, frame? here.above = some outer -> ∀ name, counts.count name =
      place.counts.count name + if here.counter? = some (outer.address, name) then 1 else 0) :
    Standing file root here.above (before ++ here :: Site.preorderAmong here.trail 0 here.node.children)
      { place with counts := counts } := by
  cases standing with
  | outside frameless _ => exact .outside frameless counts
  | inside outer found type fullName owners annotations earlier before_counted =>
    refine .inside outer found type fullName owners annotations counts ?_
    intro name
    rw [counted outer found name, before_counted, List.countP_append, List.countP_cons,
      Site.countP_inside here outer here.node.children name opens found]
    simp

end Enter

theorem of_same {above other : Trail} (sameFrame : frame? other = frame? above)
    (sameType : (frame? above).isSome = true -> typeName file root other = typeName file root above ∧
      owners other = owners above ∧ typeAnnotations file other = typeAnnotations file above)
    (standing : Standing file root above before place) : Standing file root other before place := by
  cases standing with
  | outside frameless counts => exact .outside (sameFrame.trans frameless) counts
  | inside outer found type fullName owners annotations counts counted =>
    obtain ⟨sameName, sameOwners, sameAnnotations⟩ := sameType (by rw [found]; rfl)
    exact .inside outer (sameFrame.trans found) type (fullName.trans sameName.symm) (owners.trans sameOwners.symm)
      (sameAnnotations.trans annotations) counts counted

section Pass

variable {here : Site}

theorem inner_iff (type : here.node.kind.isTypeDeclaration = false)
    (plain : here.node.kind.isAnonymousBody (kind? here.above) = false ∨ frame? here.above = none) :
    Standing file root here.trail before place ↔ Standing file root here.above before place := by
  have sameFrame : frame? here.trail = frame? here.above := by
    rcases plain with noBody | frameless
    · simp [frame?, Site.trail, type, noBody]
    · simp [frame?, Site.trail, type, frameless]
  have sameType (framed : (frame? here.above).isSome = true) :
      typeName file root here.trail = typeName file root here.above ∧ owners here.trail = owners here.above ∧
        typeAnnotations file here.trail = typeAnnotations file here.above := by
    have noBody : here.node.kind.isAnonymousBody (kind? here.above) = false := by
      rcases plain with noBody | frameless
      · exact noBody
      · simp [frameless] at framed
    simp [typeName_cons, Trail.owners, typeAnnotations, Site.trail, type, noBody]
  constructor
  · apply of_same sameFrame.symm
    intro framed
    obtain ⟨sameName, sameOwners, sameAnnotations⟩ := sameType (by rwa [sameFrame] at framed)
    exact ⟨sameName.symm, sameOwners.symm, sameAnnotations.symm⟩
  · exact of_same sameFrame sameType

theorem pass (standing : Standing file root here.above before place)
    (type : here.node.kind.isTypeDeclaration = false)
    (plain : here.node.kind.isAnonymousBody (kind? here.above) = false ∨ frame? here.above = none) :
    Standing file root here.trail (before ++ [here]) place := by
  rw [inner_iff type plain]
  cases standing with
  | outside frameless counts => exact .outside frameless counts
  | inside outer found frame fullName owners annotations counts counted =>
    have noBody : here.node.kind.isAnonymousBody (kind? here.above) = false := by simpa [found] using plain
    have counter : here.counter? = none := by simp [Site.counter?, found, type, noBody]
    refine .inside outer found frame fullName owners annotations counts ?_
    intro name
    rw [counted name, List.countP_append]
    simp [counter]

end Pass

end Standing

theorem Site.methodsOf_cons (file : FileContext) (root : Node) (site : Site) (rest : List Site) :
    Site.methodsOf file root (site :: rest) = (site.methods file root).bind fun own =>
      (Site.methodsOf file root rest).map fun others => own ++ others := by
  rw [Site.methodsOf]
  rfl

theorem Site.methodsOf_append (file : FileContext) (root : Node) (first second : List Site) :
    Site.methodsOf file root (first ++ second) = (Site.methodsOf file root first).bind fun own =>
      (Site.methodsOf file root second).map fun others => own ++ others := by
  induction first with
  | nil =>
    simp only [List.nil_append, Site.methodsOf, Except.bind]
    cases Site.methodsOf file root second <;> rfl
  | cons site rest ih =>
    rw [List.cons_append, Site.methodsOf_cons, Site.methodsOf_cons, ih]
    cases site.methods file root with
    | error reason => rfl
    | ok own =>
      cases Site.methodsOf file root rest with
      | error reason => rfl
      | ok others => cases Site.methodsOf file root second <;> simp [Except.bind, Except.map]

def Tells (file : FileContext) (root : Node) (above : Trail) (before listed : List Site) (place : Place) :
    Except LiteralError (List Method × LocalCounts) -> Prop
  | .error reason => Site.methodsOf file root listed = .error reason
  | .ok (methods, counts) =>
    Site.methodsOf file root listed = .ok methods ∧
      Standing file root above (before ++ listed) { place with counts := counts }

section Tells

variable {file : FileContext} {root : Node} {before : List Site} {place : Place}

theorem Tells.wrap {here : Site} {below : List Site} {inner : Place} (after : LocalCounts -> LocalCounts)
    (own : List Method) (read : here.methods file root = .ok own)
    (outward : ∀ counts, Standing file root here.trail (before ++ [here] ++ below) { inner with counts := counts } ->
      Standing file root here.above (before ++ here :: below) { place with counts := after counts })
    (walked : Except LiteralError (List Method × LocalCounts))
    (tells : Tells file root here.trail (before ++ [here]) below inner walked) :
    Tells file root here.above before (here :: below) place
      (walked.map fun found => (own ++ found.1, after found.2)) := by
  cases walked with
  | error reason =>
    change Site.methodsOf file root (here :: below) = .error reason
    rw [Site.methodsOf_cons, read, show Site.methodsOf file root below = .error reason from tells]
    rfl
  | ok found =>
    obtain ⟨told, standing⟩ := tells
    refine ⟨?_, outward found.2 standing⟩
    rw [Site.methodsOf_cons, read, told]
    rfl

theorem Tells.pass {here : Site} {below : List Site} (own : List Method) (read : here.methods file root = .ok own)
    (type : here.node.kind.isTypeDeclaration = false)
    (plain : here.node.kind.isAnonymousBody (kind? here.above) = false ∨ frame? here.above = none)
    (walked : Except LiteralError (List Method × LocalCounts))
    (tells : Tells file root here.trail (before ++ [here]) below place walked) :
    Tells file root here.above before (here :: below) place
      (walked.map fun found => (own ++ found.1, found.2)) := by
  apply Tells.wrap id own read _ walked tells
  intro counts standing
  rw [Standing.inner_iff type plain] at standing
  simpa using standing

theorem Tells.fail {here : Site} {below : List Site} (reason : LiteralError)
    (unread : here.methods file root = .error reason) :
    Tells file root here.above before (here :: below) place (.error reason) := by
  change Site.methodsOf file root (here :: below) = .error reason
  rw [Site.methodsOf_cons, unread]
  rfl

theorem Tells.append {above : Trail} {first second : List Site} (methods : List Method) (counts : LocalCounts)
    (told : Tells file root above before first place (.ok (methods, counts)))
    (walked : Except LiteralError (List Method × LocalCounts))
    (tells : Tells file root above (before ++ first) second { place with counts := counts } walked) :
    Tells file root above before (first ++ second) place
      (walked.map fun others => (methods ++ others.1, others.2)) := by
  cases walked with
  | error reason =>
    change Site.methodsOf file root (first ++ second) = .error reason
    rw [Site.methodsOf_append, told.1, show Site.methodsOf file root second = .error reason from tells]
    rfl
  | ok others =>
    obtain ⟨later, standing⟩ := tells
    refine ⟨?_, ?_⟩
    · rw [Site.methodsOf_append, told.1, later]
      rfl
    · rw [← List.append_assoc]
      exact standing

end Tells

section Single

variable (file : FileContext) (root : Node)

theorem ofNode_eq (before : List Site) (here : Site) (outer : TypeFrame) (counts : LocalCounts)
    (standing : Standing file root here.above before { frame := some outer, counts := counts }) :
    Method.ofNode file outer here.node = here.method file root := by
  cases standing with
  | inside around found frame fullName owners annotations counts counted =>
    rw [Method.ofNode, Site.method, owners, fullName, annotations]
    rfl

theorem map_nil_append (walked : Except LiteralError (List Method × LocalCounts)) :
    walked.map (fun found => ([] ++ found.1, found.2)) = walked := by
  cases walked <;> rfl

theorem methods_method (here : Site) (method : here.node.kind = .methodDeclaration)
    (inside : (frame? here.above).isSome = true) :
    here.methods file root = (here.method file root).map fun found => [found] := by
  simp [Site.methods, Site.declaresMethod, method, inside, Kind.isTypeDeclaration]

theorem methods_plain (here : Site) (type : here.node.kind.isTypeDeclaration = false)
    (plain : here.node.kind ≠ .methodDeclaration ∨ frame? here.above = none) :
    here.methods file root = .ok [] := by
  rcases plain with other | frameless
  · simp [Site.methods, Site.declaresMethod, type, other]
  · simp [Site.methods, Site.declaresMethod, type, frameless]

theorem methods_body (here : Site) (body : here.node.kind.isAnonymousBody (kind? here.above) = true) :
    here.methods file root = .ok [] := by
  have kind : here.node.kind = .classBody := by
    simp only [Kind.isAnonymousBody, Bool.and_eq_true, decide_eq_true_eq] at body
    exact body.1
  exact methods_plain file root here (by rw [kind]; rfl) (.inl (by simp [kind]))

end Single

theorem tells_site (file : FileContext) (root : Node) (here : Site) (before after : List Site) (place : Place)
    (standing : Standing file root here.above before place) (fresh : Site.Fresh here.above here.position before)
    (whole : sites root = before ++ here :: Site.preorderAmong here.trail 0 here.node.children ++ after)
    (below : ∀ inner, Standing file root here.trail (before ++ [here]) inner ->
      Tells file root here.trail (before ++ [here]) (Site.preorderAmong here.trail 0 here.node.children) inner
        (Method.listAll file here.node.kind inner here.node.children)) :
    Tells file root here.above before (here :: Site.preorderAmong here.trail 0 here.node.children) place
      (Method.list file (kind? here.above) place here.node) := by
  have enters : sites root = before ++ here :: (Site.preorderAmong here.trail 0 here.node.children ++ after) := by
    rw [List.append_assoc] at whole
    exact whole
  cases type : here.node.kind.isTypeDeclaration with
  | true =>
    rw [Method.list_type file _ place here.node type, Place.enterNamed, standing.owners_eq]
    cases read : here.annotations file with
    | error reason =>
      rw [show AnnotationUse.ofDeclaration file.constants (owners here.above) here.node = _ from read]
      exact Tells.fail reason (by simp [Site.methods, type, read, Except.map])
    | ok annotations =>
      rw [show AnnotationUse.ofDeclaration file.constants (owners here.above) here.node = _ from read]
      have inner := standing.enter_type enters fresh type annotations read
      rw [standing.owners_eq] at inner
      have own : here.methods file root = .ok [] := by simp [Site.methods, type, read, Except.map]
      refine Tells.wrap (fun _ => _) [] own ?_ _ (below _ inner)
      intro counts _
      refine standing.leave (by simp [frame?, Site.trail, type]) _ ?_
      intro outer found name
      exact standing.counts_type type outer found name
  | false =>
    obtain ⟨frame, counts⟩ := place
    cases frame with
    | none =>
      have frameless := standing.frameless rfl
      have own := methods_plain file root here type (.inr frameless)
      have told := Tells.pass [] own type (.inr frameless) _ (below _ (standing.pass type (.inr frameless)))
      rw [Method.list_outside file _ _ here.node type rfl]
      rwa [map_nil_append] at told
    | some outer =>
      obtain ⟨around, found⟩ := standing.framed outer rfl
      cases body : here.node.kind.isAnonymousBody (kind? here.above) with
      | true =>
        have own := methods_body file root here body
        have inner := standing.enter_body outer counts enters fresh type body
        rw [Method.list_body file _ _ here.node outer type rfl body]
        refine Tells.wrap (fun _ => _) [] own ?_ _ (below _ inner)
        intro later _
        refine standing.leave (by simp [frame?, Site.trail, type, body, found]) _ ?_
        intro around found name
        exact Standing.counts_body type body around found outer counts name
      | false =>
        by_cases method : here.node.kind = .methodDeclaration
        · have told := below _ (standing.pass type (.inl body))
          have own := methods_method file root here method (by simp [found])
          rw [Method.list_method file _ _ here.node outer rfl method, ofNode_eq file root before here outer counts standing]
          cases read : here.method file root with
          | error reason =>
            rw [read] at own
            exact Tells.fail reason own
          | ok found =>
            rw [read] at own
            exact Tells.pass [found] own type (.inl body) _ told
        · have own := methods_plain file root here type (.inl method)
          have told := Tells.pass [] own type (.inl body) _ (below _ (standing.pass type (.inl body)))
          rw [Method.list_plain file _ _ here.node outer type rfl body method]
          rwa [map_nil_append] at told

mutual

theorem tells_list (file : FileContext) (root : Node) (above : Trail) (position : Nat) (before after : List Site)
    (place : Place) (standing : Standing file root above before place) (fresh : Site.Fresh above position before) :
    (node : Node) -> sites root = before ++ Site.preorder above position node ++ after ->
      Tells file root above before (Site.preorder above position node) place (Method.list file (kind? above) place node)
  | ⟨kind, text, line, named, field, missing, children⟩, whole => by
    let here : Site := ⟨position, ⟨kind, text, line, named, field, missing, children⟩, above⟩
    rw [Site.preorder_eq] at whole ⊢
    apply tells_site file root here before after place standing fresh whole
    intro inner entered
    have split : sites root = before ++ [here] ++ Site.preorderAmong here.trail 0 children ++ after := by
      rw [whole, List.append_assoc, List.append_assoc, List.append_assoc]
      rfl
    exact tells_listAll file root here.trail kind rfl 0 (before ++ [here]) after inner entered fresh.enter children split

theorem tells_listAll (file : FileContext) (root : Node) (above : Trail) (parent : Kind) (around : kind? above = parent)
    (start : Nat) (before after : List Site) (place : Place) (standing : Standing file root above before place)
    (fresh : Site.Fresh above start before) :
    (children : List Node) -> sites root = before ++ Site.preorderAmong above start children ++ after ->
      Tells file root above before (Site.preorderAmong above start children) place
        (Method.listAll file parent place children)
  | [], _ => by
    refine ⟨rfl, ?_⟩
    rw [Site.preorderAmong, List.append_nil]
    exact standing
  | node :: rest, whole => by
    cases named : node.named with
    | false =>
      have same : Site.preorderAmong above start (node :: rest) = Site.preorderAmong above (start + 1) rest := by
        simp [Site.preorderAmong, named]
      rw [same] at whole ⊢
      rw [Method.listAll_unnamed file place node parent rest named]
      exact tells_listAll file root above parent around (start + 1) before after place standing fresh.skip rest whole
    | true =>
      have same : Site.preorderAmong above start (node :: rest) =
          Site.preorder above start node ++ Site.preorderAmong above (start + 1) rest := by
        simp [Site.preorderAmong, named]
      rw [same] at whole ⊢
      rw [Method.listAll_named file place node parent rest named]
      have first := tells_list file root above start before (Site.preorderAmong above (start + 1) rest ++ after) place
        standing fresh node (by rw [whole]; simp only [List.append_assoc])
      rw [around] at first
      cases walked : Method.list file (some parent) place node with
      | error reason =>
        rw [walked] at first
        change Site.methodsOf file root _ = .error reason
        rw [Site.methodsOf_append, show Site.methodsOf file root (Site.preorder above start node) = _ from first]
        rfl
      | ok found =>
        rw [walked] at first
        exact Tells.append found.1 found.2 first _
          (tells_listAll file root above parent around (start + 1) _ after _ first.2 (fresh.leave node) rest
            (by rw [whole]; simp only [List.append_assoc]))

end

theorem list_eq_methodsOf (file : FileContext) (root : Node) :
    (Method.list file none Place.top root).map Prod.fst = Site.methodsOf file root (sites root) := by
  have told := tells_list file root [] 0 [] [] Place.top (.outside rfl []) (by simp [Site.Fresh]) root
    (by simp [sites])
  change Tells file root [] [] (sites root) Place.top (Method.list file none Place.top root) at told
  cases walked : Method.list file none Place.top root with
  | error reason =>
    rw [walked] at told
    exact told.symm
  | ok found =>
    rw [walked] at told
    exact told.1.symm

def declared (root : Node) : List Site :=
  (sites root).filter Site.declaresMethod

theorem forall₂_methods (file : FileContext) (root : Node) (site : Site) (own : List Method)
    (told : site.methods file root = .ok own) :
    List.Forall₂ (fun site method => site.method file root = .ok method) ([site].filter Site.declaresMethod) own := by
  cases declares : site.declaresMethod with
  | false =>
    have empty : own = [] := by
      simp only [Site.methods, declares, Bool.false_eq_true, if_false] at told
      split at told
      · cases read : site.annotations file <;> simp_all [Except.map]
      · simpa using told.symm
    simp [declares, empty]
  | true =>
    have kind : site.node.kind = .methodDeclaration := by
      simp only [Site.declaresMethod, Bool.and_eq_true, decide_eq_true_eq] at declares
      exact declares.1
    simp only [Site.methods, declares, if_true, kind, Kind.isTypeDeclaration, Bool.false_eq_true, if_false] at told
    cases read : site.method file root with
    | error reason => simp [read, Except.map] at told
    | ok method =>
      obtain rfl : [method] = own := by simpa [read, Except.map] using told
      simpa [declares] using read

theorem forall₂_methodsOf (file : FileContext) (root : Node) (listed : List Site) (methods : List Method)
    (told : Site.methodsOf file root listed = .ok methods) :
    List.Forall₂ (fun site method => site.method file root = .ok method) (listed.filter Site.declaresMethod)
      methods := by
  induction listed generalizing methods with
  | nil =>
    obtain rfl : [] = methods := by simpa [Site.methodsOf] using told
    exact .nil
  | cons site rest ih =>
    rw [Site.methodsOf_cons] at told
    cases first : site.methods file root with
    | error reason => simp [first, Except.bind] at told
    | ok own =>
      cases later : Site.methodsOf file root rest with
      | error reason => simp [first, later, Except.bind, Except.map] at told
      | ok others =>
        obtain rfl : own ++ others = methods := by simpa [first, later, Except.bind, Except.map] using told
        rw [show site :: rest = [site] ++ rest from rfl, List.filter_append]
        exact List.rel_append (forall₂_methods file root site own first) (ih others later)

/-- The loop over an explicit stack, with counts that all nodes of a body share, lists exactly the method declarations
inside some type, each once and in preorder, with the full name and the annotations of the nearest type around it. It
fails only where the annotations of a type or of such a method cannot be read. -/
theorem walk_lists_declared_methods (file : FileContext) (root : Node) :
    Method.walk file root = (Method.list file none Place.top root).map Prod.fst ∧
    Method.walk file root = Site.methodsOf file root (sites root) ∧
    (∀ methods, Method.walk file root = .ok methods ->
      List.Forall₂ (fun site method => site.method file root = .ok method) (declared root) methods) ∧
    ((declared root).map Site.address).Nodup ∧
    (∀ site, site ∈ declared root ↔
      Site.Reached root site ∧ site.node.kind = .methodDeclaration ∧ (frame? site.above).isSome = true) := by
  have listed : Method.walk file root = Site.methodsOf file root (sites root) := by
    rw [Method.walk_eq_list, list_eq_methodsOf]
  refine ⟨Method.walk_eq_list file root, listed, ?_, ?_, ?_⟩
  · intro methods success
    rw [listed] at success
    exact forall₂_methodsOf file root (sites root) methods success
  · exact (Site.addresses_nodup root).sublist (List.filter_sublist.map Site.address)
  · intro site
    simp [declared, Site.declaresMethod, Site.mem_sites_iff]

namespace Sketch

def nestedTypes : Node :=
  file [
    branch .classDeclaration none [
      branch .modifiers none [marker []],
      bare (some .name) ['A'],
      body [
        classOf ['B'] [method ['b']],
        branch .methodDeclaration none [
          bare (some .name) ['a'],
          branch (.other "block") none [
            classOf ['L'] [method ['l']],
            branch .objectCreation none [body [method ['o']]],
            classOf ['L'] [method ['k']]]]]],
    method ['z'],
    branch .objectCreation none [body [method ['y'], classOf ['C'] [method ['c']]]]]

end Sketch

open Sketch in
theorem nested_types_named :
    let file : FileContext := { package := ['p'], constants := Constants.empty }
    let listing : List (Text × List Text) :=
      [("p.A$B#b", []), ("p.A#a", [['M']]), ("p.A$1L#l", []), ("p.A$1#o", []), ("p.A$2L#k", []), ("p.C#c", [])]
    ∃ methods, Method.walk file nestedTypes = .ok methods ∧
      List.Forall₂ (fun site method => site.method file nestedTypes = .ok method) (RouteAtlas.declared nestedTypes)
        methods ∧
      methods.map (fun method => (method.id, method.typeAnnotations.map AnnotationUse.name)) = listing := by
  intro file listing
  obtain ⟨-, listed, described, -⟩ := walk_lists_declared_methods file nestedTypes
  have told : (Site.methodsOf file nestedTypes (sites nestedTypes)).map
      (List.map fun method => (method.id, method.typeAnnotations.map AnnotationUse.name)) = .ok listing := by
    decide +kernel
  rw [← listed] at told
  cases walked : Method.walk file nestedTypes with
  | error reason => simp [walked, Except.map] at told
  | ok methods =>
    rw [walked] at told
    exact ⟨methods, rfl, described methods walked, Except.ok.inj told⟩

end RouteAtlas
