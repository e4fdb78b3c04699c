import RouteAtlas.Reading.Walk

set_option autoImplicit false

namespace RouteAtlas.Method

variable (file : FileContext) (parent : Option Kind) (place : Place) (node : Node) (outer : TypeFrame)

theorem list_type (type : node.kind.isTypeDeclaration = true) :
    list file parent place node =
      (place.enterNamed file (Kind.holdsLocals parent) node).bind fun entered =>
        (listAll file node.kind entered.1 node.children).map fun found => (found.1, entered.2) := by
  obtain ⟨kind, text, line, named, field, missing, children⟩ := node
  dsimp only at type
  simp only [list, type, if_true]
  rfl

theorem list_outside (type : node.kind.isTypeDeclaration = false) (outside : place.frame = none) :
    list file parent place node = listAll file node.kind place node.children := by
  obtain ⟨kind, text, line, named, field, missing, children⟩ := node
  dsimp only at type
  simp only [list, type, outside, Bool.false_eq_true, if_false]

theorem list_body (type : node.kind.isTypeDeclaration = false) (inside : place.frame = some outer)
    (body : node.kind.isAnonymousBody parent = true) :
    list file parent place node =
      (listAll file node.kind (Place.enterAnonymous outer place.counts).1 node.children).map fun found =>
        (found.1, (Place.enterAnonymous outer place.counts).2) := by
  obtain ⟨kind, text, line, named, field, missing, children⟩ := node
  dsimp only at type body
  simp only [list, type, inside, body, Bool.false_eq_true, if_true, if_false]
  rfl

theorem list_method (inside : place.frame = some outer) (method : node.kind = .methodDeclaration) :
    list file parent place node =
      (ofNode file outer node).bind fun own =>
        (listAll file node.kind place node.children).map fun found => (own :: found.1, found.2) := by
  obtain ⟨kind, text, line, named, field, missing, children⟩ := node
  obtain rfl : kind = .methodDeclaration := method
  simp only [list, inside]
  cases ofNode file outer ⟨.methodDeclaration, text, line, named, field, missing, children⟩ <;> rfl

theorem list_plain (type : node.kind.isTypeDeclaration = false) (inside : place.frame = some outer)
    (body : node.kind.isAnonymousBody parent = false) (method : node.kind ≠ .methodDeclaration) :
    list file parent place node = listAll file node.kind place node.children := by
  obtain ⟨kind, text, line, named, field, missing, children⟩ := node
  dsimp only at type body method
  simp only [list, type, inside, body, method, Bool.false_eq_true, if_false]
  cases listAll file kind place children <;> rfl

theorem listAll_unnamed (kind : Kind) (rest : List Node) (unnamed : node.named = false) :
    listAll file kind place (node :: rest) = listAll file kind place rest := by
  simp only [listAll, unnamed, Bool.false_eq_true, if_false]
  change (listAll file kind place rest).bind (fun others => .ok ([] ++ others.1, others.2)) = _
  cases listAll file kind place rest <;> rfl

theorem listAll_named (kind : Kind) (rest : List Node) (named : node.named = true) :
    listAll file kind place (node :: rest) =
      (list file (some kind) place node).bind fun first =>
        (listAll file kind { place with counts := first.2 } rest).map fun others =>
          (first.1 ++ others.1, others.2) := by
  simp only [listAll, named, if_true]
  rfl

end RouteAtlas.Method

namespace RouteAtlas.Listing

/-- The given number stands for the type and the counts of a place. -/
def Shows (listing : Listing) (frame : Option Nat) (place : Place) : Prop :=
  match frame with
  | none => place.frame = none
  | some number =>
    ∃ shared, listing.frames[number]? = some shared ∧ place = { frame := some shared.type, counts := shared.counts }

theorem modify_append {Entry : Type} (change : Entry -> Entry) (first second : List Entry) (index : Nat)
    (within : index < first.length) :
    (first ++ second).modify index change = first.modify index change ++ second := by
  induction first generalizing index with
  | nil => simp at within
  | cons head rest ih =>
    cases index with
    | zero => rfl
    | succ index =>
      have later := ih index (by simpa using within)
      simp [later]

theorem Shows.within {listing : Listing} {frame : Option Nat} {place : Place} (shows : listing.Shows frame place) :
    ∀ number, frame = some number -> number < listing.frames.length := by
  rintro number rfl
  obtain ⟨shared, present, -⟩ := shows
  exact (List.getElem?_eq_some_iff.mp present).1

theorem length_setCounts (frames : List SharedFrame) (frame : Option Nat) (counts : LocalCounts) :
    (setCounts frames frame counts).length = frames.length := by
  cases frame <;> simp [setCounts]

theorem setCounts_append (frames : List SharedFrame) (frame : Option Nat) (counts : LocalCounts)
    (more : List SharedFrame) (within : ∀ number, frame = some number -> number < frames.length) :
    setCounts (frames ++ more) frame counts = setCounts frames frame counts ++ more := by
  cases frame with
  | none => rfl
  | some number => exact modify_append _ _ _ _ (within number rfl)

theorem setCounts_setCounts (frames : List SharedFrame) (frame : Option Nat) (first second : LocalCounts) :
    setCounts (setCounts frames frame first) frame second = setCounts frames frame second := by
  cases frame with
  | none => rfl
  | some number =>
    simp only [setCounts, List.modify_modify_eq]
    rfl

theorem setCounts_same (listing : Listing) (frame : Option Nat) (place : Place) (shows : listing.Shows frame place) :
    setCounts listing.frames frame place.counts = listing.frames := by
  cases frame with
  | none => rfl
  | some number =>
    obtain ⟨shared, present, rfl⟩ := shows
    apply List.ext_getElem?
    intro index
    simp only [setCounts, List.getElem?_modify]
    by_cases same : number = index
    · subst same
      simp [present]
    · simp [same]

theorem shows_setCounts (listing : Listing) (frame : Option Nat) (place : Place) (shows : listing.Shows frame place)
    (counts : LocalCounts) (more : List SharedFrame) (methods : List Method) :
    Shows { frames := setCounts listing.frames frame counts ++ more, methods := methods } frame
      { place with counts := counts } := by
  cases frame with
  | none => exact shows
  | some number =>
    obtain ⟨shared, present, rfl⟩ := shows
    obtain ⟨within, found⟩ := List.getElem?_eq_some_iff.mp present
    refine ⟨{ shared with counts := counts }, ?_, rfl⟩
    simp [setCounts, List.getElem?_append, within, found]

theorem place_eq (listing : Listing) (frame : Option Nat) (place : Place) (shows : listing.Shows frame place)
    (type : TypeFrame) (inside : place.frame = some type) : listing.place frame = place := by
  cases frame with
  | none => simp [Shows, inside] at shows
  | some number =>
    obtain ⟨shared, present, rfl⟩ := shows
    simp [Listing.place, frameAt?, present]

theorem place_frame (listing : Listing) (frame : Option Nat) (place : Place) (shows : listing.Shows frame place) :
    (listing.place frame).frame = place.frame := by
  cases inside : place.frame with
  | some type => rw [place_eq listing frame place shows type inside, inside]
  | none =>
    cases frame with
    | none => rfl
    | some number =>
      obtain ⟨shared, -, rfl⟩ := shows
      simp at inside

theorem shows_opened (listing : Listing) (outer : Option Nat) (entered : Place × LocalCounts) (type : TypeFrame)
    (inside : entered.1.frame = some type) :
    (listing.opened outer entered).Shows (some listing.frames.length) entered.1 := by
  refine ⟨{ type := type, counts := entered.1.counts }, ?_, ?_⟩
  · simp [opened, inside, length_setCounts]
  · rw [← inside]

/-- What a walk has found when it goes on with the pending visits: the methods of one part of the tree, and the counts
after it. -/
def Continues (file : FileContext) (pending : List Visit) (listing : Listing) (frame : Option Nat)
    (started : Except LiteralError Listing) : Except LiteralError (List Method × LocalCounts) -> Prop
  | .error reason => started = .error reason
  | .ok (methods, counts) =>
    ∃ more, started = run file pending
      { frames := setCounts listing.frames frame counts ++ more, methods := listing.methods ++ methods }

theorem continues_opened (file : FileContext) (pending : List Visit) (listing : Listing) (outer : Option Nat)
    (entered : Place × LocalCounts) (type : TypeFrame) (inside : entered.1.frame = some type)
    (started : Except LiteralError Listing) (walked : Except LiteralError (List Method × LocalCounts))
    (continues : Continues file pending (listing.opened outer entered) (some listing.frames.length) started walked) :
    Continues file pending listing outer started (walked.map fun found => (found.1, entered.2)) := by
  -- Of no use after the body are the counts of a type that was entered; the outer counts were set on entering.
  cases walked with
  | error reason => exact continues
  | ok found =>
    obtain ⟨more, reached⟩ := continues
    have split : setCounts (listing.opened outer entered).frames (some listing.frames.length) found.2 =
        setCounts listing.frames outer entered.2 ++ [{ type := type, counts := found.2 }] := by
      simp only [opened, inside, Option.toList_some, List.map_cons, List.map_nil]
      rw [← length_setCounts listing.frames outer entered.2, setCounts, List.modify_eq_take_drop]
      simp
    refine ⟨{ type := type, counts := found.2 } :: more, ?_⟩
    rw [reached, split]
    simp [opened]

theorem continues_after (file : FileContext) (pending : List Visit) (listing : Listing) (frame : Option Nat)
    (place : Place) (shows : listing.Shows frame place) (counts : LocalCounts) (more : List SharedFrame)
    (methods : List Method) (started : Except LiteralError Listing)
    (walked : Except LiteralError (List Method × LocalCounts))
    (continues : Continues file pending
      { frames := setCounts listing.frames frame counts ++ more, methods := listing.methods ++ methods } frame started
      walked) :
    Continues file pending listing frame started (walked.map fun others => (methods ++ others.1, others.2)) := by
  cases walked with
  | error reason => exact continues
  | ok others =>
    obtain ⟨later, reached⟩ := continues
    have within : ∀ number, frame = some number -> number < (setCounts listing.frames frame counts).length := by
      rw [length_setCounts]
      exact shows.within
    refine ⟨more ++ later, ?_⟩
    rw [reached, setCounts_append _ _ _ _ within, setCounts_setCounts, List.append_assoc, List.append_assoc]

theorem continues_found (file : FileContext) (pending : List Visit) (listing : Listing) (frame : Option Nat)
    (own : Method) (started : Except LiteralError Listing) (walked : Except LiteralError (List Method × LocalCounts))
    (continues : Continues file pending { listing with methods := listing.methods ++ [own] } frame started walked) :
    Continues file pending listing frame started (walked.map fun found => (own :: found.1, found.2)) := by
  cases walked with
  | error reason => exact continues
  | ok found =>
    obtain ⟨more, reached⟩ := continues
    refine ⟨more, ?_⟩
    rw [reached, List.append_assoc]
    rfl

theorem enterNamed_frame (file : FileContext) (isLocal : Bool) (place : Place) (node : Node)
    (entered : Place × LocalCounts) (success : place.enterNamed file isLocal node = .ok entered) :
    ∃ type, entered.1.frame = some type := by
  simp only [Place.enterNamed] at success
  cases read : AnnotationUse.ofDeclaration file.constants (place.frame.elim [] TypeFrame.owners) node with
  | error reason => simp [read, Except.map] at success
  | ok annotations =>
    simp only [read, Except.map, Except.ok.injEq] at success
    rw [← success]
    exact ⟨_, rfl⟩

section Visits

variable (file : FileContext) (listing : Listing) (here : Visit) (place : Place) (outer : TypeFrame)
  (shows : listing.Shows here.frame place)

include shows

theorem visit_type (type : here.node.kind.isTypeDeclaration = true) :
    listing.visit file here =
      (place.enterNamed file (Kind.holdsLocals here.parent) here.node).map fun entered =>
        (listing.opened here.frame entered, some listing.frames.length) := by
  simp only [visit, type, if_true]
  cases inside : place.frame with
  | some outer =>
    rw [place_eq listing here.frame place shows outer inside]
    cases place.enterNamed file (Kind.holdsLocals here.parent) here.node <;> rfl
  | none =>
    -- Outside every type the counts are not kept, so the two places may differ in them.
    obtain ⟨node, parent, frame⟩ := here
    cases frame with
    | some number =>
      obtain ⟨shared, -, rfl⟩ := shows
      simp at inside
    | none =>
      have top : (listing.place none).frame = none := rfl
      simp only [Place.enterNamed, Place.nameType, inside, top, Option.elim_none]
      cases AnnotationUse.ofDeclaration file.constants [] node <;> rfl

theorem visit_outside (type : here.node.kind.isTypeDeclaration = false) (outside : place.frame = none) :
    listing.visit file here = .ok (listing, here.frame) := by
  have standing := place_frame listing here.frame place shows
  rw [outside] at standing
  simp only [visit, type, standing, Bool.false_eq_true, if_false]

theorem visit_body (type : here.node.kind.isTypeDeclaration = false) (inside : place.frame = some outer)
    (body : here.node.kind.isAnonymousBody here.parent = true) :
    listing.visit file here =
      .ok (listing.opened here.frame (Place.enterAnonymous outer place.counts), some listing.frames.length) := by
  have same := place_eq listing here.frame place shows outer inside
  simp only [visit, type, same, inside, body, Bool.false_eq_true, if_false, if_true]

theorem visit_method (inside : place.frame = some outer) (method : here.node.kind = .methodDeclaration) :
    listing.visit file here = (Method.ofNode file outer here.node).map fun found =>
      ({ listing with methods := listing.methods ++ [found] }, here.frame) := by
  have same := place_eq listing here.frame place shows outer inside
  have type : here.node.kind.isTypeDeclaration = false := by rw [method]; rfl
  have body : here.node.kind.isAnonymousBody here.parent = false := by rw [method]; rfl
  unfold visit
  simp only [same, inside]
  rw [if_neg (by simp [type]), if_neg (by simp [body]), if_pos method]
  cases Method.ofNode file outer here.node <;> rfl

theorem visit_plain (type : here.node.kind.isTypeDeclaration = false) (inside : place.frame = some outer)
    (body : here.node.kind.isAnonymousBody here.parent = false) (method : here.node.kind ≠ .methodDeclaration) :
    listing.visit file here = .ok (listing, here.frame) := by
  have same := place_eq listing here.frame place shows outer inside
  simp only [visit, type, same, inside, body, method, Bool.false_eq_true, if_false]

end Visits

theorem run_cons (file : FileContext) (here : Visit) (pending : List Visit) (listing : Listing) :
    run file (here :: pending) listing = (listing.visit file here).bind fun visited =>
      run file (Visit.below here.node.kind visited.2 here.node.children ++ pending) visited.1 := by
  rw [run]
  rfl

mutual

theorem continues_list (file : FileContext) (pending : List Visit) (parent : Option Kind) (listing : Listing)
    (frame : Option Nat) (place : Place) (shows : listing.Shows frame place) :
    (node : Node) -> Continues file pending listing frame (run file (⟨node, parent, frame⟩ :: pending) listing)
      (Method.list file parent place node)
  | ⟨kind, text, line, named, field, missing, children⟩ => by
    let node : Node := ⟨kind, text, line, named, field, missing, children⟩
    let here : Visit := ⟨node, parent, frame⟩
    rw [run_cons]
    cases type : node.kind.isTypeDeclaration with
    | true =>
      rw [visit_type file listing here place shows type, Method.list_type file parent place node type]
      cases entering : place.enterNamed file (Kind.holdsLocals parent) node with
      | error reason => rfl
      | ok entered =>
        obtain ⟨inner, inside⟩ := enterNamed_frame file _ place node entered entering
        exact continues_opened file pending listing frame entered inner inside _ _
          (continues_listAll file pending kind _ _ entered.1 (shows_opened listing frame entered inner inside) children)
    | false =>
      cases standing : place.frame with
      | none =>
        rw [visit_outside file listing here place shows type standing,
          Method.list_outside file parent place node type standing]
        exact continues_listAll file pending kind listing frame place shows children
      | some outer =>
        cases body : node.kind.isAnonymousBody parent with
        | true =>
          rw [visit_body file listing here place outer shows type standing body,
            Method.list_body file parent place node outer type standing body]
          exact continues_opened file pending listing frame _ _ rfl _ _
            (continues_listAll file pending kind _ _ _ (shows_opened listing frame _ _ rfl) children)
        | false =>
          by_cases method : node.kind = .methodDeclaration
          · rw [visit_method file listing here place outer shows standing method,
              Method.list_method file parent place node outer standing method]
            cases Method.ofNode file outer node with
            | error reason => rfl
            | ok found =>
              exact continues_found file pending listing frame found _ _
                (continues_listAll file pending kind { listing with methods := listing.methods ++ [found] } frame place
                  shows children)
          · rw [visit_plain file listing here place outer shows type standing body method,
              Method.list_plain file parent place node outer type standing body method]
            exact continues_listAll file pending kind listing frame place shows children

theorem continues_listAll (file : FileContext) (pending : List Visit) (parent : Kind) (listing : Listing)
    (frame : Option Nat) (place : Place) (shows : listing.Shows frame place) :
    (children : List Node) -> Continues file pending listing frame
      (run file (Visit.below parent frame children ++ pending) listing) (Method.listAll file parent place children)
  | [] => by
    refine ⟨[], ?_⟩
    simp [Visit.below, setCounts_same listing frame place shows]
  | node :: rest => by
    cases named : node.named with
    | false =>
      have below : Visit.below parent frame (node :: rest) = Visit.below parent frame rest := by
        simp [Visit.below, named]
      rw [below, Method.listAll_unnamed file place node parent rest named]
      exact continues_listAll file pending parent listing frame place shows rest
    | true =>
      have below : Visit.below parent frame (node :: rest) ++ pending =
          ⟨node, some parent, frame⟩ :: (Visit.below parent frame rest ++ pending) := by
        simp [Visit.below, named]
      have first := continues_list file (Visit.below parent frame rest ++ pending) (some parent) listing frame place
        shows node
      rw [below, Method.listAll_named file place node parent rest named]
      cases walked : Method.list file (some parent) place node with
      | error reason =>
        rw [walked] at first
        exact first
      | ok found =>
        rw [walked] at first
        obtain ⟨more, reached⟩ := first
        rw [reached]
        exact continues_after file pending listing frame place shows found.2 more found.1 _ _
          (continues_listAll file pending parent _ frame _ (shows_setCounts listing frame place shows _ more _) rest)

end

end RouteAtlas.Listing

namespace RouteAtlas.Method

theorem walk_eq_list (file : FileContext) (root : Node) :
    walk file root = (list file none Place.top root).map Prod.fst := by
  have started := Listing.continues_list file [] none Listing.empty none Place.top rfl root
  unfold walk
  cases listed : list file none Place.top root with
  | error reason =>
    rw [listed] at started
    rw [started]
    rfl
  | ok found =>
    rw [listed] at started
    obtain ⟨more, reached⟩ := started
    rw [reached, Listing.run]
    rfl

end RouteAtlas.Method
