import RouteAtlas.Proofs.MethodListing

set_option autoImplicit false

namespace RouteAtlas

open Trail

namespace Site

def opensType (site : Site) : Bool :=
  site.node.kind.isTypeDeclaration ||
    (site.node.kind.isAnonymousBody (kind? site.above) && (frame? site.above).isSome)

def fullName (file : FileContext) (root : Node) (type : Site) : Text :=
  typeName file root type.trail

theorem frame?_trail (site : Site) :
    frame? site.trail = if site.opensType then some site else frame? site.above := by
  cases type : site.node.kind.isTypeDeclaration with
  | true => simp [trail, frame?, opensType, type]
  | false =>
    cases body : site.node.kind.isAnonymousBody (kind? site.above) with
    | false => simp [trail, frame?, opensType, type, body]
    | true => cases around : frame? site.above <;> simp [trail, frame?, opensType, type, body, around]

theorem frame?_of_opensType {site : Site} (opens : site.opensType = true) : frame? site.trail = some site := by
  rw [frame?_trail, if_pos opens]

end Site

namespace Trail

theorem same_type (file : FileContext) (root : Node) (trail : Trail) (type : Site) (found : frame? trail = some type) :
    type.opensType = true ∧ typeName file root trail = typeName file root type.trail ∧
      owners trail = owners type.trail ∧ typeAnnotations file trail = typeAnnotations file type.trail := by
  induction trail with
  | nil => simp [frame?] at found
  | cons step above ih =>
    let here : Site := ⟨step.1, step.2, above⟩
    change frame? here.trail = some type at found
    rw [Site.frame?_trail] at found
    cases opens : here.opensType with
    | true =>
      rw [opens, if_pos rfl] at found
      obtain rfl := Option.some.inj found
      exact ⟨opens, rfl, rfl, rfl⟩
    | false =>
      rw [opens, if_neg Bool.false_ne_true] at found
      obtain ⟨opened, name, outer, annotations⟩ := ih found
      have plain : step.2.kind.isTypeDeclaration = false ∧ step.2.kind.isAnonymousBody (kind? above) = false := by
        simpa [Site.opensType, here, found] using opens
      refine ⟨opened, ?_, ?_, ?_⟩
      · rw [← name]
        simp [typeName, plain]
      · rw [← outer]
        simp [owners, plain]
      · rw [← annotations]
        simp [typeAnnotations, plain]

end Trail

def openings (root : Node) : List Site :=
  (sites root).filter Site.opensType

namespace Standing

variable {file : FileContext} {root : Node} {before : List Site}

theorem count {type here : Site} {frame : TypeFrame} {counts : LocalCounts}
    (standing : Standing file root type.trail before { frame := some frame, counts := counts })
    (opens : type.opensType = true) (after : LocalCounts)
    (counted : ∀ name, after.count name = counts.count name + if here.counter? = some (type.address, name) then 1 else 0) :
    Standing file root type.trail (before ++ [here]) { frame := some frame, counts := after } := by
  cases standing with
  | inside outer found _ fullName owners annotations _ known =>
    obtain rfl : type = outer := Option.some.inj ((Site.frame?_of_opensType opens).symm.trans found)
    refine .inside type found frame fullName owners annotations after ?_
    intro name
    rw [counted, known, List.countP_append, List.countP_singleton]
    simp

theorem keep {type here : Site} {frame : TypeFrame} {counts : LocalCounts}
    (standing : Standing file root type.trail before { frame := some frame, counts := counts })
    (opens : type.opensType = true) (elsewhere : ∀ name, here.counter? ≠ some (type.address, name)) :
    Standing file root type.trail (before ++ [here]) { frame := some frame, counts := counts } :=
  standing.count opens counts fun name => by simp [elsewhere name]

end Standing

namespace Listing

/-- The frames are the types opened so far, with what is known about them by now. -/
structure Tracks (file : FileContext) (root : Node) (before : List Site) (frames : List SharedFrame) : Prop where
  length : frames.length = (before.filter Site.opensType).length
  stands : ∀ (number : Nat) (frame : SharedFrame) (type : Site), frames[number]? = some frame ->
    (before.filter Site.opensType)[number]? = some type ->
      Standing file root type.trail before { frame := some frame.type, counts := frame.counts }

def Numbers (before : List Site) (number : Option Nat) (around : Option Site) : Prop :=
  match number with
  | none => around = none
  | some index => ∃ type, around = some type ∧ (before.filter Site.opensType)[index]? = some type

theorem getElem?_setCounts (frames : List SharedFrame) (number : Option Nat) (counts : LocalCounts) (index : Nat) :
    (setCounts frames number counts)[index]? = frames[index]?.map fun frame =>
      if number = some index then { frame with counts := counts } else frame := by
  cases number with
  | none => simp [setCounts]
  | some other =>
    simp only [setCounts, List.getElem?_modify, Option.some.injEq]
    rfl

theorem Numbers.grow {before more : List Site} {number : Option Nat} {around : Option Site}
    (numbers : Numbers before number around) : Numbers (before ++ more) number around := by
  cases number with
  | none => exact numbers
  | some index =>
    obtain ⟨type, found, present⟩ := numbers
    refine ⟨type, found, ?_⟩
    rw [List.filter_append]
    exact List.getElem?_append_left (List.getElem?_eq_some_iff.mp present).1 ▸ present

theorem visit_cases {file : FileContext} {listing next : Listing} {here : Visit} {inner : Option Nat}
    (visited : listing.visit file here = .ok (next, inner)) :
    (∃ entered, here.node.kind.isTypeDeclaration = true ∧
      (listing.place here.frame).enterNamed file (Kind.holdsLocals here.parent) here.node = .ok entered ∧
      next = listing.opened here.frame entered ∧ inner = some listing.frames.length) ∨
    (∃ outer, here.node.kind.isTypeDeclaration = false ∧ here.node.kind.isAnonymousBody here.parent = true ∧
      (listing.place here.frame).frame = some outer ∧
      next = listing.opened here.frame (Place.enterAnonymous outer (listing.place here.frame).counts) ∧
      inner = some listing.frames.length) ∨
    (here.node.kind.isTypeDeclaration = false ∧
      (here.node.kind.isAnonymousBody here.parent = false ∨ (listing.place here.frame).frame = none) ∧
      next.frames = listing.frames ∧ inner = here.frame) := by
  simp only [visit] at visited
  cases type : here.node.kind.isTypeDeclaration with
  | true =>
    rw [type, if_pos rfl] at visited
    cases entering : (listing.place here.frame).enterNamed file (Kind.holdsLocals here.parent) here.node with
    | error reason => simp [entering, bind, Except.bind] at visited
    | ok entered =>
      simp only [entering, bind, Except.bind, pure, Except.pure, Except.ok.injEq, Prod.mk.injEq] at visited
      exact .inl ⟨entered, rfl, rfl, visited.1.symm, visited.2.symm⟩
  | false =>
    rw [type, if_neg Bool.false_ne_true] at visited
    cases inside : (listing.place here.frame).frame with
    | none =>
      simp only [inside, Except.ok.injEq, Prod.mk.injEq] at visited
      exact .inr (.inr ⟨rfl, .inr rfl, by rw [visited.1], visited.2.symm⟩)
    | some outer =>
      simp only [inside] at visited
      cases body : here.node.kind.isAnonymousBody here.parent with
      | true =>
        simp only [body, if_true, Except.ok.injEq, Prod.mk.injEq] at visited
        exact .inr (.inl ⟨outer, rfl, rfl, rfl, visited.1.symm, visited.2.symm⟩)
      | false =>
        refine .inr (.inr ⟨rfl, .inl rfl, ?_⟩)
        rw [body, if_neg Bool.false_ne_true] at visited
        split at visited
        · cases read : Method.ofNode file outer here.node with
          | error reason => simp [read, bind, Except.bind] at visited
          | ok method =>
            simp only [read, bind, Except.bind, pure, Except.pure, Except.ok.injEq, Prod.mk.injEq] at visited
            exact ⟨by rw [← visited.1], visited.2.symm⟩
        · simp only [Except.ok.injEq, Prod.mk.injEq] at visited
          exact ⟨by rw [visited.1], visited.2.symm⟩

namespace Tracks

variable {file : FileContext} {root : Node} {before : List Site} {listing : Listing} {here : Site} {number : Option Nat}

theorem frame_of_numbers {frames : List SharedFrame} (tracks : Tracks file root before frames) {index : Nat} {type : Site}
    (present : (before.filter Site.opensType)[index]? = some type) :
    ∃ frame, frames[index]? = some frame ∧
      Standing file root type.trail before { frame := some frame.type, counts := frame.counts } := by
  have within := (List.getElem?_eq_some_iff.mp present).1
  rw [← tracks.length] at within
  exact ⟨frames[index], List.getElem?_eq_getElem within,
    tracks.stands index _ type (List.getElem?_eq_getElem within) present⟩

theorem place (tracks : Tracks file root before listing.frames) (numbers : Numbers before number (frame? here.above)) :
    Standing file root here.above before (listing.place number) := by
  cases number with
  | none => exact .outside numbers []
  | some index =>
    obtain ⟨type, found, present⟩ := numbers
    obtain ⟨frame, known, standing⟩ := tracks.frame_of_numbers present
    obtain ⟨opens, same⟩ := same_type file root here.above type found
    have told : listing.place (some index) = { frame := some frame.type, counts := frame.counts } := by
      simp [Listing.place, frameAt?, known]
    rw [told]
    exact standing.of_same (found.trans (Site.frame?_of_opensType opens).symm) (fun _ => same)

theorem pass {frames : List SharedFrame} (tracks : Tracks file root before frames) (plain : here.opensType = false) :
    Tracks file root (before ++ [here]) frames := by
  have same : (before ++ [here]).filter Site.opensType = before.filter Site.opensType := by simp [plain]
  have uncounted : here.counter? = none := by
    simp only [Site.opensType, Bool.or_eq_false_iff, Bool.and_eq_false_iff, Option.isSome_eq_false_iff,
      Option.isNone_iff_eq_none] at plain
    rcases plain with ⟨type, body | frameless⟩
    · cases around : frame? here.above <;> simp [Site.counter?, around, type, body]
    · simp [Site.counter?, frameless]
  refine ⟨by rw [same, tracks.length], ?_⟩
  intro index frame type known present
  rw [same] at present
  have opens := List.of_mem_filter (List.mem_of_getElem? present)
  exact (tracks.stands index frame type known present).keep opens (by simp [uncounted])

theorem index_of_address (distinct : (before.map Site.address).Nodup) {first second : Nat} {type other : Site}
    (left : (before.filter Site.opensType)[first]? = some type)
    (right : (before.filter Site.opensType)[second]? = some other) (same : type.address = other.address) :
    first = second := by
  have nodup : ((before.filter Site.opensType).map Site.address).Nodup :=
    distinct.sublist (List.filter_sublist.map Site.address)
  have within := (List.getElem?_eq_some_iff.mp left).1
  apply (List.getElem?_inj (by simpa using within) nodup).mp
  rw [List.getElem?_map, List.getElem?_map, left, right, Option.map_some, Option.map_some, same]

theorem opened (tracks : Tracks file root before listing.frames) (numbers : Numbers before number (frame? here.above))
    (distinct : (before.map Site.address).Nodup) (opens : here.opensType = true)
    (entered : Place × LocalCounts) (inner : TypeFrame) (inside : entered.1 = { frame := some inner, counts := [] })
    (standing : Standing file root here.trail (before ++ [here]) entered.1)
    (counted : ∀ outer, frame? here.above = some outer -> ∀ name, entered.2.count name =
      (listing.place number).counts.count name + if here.counter? = some (outer.address, name) then 1 else 0) :
    Tracks file root (before ++ [here]) (listing.opened number entered).frames := by
  have frames : (listing.opened number entered).frames =
      setCounts listing.frames number entered.2 ++ [{ type := inner, counts := [] }] := by
    simp [Listing.opened, inside]
  have types : (before ++ [here]).filter Site.opensType = before.filter Site.opensType ++ [here] := by simp [opens]
  rw [frames]
  refine ⟨by rw [types]; simp [length_setCounts, tracks.length], ?_⟩
  intro index frame type known present
  rw [types] at present
  rcases Nat.lt_or_ge index listing.frames.length with earlier | last
  · rw [List.getElem?_append_left (by rwa [length_setCounts]), getElem?_setCounts] at known
    rw [List.getElem?_append_left (by rwa [← tracks.length])] at present
    have opened := List.of_mem_filter (List.mem_of_getElem? present)
    obtain ⟨shared, was, stood⟩ := tracks.frame_of_numbers present
    rw [was, Option.map_some] at known
    obtain rfl := Option.some.inj known
    by_cases around : number = some index
    · subst around
      obtain ⟨outer, found, listed⟩ := numbers
      obtain rfl : type = outer := Option.some.inj (present.symm.trans listed)
      have counts : (listing.place (some index)).counts = shared.counts := by simp [Listing.place, frameAt?, was]
      rw [if_pos rfl]
      exact stood.count opened entered.2 (counts ▸ counted type found)
    · rw [if_neg around]
      apply stood.keep opened
      intro name counter
      obtain ⟨outer, found, same⟩ := here.counter?_frame type.address name counter
      cases number with
      | none => simp [Numbers, found] at numbers
      | some other =>
        obtain ⟨nearest, near, listed⟩ := numbers
        obtain rfl : outer = nearest := Option.some.inj (found.symm.trans near)
        exact around (congrArg some (index_of_address distinct listed present same))
  · rw [List.getElem?_append_right (by rwa [length_setCounts]), List.getElem?_singleton] at known
    rw [List.getElem?_append_right (by rwa [← tracks.length]), List.getElem?_singleton] at present
    split at known
    · split at present
      · obtain rfl := Option.some.inj known
        obtain rfl := Option.some.inj present
        rwa [inside] at standing
      · simp at present
    · simp at known

theorem numbers_opened {frames : List SharedFrame} (tracks : Tracks file root before frames)
    (opens : here.opensType = true) : Numbers (before ++ [here]) (some frames.length) (frame? here.trail) := by
  refine ⟨here, Site.frame?_of_opensType opens, ?_⟩
  rw [List.filter_append, tracks.length]
  simp [opens]

theorem visit {rest : List Site} {next : Listing} {inner : Option Nat} (tracks : Tracks file root before listing.frames)
    (whole : sites root = before ++ here :: rest) (numbers : Numbers before number (frame? here.above))
    (fresh : Site.Fresh here.above here.position before)
    (visited : listing.visit file ⟨here.node, kind? here.above, number⟩ = .ok (next, inner)) :
    Tracks file root (before ++ [here]) next.frames ∧ Numbers (before ++ [here]) inner (frame? here.trail) := by
  have standing := tracks.place numbers
  have distinct : (before.map Site.address).Nodup := by
    have nodup := Site.addresses_nodup root
    rw [whole, List.map_append] at nodup
    exact (List.nodup_append.mp nodup).1
  rcases visit_cases visited with ⟨entered, type, entering, rfl, rfl⟩ | ⟨outer, type, body, inside, rfl, rfl⟩ |
    ⟨type, plain, same, rfl⟩
  · have opens : here.opensType = true := by simp [Site.opensType, type]
    refine ⟨?_, tracks.numbers_opened opens⟩
    dsimp only at type entering
    rw [Place.enterNamed, standing.owners_eq] at entering
    cases read : AnnotationUse.ofDeclaration file.constants (owners here.above) here.node with
    | error reason => simp [read, Except.map] at entering
    | ok annotations =>
      rw [read] at entering
      obtain rfl := Except.ok.inj entering
      have inner := standing.enter_type whole fresh type annotations read
      rw [standing.owners_eq] at inner
      refine tracks.opened numbers distinct opens _ _ rfl inner ?_
      intro outer found name
      exact standing.counts_type type outer found name
  · have around : listing.place number = { frame := some outer, counts := (listing.place number).counts } := by
      rw [← inside]
    obtain ⟨nearest, found⟩ := standing.framed outer inside
    have opens : here.opensType = true := by
      dsimp only at body
      simp [Site.opensType, body, found]
    refine ⟨?_, tracks.numbers_opened opens⟩
    rw [around] at standing
    refine tracks.opened numbers distinct opens _ _ rfl (standing.enter_body outer _ whole fresh type body) ?_
    intro other present name
    exact Standing.counts_body type body other present outer _ name
  · have plainSite : here.opensType = false := by
      dsimp only at type plain
      rcases plain with noBody | outside
      · simp [Site.opensType, type, noBody]
      · simp [Site.opensType, type, standing.frameless outside]
    rw [same, Site.frame?_trail, if_neg (by simp [plainSite])]
    exact ⟨tracks.pass plainSite, numbers.grow⟩

end Tracks

mutual

theorem tracks_list (file : FileContext) (root : Node) (pending : List Visit) (final : Listing) (above : Trail)
    (position : Nat) (before after : List Site) (listing : Listing) (number : Option Nat)
    (tracks : Tracks file root before listing.frames) (numbers : Numbers before number (frame? above))
    (fresh : Site.Fresh above position before) :
    (node : Node) -> sites root = before ++ Site.preorder above position node ++ after ->
      run file (⟨node, kind? above, number⟩ :: pending) listing = .ok final ->
        ∃ next, Tracks file root (before ++ Site.preorder above position node) next.frames ∧
          run file pending next = .ok final
  | ⟨kind, text, line, named, field, missing, children⟩, whole, ran => by
    let here : Site := ⟨position, ⟨kind, text, line, named, field, missing, children⟩, above⟩
    rw [Site.preorder_eq] at whole ⊢
    rw [run_cons] at ran
    cases visited : listing.visit file ⟨here.node, kind? above, number⟩ with
    | error reason => simp [here, visited, Except.bind] at ran
    | ok found =>
      obtain ⟨next, inner⟩ := found
      have split : sites root = before ++ here :: (Site.preorderAmong here.trail 0 children ++ after) := by
        rw [whole, List.append_assoc]
        rfl
      obtain ⟨known, numbered⟩ := tracks.visit split numbers fresh visited
      rw [show listing.visit file ⟨⟨kind, text, line, named, field, missing, children⟩, kind? above, number⟩ = _
        from visited] at ran
      have below := tracks_listAll file root pending final here.trail kind rfl 0 (before ++ [here]) after next inner known
        numbered fresh.enter children (by rw [split]; simp only [List.append_assoc, List.cons_append, List.nil_append])
        ran
      rw [List.append_assoc] at below
      exact below

theorem tracks_listAll (file : FileContext) (root : Node) (pending : List Visit) (final : Listing) (above : Trail)
    (parent : Kind) (around : kind? above = parent) (start : Nat) (before after : List Site) (listing : Listing)
    (number : Option Nat) (tracks : Tracks file root before listing.frames)
    (numbers : Numbers before number (frame? above)) (fresh : Site.Fresh above start before) :
    (children : List Node) -> sites root = before ++ Site.preorderAmong above start children ++ after ->
      run file (Visit.below parent number children ++ pending) listing = .ok final ->
        ∃ next, Tracks file root (before ++ Site.preorderAmong above start children) next.frames ∧
          run file pending next = .ok final
  | [], _, ran => by
    refine ⟨listing, ?_, ran⟩
    rwa [Site.preorderAmong, List.append_nil]
  | node :: rest, whole, ran => by
    cases named : node.named with
    | false =>
      have same : Site.preorderAmong above start (node :: rest) = Site.preorderAmong above (start + 1) rest := by
        simp [Site.preorderAmong, named]
      have below : Visit.below parent number (node :: rest) = Visit.below parent number rest := by
        simp [Visit.below, named]
      rw [same] at whole ⊢
      rw [below] at ran
      exact tracks_listAll file root pending final above parent around (start + 1) before after listing number tracks
        numbers fresh.skip rest whole ran
    | true =>
      have same : Site.preorderAmong above start (node :: rest) =
          Site.preorder above start node ++ Site.preorderAmong above (start + 1) rest := by
        simp [Site.preorderAmong, named]
      have below : Visit.below parent number (node :: rest) ++ pending =
          ⟨node, kind? above, number⟩ :: (Visit.below parent number rest ++ pending) := by
        simp [Visit.below, named, around]
      rw [same] at whole ⊢
      rw [below] at ran
      obtain ⟨next, known, later⟩ := tracks_list file root (Visit.below parent number rest ++ pending) final above start
        before (Site.preorderAmong above (start + 1) rest ++ after) listing number tracks numbers fresh node
        (by rw [whole]; simp only [List.append_assoc]) ran
      rw [← List.append_assoc]
      exact tracks_listAll file root pending final above parent around (start + 1) _ after next number known numbers.grow
        (fresh.leave node) rest (by rw [whole]; simp only [List.append_assoc]) later

end

theorem tracks_run (file : FileContext) (root : Node) (listing : Listing)
    (ran : run file [{ node := root, parent := none, frame := none }] empty = .ok listing) :
    Tracks file root (sites root) listing.frames := by
  have start : Tracks file root [] empty.frames := ⟨rfl, by simp [empty]⟩
  obtain ⟨next, known, finished⟩ := tracks_list file root [] listing [] 0 [] [] empty none start rfl
    (by simp [Site.Fresh]) root (by simp [sites]) ran
  rw [run] at finished
  obtain rfl := Except.ok.inj finished
  exact known

theorem run_fullNames (file : FileContext) (root : Node) (listing : Listing)
    (ran : run file [{ node := root, parent := none, frame := none }] empty = .ok listing) :
    listing.frames.map (fun frame => frame.type.fullName) = (openings root).map (Site.fullName file root) := by
  have tracks := tracks_run file root listing ran
  apply List.ext_getElem?
  intro index
  rw [List.getElem?_map, List.getElem?_map]
  cases present : (openings root)[index]? with
  | none =>
    have outside := List.getElem?_eq_none_iff.mp present
    rw [openings, ← tracks.length] at outside
    rw [List.getElem?_eq_none outside]
    rfl
  | some type =>
    obtain ⟨frame, known, standing⟩ := tracks.frame_of_numbers present
    rw [known, Option.map_some, Option.map_some]
    cases standing with
    | inside outer found inner fullName owners annotations counts counted => exact congrArg some fullName

end Listing

end RouteAtlas
