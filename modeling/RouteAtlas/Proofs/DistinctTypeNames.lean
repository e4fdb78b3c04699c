import Mathlib.Data.List.Nodup
import RouteAtlas.Proofs.NameResolution
import RouteAtlas.Proofs.OpenedTypes
import RouteAtlas.Proofs.Sketch

set_option autoImplicit false

namespace RouteAtlas

open Trail

def CodePoint.isDigit (point : CodePoint) : Bool :=
  0x30 ≤ point.val && point.val ≤ 0x39

/-- A name that can be told apart from a number before it and from the dollar signs around it. -/
structure PlainName (name : Text) : Prop where
  nonempty : name ≠ []
  noDigit : name.head?.any CodePoint.isDigit = false
  noDollar : CodePoint.dollar ∉ name

namespace Site

def isMember (site : Site) : Bool :=
  site.node.kind.isTypeDeclaration && (frame? site.above).isSome && !Kind.holdsLocals (kind? site.above)

def isOutermost (site : Site) : Bool :=
  site.node.kind.isTypeDeclaration && (frame? site.above).isNone

def innerName (root : Node) (site : Site) : Text :=
  match site.counter? with
  | some (_, name) => Text.ofNat (site.number root) ++ name
  | none => site.simpleName

end Site

/-- Names as a compiler accepts them, as far as types could be mixed up. -/
structure WellNamed (root : Node) : Prop where
  plain : ∀ type ∈ sites root, type.node.kind.isTypeDeclaration = true -> PlainName type.simpleName
  members : ∀ first ∈ sites root, ∀ second ∈ sites root, first.isMember = true -> second.isMember = true ->
    frame? first.above = frame? second.above -> first.simpleName = second.simpleName -> first = second
  outermost : ∀ first ∈ sites root, ∀ second ∈ sites root, first.isOutermost = true -> second.isOutermost = true ->
    first.simpleName = second.simpleName -> first = second

theorem memberName_inj {outer other inner name : Text} (left : CodePoint.dollar ∉ inner)
    (right : CodePoint.dollar ∉ name) (same : TypeFrame.memberName outer inner = TypeFrame.memberName other name) :
    outer = other ∧ inner = name := by
  rcases List.append_eq_append_iff.mp same with ⟨between, rfl, split⟩ | ⟨between, rfl, split⟩
  · cases between with
    | nil => simpa using split
    | cons first rest =>
      obtain ⟨-, tail⟩ := List.cons.inj split
      exact absurd (by simp [tail]) left
  · cases between with
    | nil => simpa [eq_comm] using split
    | cons first rest =>
      obtain ⟨-, tail⟩ := List.cons.inj split
      exact absurd (by simp [tail]) right

theorem ofChar_injective : Function.Injective CodePoint.ofChar := by
  intro first second same
  have value : (CodePoint.ofChar first).val = (CodePoint.ofChar second).val := by rw [same]
  exact Char.toNat_inj.mp value

theorem isDigit_ofNat (number : Nat) : ∀ point ∈ Text.ofNat number, point.isDigit = true := by
  intro point member
  obtain ⟨char, inside, rfl⟩ := List.mem_map.mp member
  have digit := Nat.isDigit_of_mem_toDigits (by decide) (by decide) inside
  simp only [Char.isDigit, Bool.and_eq_true, decide_eq_true_eq, ge_iff_le, UInt32.le_iff_toNat_le] at digit
  simp only [CodePoint.isDigit, Bool.and_eq_true, decide_eq_true_eq]
  exact digit

theorem ofNat_inj {first second : Nat} (same : Text.ofNat first = Text.ofNat second) : first = second := by
  have digits : Nat.toDigits 10 first = Nat.toDigits 10 second := List.map_injective_iff.mpr ofChar_injective same
  rw [← Nat.ofDigitChars_ten_toDigits (n := first), digits, Nat.ofDigitChars_ten_toDigits]

theorem takeWhile_numbered (number : Nat) (name : Text) (noDigit : name.head?.any CodePoint.isDigit = false) :
    (Text.ofNat number ++ name).takeWhile CodePoint.isDigit = Text.ofNat number := by
  rw [List.takeWhile_append_of_pos (isDigit_ofNat number)]
  cases name with
  | nil => simp
  | cons first rest =>
    have other : first.isDigit = false := by simpa using noDigit
    simp [other]

theorem numbered_inj {first second : Nat} {name other : Text} (left : name.head?.any CodePoint.isDigit = false)
    (right : other.head?.any CodePoint.isDigit = false)
    (same : Text.ofNat first ++ name = Text.ofNat second ++ other) : first = second ∧ name = other := by
  have digits := congrArg (List.takeWhile CodePoint.isDigit) same
  rw [takeWhile_numbered first name left, takeWhile_numbered second other right] at digits
  rw [digits] at same
  exact ⟨ofNat_inj digits, List.append_cancel_left same⟩

theorem head_numbered (number : Nat) (name : Text) :
    (Text.ofNat number ++ name).head?.any CodePoint.isDigit = true := by
  obtain ⟨first, rest, digits⟩ : ∃ first rest, Text.ofNat number = first :: rest := by
    apply List.exists_cons_of_ne_nil
    simp [Text.ofNat, Text.ofChars, Nat.toDigits_ne_nil]
  have digit := isDigit_ofNat number first (by simp [digits])
  simp [digits, digit]

theorem dollar_not_mem_ofNat (number : Nat) : CodePoint.dollar ∉ Text.ofNat number := by
  intro member
  exact absurd (isDigit_ofNat number _ member) (by decide)

def packagePart (package : Text) : Text :=
  if package.isEmpty then [] else package ++ [CodePoint.dot]

theorem topName_eq (package name : Text) : TypeFrame.topName package name = packagePart package ++ name := by
  unfold TypeFrame.topName packagePart
  split <;> simp

namespace Site

variable (file : FileContext) (root : Node)

theorem fullName_cases (site : Site) (opens : site.opensType = true) :
    (site.isOutermost = true ∧ site.fullName file root = packagePart file.package ++ site.simpleName) ∨
    (∃ outer, frame? site.above = some outer ∧
      site.fullName file root = TypeFrame.memberName (outer.fullName file root) (site.innerName root)) := by
  cases around : frame? site.above with
  | none =>
    have type : site.node.kind.isTypeDeclaration = true := by simpa [opensType, around] using opens
    refine .inl ⟨by simp [isOutermost, type, around], ?_⟩
    simp [fullName, trail, typeName_cons, type, around, topName_eq, simpleName]
  | some outer =>
    refine .inr ⟨outer, rfl, ?_⟩
    have outside : outer.fullName file root = typeName file root site.above :=
      (same_type file root site.above outer around).2.1.symm
    rw [outside]
    cases type : site.node.kind.isTypeDeclaration with
    | true =>
      cases isLocal : Kind.holdsLocals (kind? site.above) <;>
        simp [fullName, trail, typeName_cons, innerName, counter?, around, type, isLocal, TypeFrame.numberedName, simpleName]
    | false =>
      have body : site.node.kind.isAnonymousBody (kind? site.above) = true := by
        simpa [opensType, type, around] using opens
      simp [fullName, trail, typeName_cons, innerName, counter?, around, type, body, TypeFrame.numberedName]

theorem counter?_name (site : Site) (address : List Nat) (name : Text) (counter : site.counter? = some (address, name)) :
    name = [] ∨ (site.node.kind.isTypeDeclaration = true ∧ name = site.simpleName) := by
  simp only [counter?] at counter
  obtain ⟨outer, -, numbered⟩ := Option.bind_eq_some_iff.mp counter
  split at numbered
  · next type =>
    split at numbered
    · exact .inr ⟨type, (Prod.mk.inj (Option.some.inj numbered)).2.symm⟩
    · simp at numbered
  · split at numbered
    · exact .inl (Prod.mk.inj (Option.some.inj numbered)).2.symm
    · simp at numbered

theorem noDigit_of_counter? {root : Node} (named : WellNamed root) (site : Site) (member : site ∈ sites root)
    (address : List Nat) (name : Text) (counter : site.counter? = some (address, name)) :
    name.head?.any CodePoint.isDigit = false := by
  rcases site.counter?_name address name counter with rfl | ⟨type, rfl⟩
  · rfl
  · exact (named.plain site member type).noDigit

theorem isTypeDeclaration_of_isMember (site : Site) (isMember : site.isMember = true) :
    site.node.kind.isTypeDeclaration = true := by
  simp only [Site.isMember, Bool.and_eq_true] at isMember
  exact isMember.1.1

theorem isMember_of_counter? (site : Site) (opens : site.opensType = true) (inside : (frame? site.above).isSome = true)
    (unnumbered : site.counter? = none) : site.isMember = true := by
  obtain ⟨outer, around⟩ := Option.isSome_iff_exists.mp inside
  cases type : site.node.kind.isTypeDeclaration with
  | true => simpa [isMember, counter?, around, type] using unnumbered
  | false =>
    have body : site.node.kind.isAnonymousBody (kind? site.above) = true := by
      simpa [opensType, type, around] using opens
    simp [counter?, around, type, body] at unnumbered

theorem innerName_plain (named : WellNamed root) (site : Site) (member : site ∈ sites root)
    (inside : (frame? site.above).isSome = true) (opens : site.opensType = true) :
    CodePoint.dollar ∉ site.innerName root := by
  cases counter : site.counter? with
  | none =>
    have isMember := site.isMember_of_counter? opens inside counter
    have plain := named.plain site member (site.isTypeDeclaration_of_isMember isMember)
    simpa [innerName, counter] using plain.noDollar
  | some numbered =>
    obtain ⟨address, name⟩ := numbered
    simp only [innerName, counter, List.mem_append, not_or]
    refine ⟨dollar_not_mem_ofNat _, ?_⟩
    rcases site.counter?_name address name counter with rfl | ⟨type, rfl⟩
    · simp
    · exact (named.plain site member type).noDollar

end Site

theorem countP_before_inj {Entry Key : Type} [DecidableEq Key] (key : Entry -> Key) (counted : Entry -> Bool)
    (entries : List Entry) (nodup : (entries.map key).Nodup) (first second : Entry) (left : first ∈ entries)
    (right : second ∈ entries) (counts : counted first = true) (also : counted second = true)
    (same : (entries.takeWhile fun entry => key entry ≠ key first).countP counted =
      (entries.takeWhile fun entry => key entry ≠ key second).countP counted) :
    first = second := by
  induction entries with
  | nil => simp at left
  | cons entry rest ih =>
    simp only [List.map_cons, List.nodup_cons, List.mem_map, not_exists, not_and] at nodup
    obtain ⟨apart, distinct⟩ := nodup
    rcases List.mem_cons.mp left with rfl | inFirst <;> rcases List.mem_cons.mp right with rfl | inSecond
    · rfl
    · have other : key first ≠ key second := fun equal => apart second inSecond equal.symm
      simp [other, counts] at same
    · have other : key second ≠ key first := fun equal => apart first inFirst equal.symm
      simp [other, also] at same
    · have fromFirst : key entry ≠ key first := fun equal => apart first inFirst equal.symm
      have fromSecond : key entry ≠ key second := fun equal => apart second inSecond equal.symm
      apply ih distinct inFirst inSecond
      simpa [List.takeWhile_cons, fromFirst, fromSecond, List.countP_cons] using same

namespace Site

theorem number_inj (root : Node) (first second : Site) (left : first ∈ sites root) (right : second ∈ sites root)
    (counter : first.counter? = second.counter?) (same : first.number root = second.number root) : first = second := by
  apply countP_before_inj address (fun earlier => earlier.counter? = first.counter?) (sites root) (addresses_nodup root)
    first second left right
  · simp
  · simp [counter]
  · rw [number, number, counter] at same
    rw [counter]
    omega

theorem innerName_ne {root : Node} (named : WellNamed root) (first second : Site) (left : first ∈ sites root)
    (isMember : first.isMember = true) (unnumbered : first.counter? = none) (numbered : second.counter?.isSome = true) :
    first.innerName root ≠ second.innerName root := by
  intro same
  obtain ⟨⟨address, name⟩, counter⟩ := Option.isSome_iff_exists.mp numbered
  have plain := named.plain first left (first.isTypeDeclaration_of_isMember isMember)
  have digit := head_numbered (second.number root) name
  simp only [innerName, unnumbered, counter] at same
  rw [← same, plain.noDigit] at digit
  exact absurd digit Bool.false_ne_true

theorem innerName_inj {root : Node} (named : WellNamed root) (first second : Site) (left : first ∈ sites root)
    (right : second ∈ sites root) (opens : first.opensType = true) (also : second.opensType = true) (outer : Site)
    (around : frame? first.above = some outer) (together : frame? second.above = some outer)
    (same : first.innerName root = second.innerName root) : first = second := by
  cases counter : first.counter? with
  | none =>
    have isMember := first.isMember_of_counter? opens (by simp [around]) counter
    cases other : second.counter? with
    | none =>
      have alsoMember := second.isMember_of_counter? also (by simp [together]) other
      simp only [innerName, counter, other] at same
      exact named.members first left second right isMember alsoMember (around.trans together.symm) same
    | some numbered => exact absurd same (innerName_ne named first second left isMember counter (by simp [other]))
  | some numbered =>
    cases other : second.counter? with
    | none =>
      have isMember := second.isMember_of_counter? also (by simp [together]) other
      exact absurd same.symm (innerName_ne named second first right isMember other (by simp [counter]))
    | some others =>
      -- Both are numbered, so their counters are the same one, and no number is given twice.
      obtain ⟨address, name⟩ := numbered
      obtain ⟨place, label⟩ := others
      simp only [innerName, counter, other] at same
      obtain ⟨number, names⟩ := numbered_inj (first.noDigit_of_counter? named left address name counter)
        (second.noDigit_of_counter? named right place label other) same
      obtain ⟨nearest, found, here⟩ := first.counter?_frame address name counter
      obtain ⟨nearby, present, there⟩ := second.counter?_frame place label other
      obtain rfl : outer = nearest := Option.some.inj (around.symm.trans found)
      obtain rfl : outer = nearby := Option.some.inj (together.symm.trans present)
      apply number_inj root first second left right _ number
      rw [counter, other, ← here, ← there, names]

theorem outer_above_shorter (above : Trail) (outer : Site) (around : frame? above = some outer) :
    outer.above.length < above.length := by
  have within := (trail_suffix_of_frame? above outer around).length_le
  simp only [trail, List.length_cons] at within
  omega

theorem exists_fullName_eq (file : FileContext) (root : Node) (type : Site) (opens : type.opensType = true) :
    ∃ rest, type.fullName file root = packagePart file.package ++ rest := by
  rcases type.fullName_cases file root opens with ⟨-, name⟩ | ⟨outer, around, name⟩
  · exact ⟨_, name⟩
  · have shorter := outer_above_shorter type.above outer around
    obtain ⟨rest, before⟩ := exists_fullName_eq file root outer (same_type file root type.above outer around).1
    exact ⟨rest ++ CodePoint.dollar :: type.innerName root, by simp [name, before, TypeFrame.memberName]⟩
termination_by type.above.length

theorem fullName_ne (file : FileContext) {root : Node} (named : WellNamed root) (first outer : Site) (inner : Text)
    (left : first ∈ sites root) (outermost : first.isOutermost = true) (opens : outer.opensType = true) :
    packagePart file.package ++ first.simpleName ≠ TypeFrame.memberName (outer.fullName file root) inner := by
  intro same
  obtain ⟨rest, before⟩ := exists_fullName_eq file root outer opens
  have type : first.node.kind.isTypeDeclaration = true := by
    simp only [Site.isOutermost, Bool.and_eq_true] at outermost
    exact outermost.1
  rw [before, TypeFrame.memberName, List.append_assoc] at same
  have name := List.append_cancel_left same
  exact (named.plain first left type).noDollar (by simp [name])

theorem fullName_inj (file : FileContext) {root : Node} (named : WellNamed root) (first second : Site)
    (left : first ∈ sites root) (right : second ∈ sites root) (opens : first.opensType = true)
    (also : second.opensType = true) (same : first.fullName file root = second.fullName file root) : first = second := by
  rcases first.fullName_cases file root opens with ⟨outermost, name⟩ | ⟨outer, around, name⟩ <;>
    rcases second.fullName_cases file root also with ⟨alsoOutermost, label⟩ | ⟨other, beside, label⟩ <;>
    rw [name, label] at same
  · exact named.outermost first left second right outermost alsoOutermost (List.append_cancel_left same)
  · have inside := (same_type file root second.above other beside).1
    exact absurd same (fullName_ne file named first other _ left outermost inside)
  · have inside := (same_type file root first.above outer around).1
    exact absurd same.symm (fullName_ne file named second outer _ right alsoOutermost inside)
  · have suffix := trail_suffix_of_frame? first.above outer around
    have shorter := outer_above_shorter first.above outer around
    obtain ⟨outside, inner⟩ := memberName_inj (innerName_plain root named first left (by simp [around]) opens)
      (innerName_plain root named second right (by simp [beside]) also) same
    -- The types around have one name, too, and are one type by induction.
    obtain rfl := fullName_inj file named outer other (mem_sites_of_suffix left suffix)
      (mem_sites_of_suffix right (trail_suffix_of_frame? second.above other beside))
      (same_type file root first.above outer around).1 (same_type file root second.above other beside).1 outside
    exact innerName_inj named first second left right opens also outer around beside inner
termination_by first.above.length

end Site

theorem method_type (file : FileContext) (root : Node) (site : Site) (method : Method)
    (read : site.method file root = .ok method) : method.type = typeName file root site.above := by
  rw [Site.method] at read
  cases own : site.annotations file with
  | error reason => simp [own, bind, Except.bind] at read
  | ok annotations =>
    cases around : typeAnnotations file site.above with
    | error reason => simp [own, around, bind, Except.bind] at read
    | ok outer =>
      simp only [own, around, bind, Except.bind, pure, Except.pure, Except.ok.injEq] at read
      rw [← read]

theorem reported_types (file : FileContext) (root : Node) (methods : List Method)
    (listed : Site.methodsOf file root (sites root) = .ok methods) :
    List.Forall₂ (fun site method => ∃ type ∈ openings root, frame? site.above = some type ∧
      method.type = type.fullName file root) (declared root) methods := by
  obtain ⟨length, read⟩ := List.forall₂_iff_zip.mp (forall₂_methodsOf file root (sites root) methods listed)
  refine List.forall₂_iff_zip.mpr ⟨length, ?_⟩
  intro site method paired
  obtain ⟨present, declares⟩ := List.mem_filter.mp (List.of_mem_zip paired).1
  simp only [Site.declaresMethod, Bool.and_eq_true] at declares
  obtain ⟨type, around⟩ := Option.isSome_iff_exists.mp declares.2
  obtain ⟨opens, name, -⟩ := same_type file root site.above type around
  have inside := Site.mem_sites_of_suffix present (trail_suffix_of_frame? site.above type around)
  refine ⟨type, List.mem_filter.mpr ⟨inside, opens⟩, around, ?_⟩
  rw [method_type file root site method (read paired), name, Site.fullName]

/-- No two types that the loop over a file opens have the same full name, and methods with the same type name have the
same type around them. -/
theorem full_names_distinct (file : FileContext) (root : Node) (listing : Listing) (named : WellNamed root)
    (ran : Listing.run file [{ node := root, parent := none, frame := none }] Listing.empty = .ok listing) :
    listing.frames.map (fun frame => frame.type.fullName) = (openings root).map (Site.fullName file root) ∧
    (listing.frames.map fun frame => frame.type.fullName).Nodup ∧
    (∀ first ∈ openings root, ∀ second ∈ openings root,
      first.fullName file root = second.fullName file root -> first = second) ∧
    Method.walk file root = .ok listing.methods ∧
    List.Forall₂ (fun site method => ∃ type ∈ openings root, frame? site.above = some type ∧
      method.type = type.fullName file root) (declared root) listing.methods ∧
    (∀ first ∈ (declared root).zip listing.methods, ∀ second ∈ (declared root).zip listing.methods,
      first.2.type = second.2.type -> frame? first.1.above = frame? second.1.above) := by
  have distinct : ∀ first ∈ openings root, ∀ second ∈ openings root,
      first.fullName file root = second.fullName file root -> first = second := by
    intro first left second right same
    obtain ⟨left, opens⟩ := List.mem_filter.mp left
    obtain ⟨right, also⟩ := List.mem_filter.mp right
    exact Site.fullName_inj file named first second left right opens also same
  have names := Listing.run_fullNames file root listing ran
  have walked : Method.walk file root = .ok listing.methods := by
    rw [Method.walk, ran]
    rfl
  have listed : Site.methodsOf file root (sites root) = .ok listing.methods := by
    rw [← list_eq_methodsOf, ← Method.walk_eq_list, walked]
  have typed := reported_types file root listing.methods listed
  refine ⟨names, ?_, distinct, walked, typed, ?_⟩
  · rw [names]
    have nodup : (openings root).Nodup :=
      (List.Nodup.of_map Site.address (Site.addresses_nodup root)).filter _
    exact nodup.map_on distinct
  · intro first left second right same
    obtain ⟨-, told⟩ := List.forall₂_iff_zip.mp typed
    obtain ⟨type, opened, around, name⟩ := told left
    obtain ⟨other, alsoOpened, beside, label⟩ := told right
    rw [name, label] at same
    rw [around, beside, distinct type opened other alsoOpened same]

section Crowded

open Sketch

def crowdedMembers : List Node :=
  [classOf ['B'] [method ['m']], classOf ['C'] [method ['m']],
    branch .methodDeclaration none [bare (some .name) ['m'], branch (.other "block") none
      [classOf ['B'] [method ['m']], branch .objectCreation none [body [method ['m']]], classOf ['B'] [method ['m']]]]]

def crowded : Node :=
  file [classOf ['A'] crowdedMembers]

def crowdedFile : FileContext :=
  { package := ['p'], constants := Constants.empty }

theorem crowded_wellNamed : WellNamed crowded := by
  have named : ∀ type ∈ sites crowded, type.node.kind.isTypeDeclaration = true -> type.simpleName ≠ [] ∧
      type.simpleName.head?.any CodePoint.isDigit = false ∧ CodePoint.dollar ∉ type.simpleName := by
    decide +kernel
  have members : ∀ first ∈ sites crowded, ∀ second ∈ sites crowded, first.isMember = true ->
      second.isMember = true -> first.simpleName = second.simpleName -> first.address = second.address := by
    decide +kernel
  have outermost : ∀ first ∈ sites crowded, ∀ second ∈ sites crowded, first.isOutermost = true ->
      second.isOutermost = true -> first.simpleName = second.simpleName -> first.address = second.address := by
    decide +kernel
  have same := List.inj_on_of_nodup_map (Site.addresses_nodup crowded)
  constructor
  · intro type member declares
    obtain ⟨nonempty, noDigit, noDollar⟩ := named type member declares
    exact ⟨nonempty, noDigit, noDollar⟩
  · intro first left second right isMember also _ name
    exact same left right (members first left second right isMember also name)
  · intro first left second right isOutermost also name
    exact same left right (outermost first left second right isOutermost also name)

end Crowded

theorem crowded_names_distinct : WellNamed crowded ∧ ∃ listing,
    Listing.run crowdedFile [{ node := crowded, parent := none, frame := none }] Listing.empty = .ok listing ∧
    listing.frames.map (fun frame => frame.type.fullName) =
      ([['p', '.', 'A'], ['p', '.', 'A', '$', 'B'], ['p', '.', 'A', '$', 'C'], ['p', '.', 'A', '$', '1', 'B'],
        ['p', '.', 'A', '$', '1'], ['p', '.', 'A', '$', '2', 'B']] : List Text) ∧
    (listing.frames.map fun frame => frame.type.fullName).Nodup := by
  refine ⟨crowded_wellNamed, ?_⟩
  have walked : (Method.walk crowdedFile crowded).isOk = true := by
    rw [Method.walk_eq_list]
    decide +kernel
  cases ran : Listing.run crowdedFile [{ node := crowded, parent := none, frame := none }] Listing.empty with
  | error reason => simp [Method.walk, ran, Except.map, Except.isOk, Except.toBool] at walked
  | ok listing =>
    obtain ⟨names, distinct, -⟩ := full_names_distinct crowdedFile crowded listing crowded_wellNamed ran
    refine ⟨listing, rfl, ?_, distinct⟩
    rw [names]
    decide +kernel

end RouteAtlas
