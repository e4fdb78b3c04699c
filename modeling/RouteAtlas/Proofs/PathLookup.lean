import RouteAtlas.Files.Search
import RouteAtlas.Proofs.ReadLiterals

set_option autoImplicit false

namespace RouteAtlas

theorem exists_split_cons {Item : Type} {good bad : Item -> Prop} {first : Item} {rest : List Item} :
    (∃ before item after, first :: rest = before ++ item :: after ∧ (∀ earlier ∈ before, good earlier) ∧ bad item) ↔
      bad first ∨ good first ∧
        ∃ before item after, rest = before ++ item :: after ∧ (∀ earlier ∈ before, good earlier) ∧ bad item := by
  constructor
  · rintro ⟨_ | ⟨passed, before⟩, item, after, split, earlier, found⟩
    · obtain ⟨rfl, rfl⟩ := List.cons.inj split
      exact .inl found
    · obtain ⟨rfl, rfl⟩ := List.cons.inj split
      obtain ⟨passes, others⟩ := List.forall_mem_cons.mp earlier
      exact .inr ⟨passes, before, item, after, rfl, others, found⟩
  · rintro (found | ⟨passes, before, item, after, rfl, others, found⟩)
    · exact ⟨[], first, rest, rfl, List.forall_mem_nil _, found⟩
    · exact ⟨first :: before, item, after, rfl, List.forall_mem_cons.mpr ⟨passes, others⟩, found⟩

theorem mapM_eq_error_iff {Error Item Result : Type} {read : Item -> Except Error Result} {items : List Item}
    {cause : Error} :
    items.mapM read = .error cause ↔
      ∃ before item after, items = before ++ item :: after ∧ (∀ earlier ∈ before, Succeeds (read earlier)) ∧
        read item = .error cause := by
  induction items with
  | nil => simp [pure, Except.pure]
  | cons first rest ih =>
    rw [exists_split_cons, ← ih, List.mapM_cons]
    cases read first with
    | error reason => simp [bind, Except.bind]
    | ok result => cases rest.mapM read <;> simp [bind, Except.bind, pure, Except.pure]

def Path.fromHome (user : Text) (rest : List Text) : Path :=
  { root := [], components := (('~' : CodePoint) :: user) :: rest }

theorem Path.startsAtHome_iff {path : Path} :
    path.startsAtHome = true ↔ ∃ user rest, path = Path.fromHome user rest := by
  obtain ⟨root, components⟩ := path
  rw [startsAtHome, Bool.and_eq_true, List.isEmpty_iff, decide_eq_true_eq]
  constructor
  · rintro ⟨rfl, tilde⟩
    cases components with
    | nil => cases tilde
    | cons first rest =>
      cases first with
      | nil => cases tilde
      | cons point user =>
        obtain rfl : point = ('~' : CodePoint) := Option.some.inj tilde
        exact ⟨user, rest, rfl⟩
  · rintro ⟨user, rest, same⟩
    obtain ⟨rfl, rfl⟩ := Path.mk.inj same
    exact ⟨rfl, rfl⟩

namespace FileSystem

/-- What a path argument means: the path that it is, or one that goes on from the home directory of a user. -/
inductive Means (files : FileSystem) (argument : Text) : Path -> Prop
  | plain (path : Path) (written : Path.ofText argument = path) (noHome : ∀ user rest, path ≠ Path.fromHome user rest) :
      Means files argument path
  | home (user : Text) (rest : List Text) (home : Path) (written : Path.ofText argument = Path.fromHome user rest)
      (known : files.home? user = some home) :
      Means files argument { root := home.root, components := home.components ++ rest }

def Exists (files : FileSystem) (argument : Text) : Prop :=
  ∃ path, files.Means argument path ∧ (files.find? path).isSome = true

inductive Fails (files : FileSystem) (argument : Text) : Failure -> Prop
  | home (user : Text) (rest : List Text) (written : Path.ofText argument = Path.fromHome user rest)
      (unknown : files.home? user = none) : Fails files argument .unknownHome
  | missing (path : Path) (meant : files.Means argument path) (absent : files.find? path = none)
      (unrefused : files.refusal? path = none) : Fails files argument (.missingPath path.toText)
  | refused (path : Path) (reason : Text) (meant : files.Means argument path) (absent : files.find? path = none)
      (refuses : files.refusal? path = some reason) : Fails files argument (.refused reason)

/-- The first of some path arguments that cannot be expanded, for this reason. -/
def FirstFails (files : FileSystem) (arguments : List Text) (cause : Failure) : Prop :=
  ∃ before argument after, arguments = before ++ argument :: after ∧ (∀ earlier ∈ before, files.Exists earlier) ∧
    files.Fails argument cause

variable {files : FileSystem} {argument : Text}

theorem locate?_fromHome (user : Text) (rest : List Text) :
    files.locate? (Path.fromHome user rest) =
      (files.home? user).map fun home => { root := home.root, components := home.components ++ rest } :=
  if_pos rfl

theorem locate?_plain {path : Path} (noHome : ∀ user rest, path ≠ Path.fromHome user rest) :
    files.locate? path = some path := by
  rw [locate?, if_neg]
  rw [Path.startsAtHome_iff]
  rintro ⟨user, rest, same⟩
  exact noHome user rest same

theorem means_iff {path : Path} : files.Means argument path ↔ files.locate? (Path.ofText argument) = some path := by
  constructor
  · rintro (⟨_, written, noHome⟩ | ⟨user, rest, home, written, known⟩)
    · rw [written]
      exact locate?_plain noHome
    · rw [written, locate?_fromHome, known, Option.map_some]
  · intro located
    by_cases below : ∃ user rest, Path.ofText argument = Path.fromHome user rest
    · obtain ⟨user, rest, written⟩ := below
      rw [written, locate?_fromHome] at located
      obtain ⟨home, known, rfl⟩ := Option.map_eq_some_iff.mp located
      exact .home user rest home written known
    · have noHome : ∀ user rest, Path.ofText argument ≠ Path.fromHome user rest :=
        fun user rest written => below ⟨user, rest, written⟩
      rw [locate?_plain noHome] at located
      obtain rfl := Option.some.inj located
      exact .plain _ rfl noHome

theorem locate?_eq_none_iff : files.locate? (Path.ofText argument) = none ↔
    ∃ user rest, Path.ofText argument = Path.fromHome user rest ∧ files.home? user = none := by
  constructor
  · intro nowhere
    by_cases below : ∃ user rest, Path.ofText argument = Path.fromHome user rest
    · obtain ⟨user, rest, written⟩ := below
      rw [written, locate?_fromHome, Option.map_eq_none_iff] at nowhere
      exact ⟨user, rest, written, nowhere⟩
    · rw [locate?_plain fun user rest written => below ⟨user, rest, written⟩] at nowhere
      cases nowhere
  · rintro ⟨user, rest, written, unknown⟩
    rw [written, locate?_fromHome, unknown, Option.map_none]

instance (files : FileSystem) (argument : Text) : Decidable (files.Exists argument) :=
  decidable_of_iff ((files.locate? (Path.ofText argument)).any fun path => (files.find? path).isSome) <| by
    simp only [Exists, means_iff, Option.any_eq_true]

theorem expandPath_eq_error_iff (ending : Text) {cause : Failure} :
    files.expandPath ending argument = .error cause ↔ files.Fails argument cause := by
  rw [expandPath]
  constructor
  · intro failed
    split at failed
    next nowhere =>
      obtain ⟨user, rest, written, unknown⟩ := locate?_eq_none_iff.mp nowhere
      obtain rfl := Except.error.inj failed
      exact .home user rest written unknown
    next path located =>
      have meant := means_iff.mpr located
      split at failed
      · cases failed
      · cases failed
      next absent =>
        obtain rfl := Except.error.inj failed
        cases heard : files.refusal? path with
        | none => exact .missing path meant absent heard
        | some reason => exact .refused path reason meant absent heard
  · rintro (⟨user, rest, written, unknown⟩ | ⟨path, meant, absent, heard⟩ | ⟨path, reason, meant, absent, heard⟩)
    · rw [locate?_eq_none_iff.mpr ⟨user, rest, written, unknown⟩]
    · simp only [means_iff.mp meant, absent, heard, Option.elim_none]
    · simp only [means_iff.mp meant, absent, heard, Option.elim_some]

theorem succeeds_expandPath_iff (ending : Text) :
    Succeeds (files.expandPath ending argument) ↔ files.Exists argument := by
  rw [expandPath, Exists]
  simp only [means_iff]
  cases files.locate? (Path.ofText argument) with
  | none => simp
  | some path =>
    cases found : files.find? path with
    | none => simp [found]
    | some tree => cases tree <;> simp [found]

theorem FirstFails.cause_cases {arguments : List Text} {cause : Failure} (first : files.FirstFails arguments cause) :
    cause = .unknownHome ∨ (∃ path, cause = .missingPath path) ∨ ∃ reason, cause = .refused reason := by
  obtain ⟨before, argument, after, -, -, fails⟩ := first
  cases fails with
  | home user rest written unknown => exact .inl rfl
  | missing path meant absent unrefused => exact .inr (.inl ⟨_, rfl⟩)
  | refused path reason meant absent refuses => exact .inr (.inr ⟨reason, rfl⟩)

theorem expandPaths_eq_error_iff (ending : Text) {arguments : List Text} {cause : Failure} :
    files.expandPaths ending arguments = .error cause ↔ files.FirstFails arguments cause := by
  have flattened : files.expandPaths ending arguments = .error cause ↔
      arguments.mapM (files.expandPath ending) = .error cause := by
    rw [expandPaths]
    cases arguments.mapM (files.expandPath ending) <;> simp [Except.map]
  rw [flattened, mapM_eq_error_iff]
  simp only [succeeds_expandPath_iff, expandPath_eq_error_iff, FirstFails]

theorem succeeds_expandPaths_iff (ending : Text) {arguments : List Text} :
    Succeeds (files.expandPaths ending arguments) ↔ ∀ argument ∈ arguments, files.Exists argument := by
  rw [expandPaths, succeeds_map, succeeds_mapM]
  simp only [succeeds_expandPath_iff]

theorem exists_firstFails {arguments : List Text} (member : argument ∈ arguments) (absent : ¬ files.Exists argument) :
    ∃ cause, files.FirstFails arguments cause := by
  cases expanded : files.expandPaths [] arguments with
  | error cause => exact ⟨cause, (expandPaths_eq_error_iff []).mp expanded⟩
  | ok sources => exact absurd ((succeeds_expandPaths_iff []).mp ⟨sources, expanded⟩ argument member) absent

theorem expandPaths_append (files : FileSystem) (ending : Text) (first second : List Text) :
    files.expandPaths ending (first ++ second) =
      (files.expandPaths ending first).bind fun sources =>
        (files.expandPaths ending second).map fun others => sources ++ others := by
  simp only [expandPaths, List.mapM_append]
  cases first.mapM (files.expandPath ending) with
  | error cause => rfl
  | ok sources =>
    cases second.mapM (files.expandPath ending) with
    | error cause => rfl
    | ok others => exact congrArg Except.ok List.flatten_append

end FileSystem

end RouteAtlas
