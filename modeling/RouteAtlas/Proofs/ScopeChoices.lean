import Mathlib.Data.List.Forall2
import RouteAtlas.Proofs.CollectionSteps

set_option autoImplicit false

namespace RouteAtlas

theorem getElem?_pairs {First Second : Type} {firsts : List First} {seconds : List Second} {first : First}
    {second : Second} {row column : Nat} (chosen : firsts[row]? = some first)
    (other : seconds[column]? = some second) :
    (pairs firsts seconds)[row * seconds.length + column]? = some (first, second) := by
  have inside : column < seconds.length := (List.getElem?_eq_some_iff.mp other).1
  induction firsts generalizing row with
  | nil => simp at chosen
  | cons head rest ih =>
    have split : pairs (head :: rest) seconds = seconds.map (fun second => (head, second)) ++ pairs rest seconds := rfl
    rw [split]
    cases row with
    | zero =>
      obtain rfl : head = first := by simpa using chosen
      rw [Nat.zero_mul, Nat.zero_add, List.getElem?_append_left (by simpa using inside), List.getElem?_map, other,
        Option.map_some]
    | succ row =>
      have later : (row + 1) * seconds.length + column = seconds.length + (row * seconds.length + column) := by
        rw [Nat.succ_mul]
        omega
      rw [later, List.getElem?_append_right (by simp), List.length_map, Nat.add_sub_cancel_left]
      exact ih (by simpa using chosen)

def joins (firsts seconds : List Text) : List Text :=
  (pairs firsts seconds).map fun pair => pair.1 ++ pair.2

theorem joins_nil (seconds : List Text) : joins [] seconds = [] :=
  rfl

theorem joins_cons (first : Text) (rest seconds : List Text) :
    joins (first :: rest) seconds = seconds.map (first ++ ·) ++ joins rest seconds := by
  simp [joins, pairs, Function.comp_def]

theorem joins_unit (seconds : List Text) : joins [[]] seconds = seconds := by
  simp [joins_cons, joins_nil]

theorem joins_unit_right (firsts : List Text) : joins firsts [[]] = firsts := by
  induction firsts with
  | nil => rfl
  | cons first rest ih => simp [joins_cons, ih]

theorem joins_append (firsts others seconds : List Text) :
    joins (firsts ++ others) seconds = joins firsts seconds ++ joins others seconds := by
  simp [joins, pairs]

theorem joins_map (start : Text) (firsts seconds : List Text) :
    joins (firsts.map (start ++ ·)) seconds = (joins firsts seconds).map (start ++ ·) := by
  induction firsts with
  | nil => rfl
  | cons first rest ih => simp [joins_cons, ih]

theorem joins_assoc (firsts seconds thirds : List Text) :
    joins (joins firsts seconds) thirds = joins firsts (joins seconds thirds) := by
  induction firsts with
  | nil => rfl
  | cons first rest ih => rw [joins_cons, joins_append, joins_map, ih, joins_cons]

theorem joins_eq_nil_iff (firsts seconds : List Text) : joins firsts seconds = [] ↔ firsts = [] ∨ seconds = [] := by
  rw [← List.length_eq_zero_iff, joins, List.length_map, length_pairs, Nat.mul_eq_zero, List.length_eq_zero_iff,
    List.length_eq_zero_iff]

/-- All ways to take one text from each list, as lists of positions. -/
def choices : List (List Text) -> List (List Nat)
  | [] => [[]]
  | texts :: rest => (List.range texts.length).flatMap fun index => (choices rest).map (index :: ·)

inductive Spells : List (List Text) -> List Nat -> Text -> Prop
  | nil : Spells [] [] []
  | cons {texts : List Text} {rest : List (List Text)} {index : Nat} {choice : List Nat} {text others : Text}
      (chosen : texts[index]? = some text) (later : Spells rest choice others) :
      Spells (texts :: rest) (index :: choice) (text ++ others)

theorem spells_of_mem_choices {lists : List (List Text)} {choice : List Nat} (member : choice ∈ choices lists) :
    ∃ text, Spells lists choice text := by
  induction lists generalizing choice with
  | nil =>
    obtain rfl : choice = [] := List.mem_singleton.mp member
    exact ⟨[], .nil⟩
  | cons texts rest ih =>
    obtain ⟨index, within, inside⟩ := List.mem_flatMap.mp member
    obtain ⟨others, present, rfl⟩ := List.mem_map.mp inside
    obtain ⟨text, later⟩ := ih present
    have chosen : texts[index]? = some (texts.get ⟨index, List.mem_range.mp within⟩) := List.getElem?_eq_getElem _
    exact ⟨_, .cons chosen later⟩

theorem Spells.mem_choices {lists : List (List Text)} {choice : List Nat} {text : Text}
    (spells : Spells lists choice text) : choice ∈ choices lists := by
  induction spells with
  | nil => exact List.mem_singleton.mpr rfl
  | cons chosen later ih =>
    have within := List.mem_range.mpr (List.getElem?_eq_some_iff.mp chosen).1
    exact List.mem_flatMap.mpr ⟨_, within, List.mem_map_of_mem ih⟩

theorem pairwise_choices (lists : List (List Text)) : (choices lists).Pairwise (· < ·) := by
  induction lists with
  | nil => exact List.pairwise_singleton _ _
  | cons texts rest ih =>
    rw [choices, List.pairwise_flatMap]
    constructor
    · -- With one position fixed, the order is that of the other positions.
      intro index _
      rw [List.pairwise_map]
      exact ih.imp fun before => List.cons_lt_cons_iff.mpr (.inr ⟨rfl, before⟩)
    · apply List.pairwise_lt_range.imp
      intro index other before choice inside another outside
      obtain ⟨tail, -, rfl⟩ := List.mem_map.mp inside
      obtain ⟨rest, -, rfl⟩ := List.mem_map.mp outside
      exact List.cons_lt_cons_iff.mpr (.inl before)

namespace Scope

def offered (scopes : List Scope) : List (List Text) :=
  (scopes.map paths).filter fun paths => !paths.isEmpty

def ownPaths (scope : Scope) : List Text :=
  if scope.paths.isEmpty then [[]] else scope.paths

theorem extendPaths_eq (paths : List Text) (scope : Scope) : extendPaths paths scope = joins paths scope.ownPaths := by
  rw [extendPaths, ownPaths]
  split
  · exact (joins_unit_right paths).symm
  · rfl

theorem foldl_extendPaths (scopes : List Scope) (paths : List Text) :
    scopes.foldl extendPaths paths = joins paths (foldPaths scopes) := by
  induction scopes generalizing paths with
  | nil => exact (joins_unit_right paths).symm
  | cons scope rest ih =>
    have whole : foldPaths (scope :: rest) = joins (extendPaths [[]] scope) (foldPaths rest) :=
      ih (extendPaths [[]] scope)
    rw [List.foldl_cons, ih, whole, extendPaths_eq, extendPaths_eq, joins_unit, joins_assoc]

theorem foldPaths_cons (scope : Scope) (rest : List Scope) :
    foldPaths (scope :: rest) = joins scope.ownPaths (foldPaths rest) := by
  rw [foldPaths, List.foldl_cons, foldl_extendPaths, extendPaths_eq, joins_unit]

theorem foldPaths_append (outer inner : List Scope) :
    foldPaths (outer ++ inner) = joins (foldPaths outer) (foldPaths inner) := by
  rw [foldPaths, List.foldl_append, foldl_extendPaths]
  rfl

theorem length_foldPaths (scopes : List Scope) :
    (foldPaths scopes).length = (scopes.map fun scope => max 1 scope.paths.length).prod := by
  induction scopes with
  | nil => rfl
  | cons scope rest ih =>
    have own : scope.ownPaths.length = max 1 scope.paths.length := by
      have extended := length_extendPaths [[]] scope
      rwa [extendPaths_eq, joins_unit, List.length_singleton, Nat.one_mul] at extended
    rw [foldPaths_cons, joins, List.length_map, length_pairs, own, ih, List.map_cons, List.prod_cons]

theorem foldPaths_ne_nil (scopes : List Scope) : foldPaths scopes ≠ [] := by
  induction scopes with
  | nil => simp [foldPaths]
  | cons scope rest ih =>
    have own : scope.ownPaths ≠ [] := by
      rw [ownPaths]
      split
      · simp
      · next offers => simpa using offers
    rw [foldPaths_cons, ne_eq, joins_eq_nil_iff, not_or]
    exact ⟨own, ih⟩

theorem spells_joins {texts : List Text} {lists : List (List Text)} {others : List Text}
    (spells : List.Forall₂ (Spells lists) (choices lists) others) :
    List.Forall₂ (Spells (texts :: lists)) (choices (texts :: lists)) (joins texts others) := by
  -- The positions that are left to go through are the last ones, so the induction is on how many texts were passed.
  have from_position (passed remaining : List Text) :
      List.Forall₂ (Spells ((passed ++ remaining) :: lists))
        ((List.range' passed.length remaining.length).flatMap fun index => (choices lists).map (index :: ·))
        (joins remaining others) := by
    induction remaining generalizing passed with
    | nil => exact .nil
    | cons text rest ih =>
      have chosen : (passed ++ text :: rest)[passed.length]? = some text := by simp
      have here : List.Forall₂ (Spells ((passed ++ text :: rest) :: lists))
          ((choices lists).map (passed.length :: ·)) (others.map (text ++ ·)) :=
        List.forall₂_map_left_iff.mpr (List.forall₂_map_right_iff.mpr (spells.imp fun _ _ later => .cons chosen later))
      have later := ih (passed ++ [text])
      rw [List.append_assoc, List.singleton_append, List.length_append, List.length_singleton] at later
      rw [List.length_cons, List.range'_succ, List.flatMap_cons, joins_cons]
      exact List.rel_append here later
  have all := from_position [] texts
  rwa [List.nil_append, List.length_nil, ← List.range_eq_range'] at all

theorem foldPaths_spelled (scopes : List Scope) :
    List.Forall₂ (Spells (offered scopes)) (choices (offered scopes)) (foldPaths scopes) := by
  induction scopes with
  | nil => exact .cons .nil .nil
  | cons scope rest ih =>
    rw [foldPaths_cons, ownPaths]
    split
    next empty =>
      have passed : offered (scope :: rest) = offered rest := by simp [offered, empty]
      rw [joins_unit, passed]
      exact ih
    next offers =>
      have taken : offered (scope :: rest) = scope.paths :: offered rest := by simp [offered, offers]
      rw [taken]
      exact spells_joins ih

def named (scopes : List Scope) : List (List Text) :=
  (scopes.map methods).filter fun methods => !methods.isEmpty

theorem foldl_overrideMethods (scopes : List Scope) (methods : List Text) :
    scopes.foldl overrideMethods methods = (named scopes).getLast?.getD methods := by
  induction scopes generalizing methods with
  | nil => rfl
  | cons scope rest ih =>
    rw [List.foldl_cons, ih, overrideMethods]
    split
    next empty => simp [named, empty]
    next names =>
      have taken : named (scope :: rest) = scope.methods :: named rest := by simp [named, names]
      rw [taken, List.getLast?_cons, Option.getD_some]

theorem foldMethods_append (outer inner : List Scope) :
    foldMethods (outer ++ inner) = if (foldMethods inner).isEmpty then foldMethods outer else foldMethods inner := by
  rw [foldMethods, List.foldl_append, foldl_overrideMethods inner, foldMethods, foldl_overrideMethods inner]
  cases last : (named inner).getLast? with
  | none => simp [foldMethods]
  | some methods =>
    have nonempty := (List.mem_filter.mp (List.mem_of_getLast? last)).2
    have names : methods.isEmpty = false := by simpa using nonempty
    simp [names]

theorem foldMethods_eq_nil_iff (scopes : List Scope) :
    foldMethods scopes = [] ↔ ∀ scope ∈ scopes, scope.methods = [] := by
  induction scopes with
  | nil => simp [foldMethods]
  | cons scope rest ih =>
    have alone : foldMethods [scope] = scope.methods := by
      cases given : scope.methods <;> simp [foldMethods, overrideMethods, given]
    rw [← List.singleton_append, foldMethods_append, alone, List.singleton_append, List.forall_mem_cons, ← ih]
    cases foldMethods rest <;> simp

end Scope

open Scope

/-- The paths of scopes are spelled by the choices of one path from each scope that offers any, in lexicographic order,
and the methods are those of the last scope that names any. Endpoints go through the paths for one method after another,
and scopes may be combined in parts. -/
theorem every_choice_combined (scopes : List Scope) (file declaration : Text) :
    let lists := offered scopes
    let paths := foldPaths scopes
    let methods := foldMethods scopes
    let endpoints := Endpoint.ofScopes scopes file declaration
    (choices lists).Pairwise (· < ·) ∧
    (∀ choice, choice ∈ choices lists ↔ ∃ text, Spells lists choice text) ∧
    List.Forall₂ (Spells lists) (choices lists) paths ∧
    paths.length = (scopes.map fun scope => max 1 scope.paths.length).prod ∧
    paths ≠ [] ∧
    methods = (named scopes).getLast?.getD [] ∧
    endpoints.length = methods.length * paths.length ∧
    (∀ row column method path, methods[row]? = some method -> paths[column]? = some path ->
      endpoints[row * paths.length + column]? =
        some { method := method, path := path, declaration := declaration, file := file }) ∧
    (∀ inner, foldPaths (scopes ++ inner) = joins paths (foldPaths inner) ∧
      foldMethods (scopes ++ inner) = if (foldMethods inner).isEmpty then methods else foldMethods inner) ∧
    (endpoints = [] ↔ ∀ scope ∈ scopes, scope.methods = []) := by
  intro lists paths methods endpoints
  have count : endpoints.length = methods.length * paths.length := Endpoint.length_ofScopes scopes file declaration
  refine ⟨pairwise_choices lists, ?_, foldPaths_spelled scopes, length_foldPaths scopes, foldPaths_ne_nil scopes,
    foldl_overrideMethods scopes [], count, ?_, ?_, ?_⟩
  · intro choice
    exact ⟨spells_of_mem_choices, fun ⟨_, spells⟩ => spells.mem_choices⟩
  · intro row column method path chosen other
    have pair := getElem?_pairs chosen other
    simp only [endpoints, Endpoint.ofScopes, List.getElem?_map]
    rw [pair, Option.map_some]
  · intro inner
    exact ⟨foldPaths_append scopes inner, foldMethods_append scopes inner⟩
  · rw [← List.length_eq_zero_iff, count, Nat.mul_eq_zero, List.length_eq_zero_iff, List.length_eq_zero_iff,
      or_iff_left (foldPaths_ne_nil scopes)]
    exact foldMethods_eq_nil_iff scopes

end RouteAtlas
