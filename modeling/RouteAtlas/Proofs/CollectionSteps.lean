import Mathlib.Algebra.Ring.Nat
import RouteAtlas.Failure
import RouteAtlas.Routing.Collection

set_option autoImplicit false

namespace RouteAtlas

theorem length_pairs {First Second : Type} (firsts : List First) (seconds : List Second) :
    (pairs firsts seconds).length = firsts.length * seconds.length := by
  induction firsts with
  | nil => simp [pairs]
  | cons first rest ih =>
    have split : pairs (first :: rest) seconds = seconds.map (fun second => (first, second)) ++ pairs rest seconds := rfl
    rw [split, List.length_append, ih, List.length_map, List.length_cons, Nat.succ_mul, Nat.add_comm]

namespace Scope

def free : Scope :=
  { methods := [], paths := [] }

theorem length_extendPaths (paths : List Text) (scope : Scope) :
    (extendPaths paths scope).length = paths.length * max 1 scope.paths.length := by
  rw [extendPaths]
  cases given : scope.paths with
  | nil => simp
  | cons path rest =>
    have positive : max 1 (path :: rest).length = (path :: rest).length := by
      rw [List.length_cons]
      omega
    rw [positive, List.isEmpty_cons, if_neg Bool.false_ne_true, List.length_map, length_pairs]

theorem foldMethods_around (outer : Option Scope) (inner : Scope) :
    foldMethods (outer.toList ++ [inner]) = overrideMethods (outer.getD free).methods inner := by
  cases outer with
  | none => rfl
  | some outer =>
    cases given : outer.methods <;> simp [foldMethods, overrideMethods, given]

theorem length_foldPaths_around (outer : Option Scope) (inner : Scope) :
    (foldPaths (outer.toList ++ [inner])).length =
      max 1 (outer.getD free).paths.length * max 1 inner.paths.length := by
  cases outer with
  | none =>
    have only : foldPaths [inner] = extendPaths [[]] inner := rfl
    rw [Option.toList_none, List.nil_append, only, length_extendPaths]
    rfl
  | some outer =>
    have both : foldPaths [outer, inner] = extendPaths (extendPaths [[]] outer) inner := rfl
    rw [Option.toList_some, List.singleton_append, both, length_extendPaths, length_extendPaths, List.length_singleton,
      Nat.one_mul, Option.getD_some]

end Scope

namespace Endpoint

theorem length_ofScopes (scopes : List Scope) (file declaration : Text) :
    (ofScopes scopes file declaration).length = (Scope.foldMethods scopes).length * (Scope.foldPaths scopes).length := by
  rw [ofScopes, List.length_map, length_pairs]

theorem origin_of_mem_ofScopes {scopes : List Scope} {file declaration : Text} {endpoint : Endpoint}
    (member : endpoint ∈ ofScopes scopes file declaration) :
    endpoint.declaration = declaration ∧ endpoint.file = file := by
  obtain ⟨pair, -, rfl⟩ := List.mem_map.mp member
  exact ⟨rfl, rfl⟩

end Endpoint

def Value.isString : Value -> Bool
  | string _ => true
  | symbol _ => false

def Value.isSymbol : Value -> Bool
  | string _ => false
  | symbol _ => true

namespace AnnotationUse

def firstNamed? (names : List Text) (uses : List AnnotationUse) : Option AnnotationUse :=
  uses.find? fun use => use.name ∈ names

def held (use : AnnotationUse) (key : Text) : List Value :=
  (use.attributes.lookup key).getD []

def methodCount (use : AnnotationUse) : Nat :=
  (use.held "method").countP Value.isSymbol

def pathCount (use : AnnotationUse) : Nat :=
  (use.held "path").countP Value.isString + (use.held "value").countP Value.isString

theorem findNamed?_eq (names : List Text) (uses : List AnnotationUse) : findNamed? names uses = firstNamed? names uses := by
  simp only [findNamed?, firstNamed?, List.contains_eq_mem]

theorem length_strings (use : AnnotationUse) (key : Text) :
    (use.strings key).length = (use.valuesOf key).countP Value.isString := by
  rw [strings, List.length_filterMap_eq_countP]
  exact List.countP_congr fun value _ => by cases value <;> rfl

theorem length_symbols (use : AnnotationUse) (key : Text) :
    (use.symbols key).length = (use.valuesOf key).countP Value.isSymbol := by
  rw [symbols, List.length_filterMap_eq_countP]
  exact List.countP_congr fun value _ => by cases value <;> rfl

theorem length_methods_ofUse (use : AnnotationUse) : (Scope.ofUse use).methods.length = use.methodCount :=
  use.length_symbols "method"

theorem length_paths_ofUse (use : AnnotationUse) : (Scope.ofUse use).paths.length = use.pathCount := by
  rw [Scope.ofUse, List.length_append, length_strings, length_strings]
  rfl

end AnnotationUse

open AnnotationUse

/-- A collection holds what a method declares in a file, and nothing else. -/
def Method.Yields (names : List Text) (file : Text) (method : Method) (found : Collection) : Prop :=
  let id := method.type ++ "#" ++ method.name
  match firstNamed? names method.annotations with
  | none => found.endpoints = [] ∧ found.unresolved = []
  | some own =>
    let outer := firstNamed? names method.typeAnnotations
    let named := if own.methodCount = 0 then outer.elim 0 methodCount else own.methodCount
    if named = 0 then found.endpoints = [] ∧ found.unresolved = [id]
    else
      found.endpoints.length = named * max 1 (outer.elim 0 pathCount) * max 1 own.pathCount ∧
      1 ≤ found.endpoints.length ∧ found.unresolved = [] ∧
      ∀ endpoint ∈ found.endpoints, endpoint.declaration = id ∧ endpoint.file = file

theorem Method.id_eq (method : Method) : method.id = method.type ++ "#" ++ method.name :=
  (List.append_assoc method.type [CodePoint.hash] method.name).symm

namespace Collection

def concat (parts : List Collection) : Collection :=
  { endpoints := parts.flatMap Collection.endpoints
    unresolved := parts.flatMap Collection.unresolved }

theorem append_assoc (first second third : Collection) :
    (first.append second).append third = first.append (second.append third) := by
  simp [append]

theorem append_empty (collection : Collection) : collection.append empty = collection := by
  simp [append, empty]

theorem concat_cons (part : Collection) (rest : List Collection) : concat (part :: rest) = part.append (concat rest) :=
  rfl

theorem concat_singleton (part : Collection) : concat [part] = part := by
  simp [concat]

theorem concat_append (first second : List Collection) :
    concat (first ++ second) = (concat first).append (concat second) := by
  simp [concat, append]

variable (names : List Text) (file : Text)

theorem addFile_eq (collection : Collection) (methods : List Method) :
    collection.addFile names file methods = collection.append (concat (methods.map (ofMethod names file))) := by
  induction methods generalizing collection with
  | nil => exact (append_empty collection).symm
  | cons method rest ih =>
    rw [addFile, List.foldl_cons]
    exact (ih _).trans (append_assoc _ _ _)

theorem empty_addFile (methods : List Method) :
    empty.addFile names file methods = concat (methods.map (ofMethod names file)) :=
  addFile_eq names file empty methods

theorem ofMethod_unannotated (method : Method) (unannotated : firstNamed? names method.annotations = none) :
    ofMethod names file method = empty := by
  rw [← findNamed?_eq] at unannotated
  simp only [ofMethod, Scope.ofMethod?, unannotated, Option.map_none]

theorem ofMethod_eq (method : Method) (own : AnnotationUse) (annotated : firstNamed? names method.annotations = some own) :
    ofMethod names file method =
      let found := Endpoint.ofScopes
        (((firstNamed? names method.typeAnnotations).map Scope.ofUse).toList ++ [Scope.ofUse own]) file method.id
      { endpoints := found, unresolved := if found.isEmpty then [method.id] else [] } := by
  rw [← findNamed?_eq] at annotated ⊢
  simp only [ofMethod, Scope.ofMethod?, annotated, Option.map_some]
  cases Endpoint.ofScopes _ file method.id <;> rfl

theorem length_ofScopes_around (outer : Option AnnotationUse) (own : AnnotationUse) (declaration : Text) :
    (Endpoint.ofScopes ((outer.map Scope.ofUse).toList ++ [Scope.ofUse own]) file declaration).length =
      (if own.methodCount = 0 then outer.elim 0 methodCount else own.methodCount) *
        (max 1 (outer.elim 0 pathCount) * max 1 own.pathCount) := by
  have paths : ((outer.map Scope.ofUse).getD Scope.free).paths.length = outer.elim 0 pathCount := by
    cases outer with
    | none => rfl
    | some use => exact use.length_paths_ofUse
  have methods : ((outer.map Scope.ofUse).getD Scope.free).methods.length = outer.elim 0 methodCount := by
    cases outer with
    | none => rfl
    | some use => exact use.length_methods_ofUse
  rw [Endpoint.length_ofScopes, Scope.foldMethods_around, Scope.length_foldPaths_around, Scope.overrideMethods,
    apply_ite List.length, paths, methods, own.length_paths_ofUse, own.length_methods_ofUse]
  simp only [← own.length_methods_ofUse, List.isEmpty_iff, List.length_eq_zero_iff]

theorem yields_ofMethod (method : Method) : method.Yields names file (ofMethod names file method) := by
  rw [Method.Yields, ← method.id_eq]
  cases annotated : firstNamed? names method.annotations with
  | none =>
    rw [ofMethod_unannotated names file method annotated]
    exact ⟨rfl, rfl⟩
  | some own =>
    rw [ofMethod_eq names file method own annotated]
    let outer := firstNamed? names method.typeAnnotations
    let found := Endpoint.ofScopes ((outer.map Scope.ofUse).toList ++ [Scope.ofUse own]) file method.id
    let named := if own.methodCount = 0 then outer.elim 0 methodCount else own.methodCount
    let choices := max 1 (outer.elim 0 pathCount) * max 1 own.pathCount
    have count : found.length = named * choices := length_ofScopes_around file outer own method.id
    by_cases unnamed : named = 0
    next =>
      have nothing : found = [] := by
        rw [← List.length_eq_zero_iff, count, unnamed, Nat.zero_mul]
      dsimp only
      rw [if_pos unnamed]
      exact ⟨nothing, if_pos (List.isEmpty_iff.mpr nothing)⟩
    next =>
      have some_choice : 1 ≤ choices := Nat.mul_le_mul (Nat.le_max_left 1 _) (Nat.le_max_left 1 _)
      have positive : 1 ≤ found.length := by
        rw [count]
        exact Nat.mul_le_mul (Nat.one_le_iff_ne_zero.mpr unnamed) some_choice
      have resolved : (if found.isEmpty then [method.id] else []) = [] := by
        rw [if_neg]
        rw [List.isEmpty_iff]
        exact List.ne_nil_of_length_pos positive
      dsimp only
      rw [if_neg unnamed, Nat.mul_assoc]
      exact ⟨count, positive, resolved, fun _ => Endpoint.origin_of_mem_ofScopes⟩

structure Step where
  file : Text
  methods : Except Failure (List Method)

def take (held : Collection) (step : Step) : Collection × Option Nat :=
  -- What a collection holds after a step, and the number of endpoints that adding a file answers with.
  match step.methods with
  | .ok methods =>
    let added := held.addCounted names step.file methods
    (added.1, some added.2)
  | .error _ => (held, none)

def takeAll (held : Collection) : List Step -> Collection × List Nat
  | [] => (held, [])
  | step :: rest =>
    let taken := held.take names step
    let others := takeAll taken.1 rest
    (others.1, taken.2.toList ++ others.2)

def alone (step : Step) : Collection :=
  (empty.take names step).1

theorem addFile_alone (held : Collection) (step : Step) (methods : List Method) (known : step.methods = .ok methods) :
    held.addFile names step.file methods = held.append (alone names step) := by
  simp only [alone, take, known, addCounted, empty_addFile]
  exact addFile_eq names step.file held methods

theorem take_ok (held : Collection) (step : Step) (methods : List Method) (known : step.methods = .ok methods) :
    held.take names step = (held.append (alone names step), some (alone names step).size) := by
  have longer : (held.append (alone names step)).size - held.size = (alone names step).size := by
    simp [append, size]
  simp only [take, known, addCounted, addFile_alone names held step methods known, longer]

theorem take_error (held : Collection) (step : Step) (cause : Failure) (unknown : step.methods = .error cause) :
    held.take names step = (held, none) := by
  rw [take, unknown]

theorem alone_error (step : Step) (cause : Failure) (unknown : step.methods = .error cause) :
    alone names step = empty := by
  rw [alone, take_error names empty step cause unknown]

theorem take_held (held : Collection) (step : Step) : (held.take names step).1 = held.append (alone names step) := by
  cases told : step.methods with
  | ok methods => rw [take_ok names held step methods told]
  | error cause => rw [take_error names held step cause told, alone_error names step cause told, append_empty]

theorem take_count (held : Collection) (step : Step) :
    (held.take names step).2.toList.sum = (alone names step).size := by
  cases told : step.methods with
  | ok methods => simp [take_ok names held step methods told]
  | error cause =>
    rw [take_error names held step cause told, alone_error names step cause told]
    rfl

theorem takeAll_held (held : Collection) (steps : List Step) :
    (held.takeAll names steps).1 = held.append (concat (steps.map (alone names))) := by
  induction steps generalizing held with
  | nil => exact (append_empty held).symm
  | cons step rest ih =>
    rw [takeAll, List.map_cons, concat_cons, ih, take_held, append_assoc]

theorem takeAll_count (held : Collection) (steps : List Step) :
    (held.takeAll names steps).2.sum = (concat (steps.map (alone names))).size := by
  induction steps generalizing held with
  | nil => rfl
  | cons step rest ih =>
    rw [takeAll, List.sum_append, ih, take_count, List.map_cons, concat_cons]
    simp [append, size]

/-- What a collection holds after some steps is what each step gives to a collection of its own, in order. -/
theorem steps_never_interact (names : List Text) (steps : List Step) :
    let done := empty.takeAll names steps
    done.1.endpoints = steps.flatMap (fun step => (alone names step).endpoints) ∧
    done.1.unresolved = steps.flatMap (fun step => (alone names step).unresolved) ∧
    (∀ count, let sooner := (empty.takeAll names (steps.take count)).1
      sooner.endpoints <+: done.1.endpoints ∧ sooner.unresolved <+: done.1.unresolved) ∧
    done.1.size = done.2.sum ∧
    ∀ (held : Collection) (step : Step),
      match step.methods with
      | .error _ => held.take names step = (held, none)
      | .ok methods =>
        let share := fun method => empty.addFile names step.file [method]
        held.take names step = (held.append (alone names step), some (alone names step).size) ∧
        alone names step = concat (methods.map share) ∧
        ∀ method : Method, method.Yields names step.file (share method) := by
  intro done
  have whole : done.1 = concat (steps.map (alone names)) := takeAll_held names empty steps
  refine ⟨?_, ?_, ?_, ?_, ?_⟩
  · simp only [whole, concat, List.flatMap_map]
  · simp only [whole, concat, List.flatMap_map]
  · intro count sooner
    have part : sooner = concat ((steps.take count).map (alone names)) := takeAll_held names empty (steps.take count)
    rw [← List.take_append_drop count steps, List.map_append, concat_append, ← part] at whole
    rw [whole]
    exact ⟨List.prefix_append _ _, List.prefix_append _ _⟩
  · rw [whole, takeAll_count]
  · intro held step
    cases told : step.methods with
    | error cause => exact take_error names held step cause told
    | ok methods =>
      refine ⟨take_ok names held step methods told, ?_, yields_ofMethod names step.file⟩
      simp only [alone, take, told, addCounted, empty_addFile, List.map_singleton, concat_singleton]

section Sampled

def routing (attributes : List (Text × List Value)) : AnnotationUse :=
  { name := ['M'], attributes := attributes }

def routedType : List AnnotationUse :=
  [routing [("path", [.string "/x", .string "/y"]), ("method", [.symbol "POST"])]]

def twiceRouted : Method :=
  { name := ['a']
    type := ['A']
    annotations := [{ name := ['N'], attributes := [] },
      routing [("method", [.symbol "GET", .string "HEAD", .symbol "PUT"]), ("value", [.string "/a"])]]
    typeAnnotations := routedType
    line := 1 }

def pathOnly (typeAnnotations : List AnnotationUse) : Method :=
  { name := ['b']
    type := ['B']
    annotations := [routing [("path", [.string "/b"])]]
    typeAnnotations := typeAnnotations
    line := 1 }

def sampledSteps : List Step :=
  [{ file := "A.java", methods := .ok [twiceRouted, pathOnly [], { twiceRouted with annotations := [] }] },
    { file := "E.java", methods := .error (.notJava "E.java" 1) },
    { file := "B.java", methods := .ok [pathOnly routedType] }]

end Sampled

theorem sampled_steps_taken :
    let done := empty.takeAll [['M']] sampledSteps
    done.1.endpoints.map (fun endpoint => [endpoint.method, endpoint.path, endpoint.declaration, endpoint.file]) =
      ([["GET", "/x/a", "A#a", "A.java"], ["GET", "/y/a", "A#a", "A.java"], ["PUT", "/x/a", "A#a", "A.java"],
        ["PUT", "/y/a", "A#a", "A.java"], ["POST", "/x/b", "B#b", "B.java"], ["POST", "/y/b", "B#b", "B.java"]] :
        List (List Text)) ∧
    done.1.unresolved = [("B#b" : Text)] ∧ done.2 = [4, 2] ∧ done.1.size = done.2.sum ∧
    done.1.endpoints = sampledSteps.flatMap (fun step => (alone [['M']] step).endpoints) ∧
    twiceRouted.Yields [['M']] "A.java" (empty.addFile [['M']] "A.java" [twiceRouted]) ∧
    (pathOnly []).Yields [['M']] "A.java" (empty.addFile [['M']] "A.java" [pathOnly []]) := by
  intro done
  obtain ⟨whole, -, -, total, each⟩ := steps_never_interact [['M']] sampledSteps
  obtain ⟨-, -, yields⟩ := each empty { file := "A.java", methods := .ok [twiceRouted] }
  exact ⟨by decide +kernel, by decide +kernel, by decide +kernel, total, whole, yields twiceRouted, yields (pathOnly [])⟩

end Collection

end RouteAtlas
