import RouteAtlas.Proofs.ErrorSearch
import RouteAtlas.Proofs.GrammarTrees
import RouteAtlas.Source

set_option autoImplicit false

namespace RouteAtlas.Source

open Node

theorem readTree_eq (file : Text) (root : Node) :
    readTree file root =
      match root.nodes.find? isBroken with
      | some node => .error (.notJava file (some node.line))
      | none => (FileReading.ofRoot root).mapError TreeFailure.literal := by
  rw [readTree]
  cases found : root.nodes.find? isBroken with
  | some node =>
    have erring : root.hasError = true := hasError_iff.mpr ⟨node, List.mem_of_find?_eq_some found,
      List.find?_some found⟩
    rw [if_pos erring, firstErrorLine?_eq, found]
    rfl
  | none =>
    have clean : root.hasError = false := by
      rw [← firstErrorLine?_eq_none_iff, firstErrorLine?_eq, found]
      rfl
    rw [if_neg (by simp [clean])]

theorem literal_not_notJava (root : Node) (file : Text) (line : Option Nat) :
    (FileReading.ofRoot root).mapError TreeFailure.literal ≠ .error (.notJava file line) := by
  cases FileReading.ofRoot root <;> rintro ⟨⟩

theorem readTree_notJava_iff {file name : Text} {root : Node} {line : Option Nat} :
    readTree file root = .error (.notJava name line) ↔
      name = file ∧ ∃ node, root.nodes.find? isBroken = some node ∧ line = some node.line := by
  rw [readTree_eq]
  cases found : root.nodes.find? isBroken with
  | some node =>
    simp only [Except.error.injEq, TreeFailure.notJava.injEq, Option.some.injEq, exists_eq_left']
    exact ⟨fun ⟨files, lines⟩ => ⟨files.symm, lines.symm⟩, fun ⟨files, lines⟩ => ⟨files.symm, lines.symm⟩⟩
  | none =>
    simp only [literal_not_notJava, reduceCtorEq, false_and, exists_false, and_false]

theorem readTree_refuses_iff {file : Text} {root : Node} :
    (∃ name line, readTree file root = .error (.notJava name line)) ↔ ∃ node ∈ root.nodes, node.isBroken = true := by
  simp only [readTree_notJava_iff]
  constructor
  · rintro ⟨_, _, -, node, found, -⟩
    exact ⟨node, List.mem_of_find?_eq_some found, List.find?_some found⟩
  · intro broken
    obtain ⟨node, found⟩ := Option.isSome_iff_exists.mp (List.find?_isSome.mpr broken)
    exact ⟨file, _, rfl, node, found, rfl⟩

theorem readTree_brokenOn (file : Text) (line : Nat) :
    readTree file (brokenOn line) = .error (.notJava file (some line)) :=
  readTree_notJava_iff.mpr ⟨rfl, _, rfl, rfl⟩

theorem read_of_unparsed {source : List Char} {line : Nat} (unparsed : Java.parse source = .error line) (file : Text) :
    read file source = .error (.notJava file line) := by
  rw [read, tree, unparsed]
  exact congrArg (Except.mapError TreeFailure.toFailure) (readTree_brokenOn file line)

theorem read_of_parsed {source : List Char} {root : Node} (parsed : Java.parse source = .ok root) (file : Text) :
    read file source = (FileReading.ofRoot root).mapError Failure.literal := by
  rw [read, tree, parsed]
  dsimp only
  rw [readTree, if_neg (by simp [Java.parse_hasError parsed])]
  cases FileReading.ofRoot root <;> rfl

theorem read_refuses_iff {file : Text} {source : List Char} :
    (∃ name line, read file source = .error (.notJava name line)) ↔
      ∃ node ∈ (tree source).nodes, node.isBroken = true := by
  rw [← @readTree_refuses_iff file, read]
  cases told : readTree file (tree source) with
  | ok reading => constructor <;> rintro ⟨_, _, ⟨⟩⟩
  | error failure =>
    cases failure with
    | notJava name line => exact ⟨fun _ => ⟨name, line, rfl⟩, fun _ => ⟨name, line.getD 1, rfl⟩⟩
    | literal cause => constructor <;> rintro ⟨_, _, ⟨⟩⟩

/-- The search from the root with subtrees left out is the search through every node in source order, named or not. A
tree is refused exactly when one of its nodes is broken, and always on a line. -/
theorem refused_at_first_error :
    (∀ root : Node,
      root.hasError = root.nodes.any isBroken ∧
      root.firstErrorLine? = (root.nodes.find? isBroken).map line ∧
      (root.firstErrorLine? = none ↔ ¬ ∃ node ∈ root.nodes, node.isBroken = true)) ∧
    (∀ (file : Text) (root : Node),
      ((∃ name line, readTree file root = .error (.notJava name line)) ↔
        ∃ node ∈ root.nodes, node.isBroken = true) ∧
      ∀ (name : Text) (line : Option Nat), readTree file root = .error (.notJava name line) ↔
        name = file ∧ ∃ node, root.nodes.find? isBroken = some node ∧ line = some node.line) ∧
    ∀ (file : Text) (source : List Char),
      (∃ name line, read file source = .error (.notJava name line)) ↔
        ∃ node ∈ (tree source).nodes, node.isBroken = true := by
  refine ⟨fun root => ⟨hasError_eq_any root, firstErrorLine?_eq root, ?_⟩, ?_, ?_⟩
  · rw [firstErrorLine?_eq_none_iff, ← hasError_iff, Bool.not_eq_true]
  · exact fun file root => ⟨readTree_refuses_iff, fun name line => readTree_notJava_iff⟩
  · exact fun file source => read_refuses_iff

end RouteAtlas.Source
