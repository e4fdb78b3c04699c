import Mathlib.Data.List.Nodup
import RouteAtlas.Files.Search

set_option autoImplicit false

namespace RouteAtlas

namespace FileTree

/-- A file below some entries, by the names on the way to it, its own last, and its content. -/
inductive FileAt : List FileTree -> List Text -> List UInt8 -> Prop
  | here {entries : List FileTree} {name : Text} {content : List UInt8} (entry : file name content ∈ entries) :
      FileAt entries [name] content
  | inside {entries inner : List FileTree} {name : Text} {names : List Text} {content : List UInt8}
      (entry : directory name inner ∈ entries) (below : FileAt inner names content) :
      FileAt entries (name :: names) content

inductive WellNamed : List FileTree -> Prop
  | entries {entries : List FileTree} (apart : (entries.map name).Nodup)
      (inside : ∀ name inner, directory name inner ∈ entries -> WellNamed inner) : WellNamed entries

/-- The order of two files by the names that are left where these first differ: a file comes before a directory, and of
two files or two directories the one with the smaller name. -/
def BranchesBefore : List Text -> List Text -> Prop
  | name :: rest, other :: others =>
    name ≠ other ∧ (rest = [] ∧ others ≠ [] ∨ (rest = [] ↔ others = []) ∧ Text.Before name other)
  | _, _ => False

def Precedes (first second : List Text) : Prop :=
  ∃ shared rest others, first = shared ++ rest ∧ second = shared ++ others ∧ BranchesBefore rest others

theorem BranchesBefore.asymm {first second : List Text} (before : BranchesBefore first second) :
    ¬ BranchesBefore second first := by
  intro after
  match first, second, before, after with
  | name :: rest, other :: others, ⟨_, order⟩, ⟨_, order'⟩ =>
    rcases order with ⟨plain, deep⟩ | ⟨alike, smaller⟩ <;> rcases order' with ⟨plain', deep'⟩ | ⟨alike', smaller'⟩
    · exact deep plain'
    · exact deep (alike'.mpr plain)
    · exact deep' (alike.mpr plain')
    · exact smaller.asymm smaller'

theorem Precedes.append {first second : List Text} (before : Precedes first second) (names : List Text) :
    Precedes (names ++ first) (names ++ second) := by
  obtain ⟨shared, rest, others, rfl, rfl, branches⟩ := before
  exact ⟨names ++ shared, rest, others, (List.append_assoc ..).symm, (List.append_assoc ..).symm, branches⟩

theorem precedes_cons {name other : Text} {rest others : List Text} :
    Precedes (name :: rest) (other :: others) ↔
      BranchesBefore (name :: rest) (other :: others) ∨ name = other ∧ Precedes rest others := by
  constructor
  · rintro ⟨shared, first, second, left, right, branches⟩
    cases shared with
    | nil =>
      rw [List.nil_append] at left right
      exact .inl (left ▸ right ▸ branches)
    | cons part names =>
      obtain ⟨rfl, rfl⟩ := List.cons.inj left
      obtain ⟨rfl, rfl⟩ := List.cons.inj right
      exact .inr ⟨rfl, names, first, second, rfl, rfl, branches⟩
  · rintro (branches | ⟨rfl, before⟩)
    · exact ⟨[], _, _, rfl, rfl, branches⟩
    · exact before.append [name]

theorem not_nil_precedes (names : List Text) : ¬ Precedes [] names := by
  rintro ⟨shared, rest, others, left, -, branches⟩
  obtain ⟨-, rfl⟩ := List.append_eq_nil_iff.mp left.symm
  exact branches

theorem not_precedes_nil (names : List Text) : ¬ Precedes names [] := by
  rintro ⟨shared, rest, others, -, right, branches⟩
  obtain ⟨-, rfl⟩ := List.append_eq_nil_iff.mp right.symm
  cases rest <;> exact branches

theorem Precedes.asymm {first second : List Text} (before : Precedes first second) : ¬ Precedes second first := by
  induction first generalizing second with
  | nil => exact absurd before (not_nil_precedes second)
  | cons name rest ih =>
    cases second with
    | nil => exact absurd before (not_precedes_nil _)
    | cons other others =>
      intro after
      rcases precedes_cons.mp before with branches | ⟨rfl, sooner⟩ <;>
        rcases precedes_cons.mp after with branches' | ⟨same, later⟩
      · exact branches.asymm branches'
      · exact branches.1 same.symm
      · exact branches'.1 rfl
      · exact ih sooner later

theorem pairwise_sortByName {Entry : Type} {entries : List (Text × Entry)} (apart : (entries.map Prod.fst).Nodup) :
    (sortByName entries).Pairwise fun first second => Text.Before first.1 second.1 := by
  have sorted : (sortByName entries).Pairwise fun first second => Text.le first.1 second.1 = true :=
    List.pairwise_mergeSort (fun first second third => Text.le_trans first.1 second.1 third.1)
      (fun first second => Text.le_total first.1 second.1) entries
  have distinct : (sortByName entries).Pairwise fun first second => first.1 ≠ second.1 := by
    rw [← List.pairwise_map (f := Prod.fst)]
    exact ((List.mergeSort_perm entries _).map Prod.fst).nodup_iff.mpr apart
  refine (sorted.and distinct).imp fun {first second} both => ?_
  exact ((Text.le_iff _ _).mp both.1).resolve_left both.2

theorem mem_sortByName {Entry : Type} {entries : List (Text × Entry)} {entry : Text × Entry} :
    entry ∈ sortByName entries ↔ entry ∈ entries :=
  List.mem_mergeSort

variable (ending : Text)

theorem mem_filesEndingIn {entries : List FileTree} {name : Text} {content : List UInt8} :
    (name, content) ∈ filesEndingIn ending entries ↔ file name content ∈ entries ∧ ending <:+ name := by
  induction entries with
  | nil => simp [filesEndingIn]
  | cons entry rest ih =>
    cases entry with
    | directory other inner => simp [filesEndingIn, ih]
    | file other data =>
      have ends_iff : Text.endsWith other ending = true ↔ ending <:+ other := List.isSuffixOf_iff_suffix
      rw [filesEndingIn]
      split
      next ends =>
        simp only [List.mem_cons, Prod.mk.injEq, file.injEq, ih, or_and_right]
        exact or_congr_left ⟨fun same => ⟨same, same.1 ▸ ends_iff.mp ends⟩, fun both => both.1⟩
      next ends =>
        rw [ih, List.mem_cons, or_and_right, or_iff_right]
        rintro ⟨same, suffix⟩
        cases same
        exact ends (ends_iff.mpr suffix)

theorem names_filesEndingIn (entries : List FileTree) :
    ((filesEndingIn ending entries).map Prod.fst).Sublist (entries.map name) := by
  induction entries with
  | nil => exact .slnil
  | cons entry rest ih =>
    cases entry with
    | directory other inner => exact ih.cons _
    | file other data =>
      rw [filesEndingIn]
      split
      next => exact ih.cons_cons _
      next => exact ih.cons _

theorem isIgnored_child (path : Path) (name : Text) : (path.child name).isIgnored = ignoredNames.contains name := by
  simp [Path.isIgnored, Path.child, Path.name]

theorem mem_filesOfDirectories {path : Path} {entries : List FileTree} {name : Text} {below : List SourceFile} :
    (name, below) ∈ filesOfDirectories ending path entries ↔
      ∃ inner, directory name inner ∈ entries ∧ name ∉ ignoredNames ∧
        below = filesBelow ending (path.child name) (directory name inner) := by
  induction entries with
  | nil => simp [filesOfDirectories]
  | cons entry rest ih =>
    cases entry with
    | file other data => simp [filesOfDirectories, ih]
    | directory other inner =>
      simp only [filesOfDirectories, isIgnored_child]
      split
      next ignored =>
        rw [ih]
        constructor
        · rintro ⟨found, entry, visible, same⟩
          exact ⟨found, List.mem_cons_of_mem _ entry, visible, same⟩
        · rintro ⟨found, entry, visible, same⟩
          rcases List.mem_cons.mp entry with head | later
          · cases head
            exact absurd (List.contains_iff_mem.mp ignored) visible
          · exact ⟨found, later, visible, same⟩
      next searched =>
        rw [List.mem_cons, ih]
        constructor
        · rintro (head | ⟨found, entry, visible, same⟩)
          · cases head
            exact ⟨inner, List.mem_cons_self, fun ignored => searched (List.contains_iff_mem.mpr ignored), rfl⟩
          · exact ⟨found, List.mem_cons_of_mem _ entry, visible, same⟩
        · rintro ⟨found, entry, visible, rfl⟩
          rcases List.mem_cons.mp entry with head | later
          · cases head
            exact .inl rfl
          · exact .inr ⟨found, later, visible, rfl⟩

theorem names_filesOfDirectories (path : Path) (entries : List FileTree) :
    ((filesOfDirectories ending path entries).map Prod.fst).Sublist (entries.map name) := by
  induction entries with
  | nil => exact .slnil
  | cons entry rest ih =>
    cases entry with
    | file other data => exact ih.cons _
    | directory other inner =>
      simp only [filesOfDirectories]
      split
      next => exact ih.cons _
      next => exact ih.cons_cons _

theorem mem_filesBelow {path : Path} {name : Text} {entries : List FileTree} {source : SourceFile} :
    source ∈ filesBelow ending path (directory name entries) ↔
      (∃ name content, file name content ∈ entries ∧ ending <:+ name ∧
        source = { path := path.child name, content := content }) ∨
      ∃ name inner, directory name inner ∈ entries ∧ name ∉ ignoredNames ∧
        source ∈ filesBelow ending (path.child name) (directory name inner) := by
  rw [filesBelow, List.mem_append, List.mem_map, List.mem_flatMap]
  apply or_congr
  · constructor
    · rintro ⟨⟨name, content⟩, listed, rfl⟩
      obtain ⟨entry, ends⟩ := (mem_filesEndingIn ending).mp (mem_sortByName.mp listed)
      exact ⟨name, content, entry, ends, rfl⟩
    · rintro ⟨name, content, entry, ends, rfl⟩
      exact ⟨(name, content), mem_sortByName.mpr ((mem_filesEndingIn ending).mpr ⟨entry, ends⟩), rfl⟩
  · constructor
    · rintro ⟨⟨name, below⟩, listed, member⟩
      obtain ⟨inner, entry, visible, rfl⟩ := (mem_filesOfDirectories ending).mp (mem_sortByName.mp listed)
      exact ⟨name, inner, entry, visible, member⟩
    · rintro ⟨name, inner, entry, visible, member⟩
      exact ⟨(name, _), mem_sortByName.mpr ((mem_filesOfDirectories ending).mpr ⟨inner, entry, visible, rfl⟩), member⟩

theorem not_fileAt_nil {entries : List FileTree} {content : List UInt8} : ¬ FileAt entries [] content := by
  rintro ⟨⟩

theorem fileAt_singleton {entries : List FileTree} {name : Text} {content : List UInt8} :
    FileAt entries [name] content ↔ file name content ∈ entries := by
  constructor
  · rintro (entry | ⟨-, below⟩)
    · exact entry
    · exact absurd below not_fileAt_nil
  · exact .here

theorem fileAt_cons {entries : List FileTree} {name : Text} {names : List Text} {content : List UInt8}
    (deep : names ≠ []) :
    FileAt entries (name :: names) content ↔ ∃ inner, directory name inner ∈ entries ∧ FileAt inner names content := by
  constructor
  · rintro (_ | ⟨entry, below⟩)
    · exact absurd rfl deep
    · exact ⟨_, entry, below⟩
  · rintro ⟨inner, entry, below⟩
    exact .inside entry below

end FileTree

def Path.below (path : Path) (names : List Text) : Path :=
  { path with components := path.components ++ names }

namespace FileTree

variable (ending : Text)

theorem mem_filesBelow_iff {entries : List FileTree} (named : WellNamed entries) {path : Path} {name : Text}
    {source : SourceFile} :
    source ∈ filesBelow ending path (directory name entries) ↔
      ∃ directories file content, FileAt entries (directories ++ [file]) content ∧ ending <:+ file ∧
        (∀ directory ∈ directories, directory ∉ ignoredNames) ∧
        source = { path := path.below (directories ++ [file]), content := content } := by
  induction named generalizing path name with
  | entries apart inside ih =>
    rw [mem_filesBelow]
    constructor
    · rintro (⟨file, content, entry, ends, rfl⟩ | ⟨name, inner, entry, visible, member⟩)
      · exact ⟨[], file, content, .here entry, ends, by simp, rfl⟩
      · obtain ⟨directories, file, content, there, ends, others, rfl⟩ := (ih name inner entry).mp member
        refine ⟨name :: directories, file, content, .inside entry there, ends, ?_, ?_⟩
        · exact List.forall_mem_cons.mpr ⟨visible, others⟩
        · simp [Path.below, Path.child]
    · rintro ⟨directories, file, content, there, ends, visible, rfl⟩
      cases directories with
      | nil => exact .inl ⟨file, content, fileAt_singleton.mp there, ends, rfl⟩
      | cons name directories =>
        obtain ⟨visible, others⟩ := List.forall_mem_cons.mp visible
        obtain ⟨inner, entry, there⟩ := (fileAt_cons (by simp)).mp there
        refine .inr ⟨name, inner, entry, visible, (ih name inner entry).mpr ?_⟩
        refine ⟨directories, file, content, there, ends, others, ?_⟩
        simp [Path.below, Path.child]

theorem below_of_mem {entries : List FileTree} (named : WellNamed entries) {path : Path} {name : Text}
    {source : SourceFile} (member : source ∈ filesBelow ending path (directory name entries)) :
    ∃ first rest, source.path.components = path.components ++ first :: rest := by
  obtain ⟨directories, file, content, -, -, -, rfl⟩ := (mem_filesBelow_iff ending named).mp member
  cases directories with
  | nil => exact ⟨file, [], rfl⟩
  | cons first rest => exact ⟨first, rest ++ [file], rfl⟩

theorem pairwise_filesBelow {entries : List FileTree} (named : WellNamed entries) (path : Path) (name : Text) :
    (filesBelow ending path (directory name entries)).Pairwise fun first second =>
      Precedes first.path.components second.path.components := by
  induction named generalizing path name with
  | @entries entries apart inside ih =>
    have distinct_files := apart.sublist (names_filesEndingIn ending entries)
    have distinct_directories := apart.sublist (names_filesOfDirectories ending path entries)
    have deep {name : Text} {below : List SourceFile} (listed : (name, below) ∈ filesOfDirectories ending path entries)
        {source : SourceFile} (member : source ∈ below) :
        ∃ first rest, source.path.components = path.components ++ name :: first :: rest := by
      obtain ⟨inner, entry, -, rfl⟩ := (mem_filesOfDirectories ending).mp listed
      obtain ⟨first, rest, components⟩ := below_of_mem ending (inside name inner entry) member
      exact ⟨first, rest, by simp [components, Path.child]⟩
    rw [filesBelow, List.pairwise_append, List.pairwise_map, List.pairwise_flatMap]
    refine ⟨?_, ⟨?_, ?_⟩, ?_⟩
    · -- Files of the directory itself.
      refine (pairwise_sortByName distinct_files).imp fun {first second} smaller => ?_
      refine ⟨path.components, [first.1], [second.1], rfl, rfl, ?_, .inr ⟨by simp, smaller⟩⟩
      exact fun same => Text.not_before_self _ (same ▸ smaller)
    · -- Files below one directory.
      rintro ⟨name, below⟩ listed
      obtain ⟨inner, entry, -, rfl⟩ := (mem_filesOfDirectories ending).mp (mem_sortByName.mp listed)
      exact ih name inner entry _ name
    · -- Files below two directories.
      refine (pairwise_sortByName distinct_directories).imp_of_mem ?_
      intro first second firstListed secondListed smaller source member other otherMember
      obtain ⟨next, rest, components⟩ := deep (mem_sortByName.mp firstListed) member
      obtain ⟨next', rest', components'⟩ := deep (mem_sortByName.mp secondListed) otherMember
      refine ⟨path.components, _, _, components, components', ?_, .inr ⟨by simp, smaller⟩⟩
      exact fun same => Text.not_before_self _ (same ▸ smaller)
    · -- A file of the directory itself and one below a directory.
      intro source member other otherMember
      obtain ⟨⟨file, content⟩, firstListed, rfl⟩ := List.mem_map.mp member
      obtain ⟨⟨name, below⟩, secondListed, inBelow⟩ := List.mem_flatMap.mp otherMember
      obtain ⟨next, rest, components⟩ := deep (mem_sortByName.mp secondListed) inBelow
      refine ⟨path.components, [file], _, rfl, components, ?_, .inl ⟨rfl, by simp⟩⟩
      rintro rfl
      obtain ⟨plain, -⟩ := (mem_filesEndingIn ending).mp (mem_sortByName.mp firstListed)
      obtain ⟨inner, nested, -, -⟩ := (mem_filesOfDirectories ending).mp (mem_sortByName.mp secondListed)
      cases List.inj_on_of_nodup_map apart plain nested rfl

theorem paths_nodup {sources : List SourceFile}
    (ordered : sources.Pairwise fun first second => Precedes first.path.components second.path.components) :
    (sources.map SourceFile.path).Nodup := by
  rw [List.Nodup, List.pairwise_map]
  exact ordered.imp fun {first second} before same => (same ▸ before).asymm (same ▸ before)

theorem paths_eq {sources others : List SourceFile}
    (ordered : sources.Pairwise fun first second => Precedes first.path.components second.path.components)
    (othersOrdered : others.Pairwise fun first second => Precedes first.path.components second.path.components)
    (same : ∀ path, path ∈ sources.map SourceFile.path ↔ path ∈ others.map SourceFile.path) :
    sources.map SourceFile.path = others.map SourceFile.path := by
  have permuted : (sources.map SourceFile.path).Perm (others.map SourceFile.path) :=
    (List.perm_ext_iff_of_nodup (paths_nodup ordered) (paths_nodup othersOrdered)).mpr same
  let before := fun first second : Path => Precedes first.components second.components
  have sorted : (sources.map SourceFile.path).Pairwise before := List.pairwise_map.mpr ordered
  have otherSorted : (others.map SourceFile.path).Pairwise before := List.pairwise_map.mpr othersOrdered
  exact permuted.eq_of_pairwise (fun _ _ _ _ precedes follows => absurd follows precedes.asymm) sorted otherSorted

theorem mem_paths_iff {entries : List FileTree} (named : WellNamed entries) {root path : Path} {name : Text} :
    path ∈ (filesBelow ending root (directory name entries)).map SourceFile.path ↔
      ∃ directories file, (∃ content, FileAt entries (directories ++ [file]) content) ∧ ending <:+ file ∧
        (∀ directory ∈ directories, directory ∉ ignoredNames) ∧ path = root.below (directories ++ [file]) := by
  rw [List.mem_map]
  constructor
  · rintro ⟨source, member, rfl⟩
    obtain ⟨directories, file, content, there, ends, visible, rfl⟩ := (mem_filesBelow_iff ending named).mp member
    exact ⟨directories, file, ⟨content, there⟩, ends, visible, rfl⟩
  · rintro ⟨directories, file, ⟨content, there⟩, ends, visible, rfl⟩
    exact ⟨_, (mem_filesBelow_iff ending named).mpr ⟨directories, file, content, there, ends, visible, rfl⟩, rfl⟩

end FileTree

open FileTree in
/-- What is listed below a directory: each file with the right ending that no directory with an ignored name hides, once
and in the order of its names, whatever the order of the entries. -/
theorem FileSystem.scan_lists_files (files : FileSystem) (ending : Text) (root : Path) (name : Text)
    (entries : List FileTree) (there : files.find? root = some (.directory name entries))
    (named : FileTree.WellNamed entries) :
    let listed := files.scan ending root
    (∀ source, source ∈ listed ↔ ∃ directories file content,
      FileAt entries (directories ++ [file]) content ∧ ending <:+ file ∧
      (∀ directory ∈ directories, directory ∉ ignoredNames) ∧
      source = {
        path := { root with components := root.components ++ (directories ++ [file]) }
        content := content }) ∧
    (listed.map SourceFile.path).Nodup ∧
    (listed.Pairwise fun first second => Precedes first.path.components second.path.components) ∧
    ∀ (others : FileSystem) (otherName : Text) (otherEntries : List FileTree),
      others.find? root = some (.directory otherName otherEntries) -> FileTree.WellNamed otherEntries ->
      (∀ names, (∃ content, FileAt otherEntries names content) ↔ ∃ content, FileAt entries names content) ->
      (others.scan ending root).map SourceFile.path = listed.map SourceFile.path := by
  intro listed
  have scanned : listed = filesBelow ending root (.directory name entries) := by
    rw [show listed = files.scan ending root from rfl, scan, there, Option.elim_some]
  have ordered := pairwise_filesBelow ending named root name
  rw [scanned]
  refine ⟨fun source => mem_filesBelow_iff ending named, paths_nodup ordered, ordered, ?_⟩
  intro others otherName otherEntries otherThere otherNamed alike
  rw [scan, otherThere, Option.elim_some]
  refine paths_eq (pairwise_filesBelow ending otherNamed root otherName) ordered fun path => ?_
  rw [mem_paths_iff ending otherNamed, mem_paths_iff ending named]
  simp only [alike]

def sampleEntries : List FileTree :=
  [.directory "z.java" [.file "b.java" [], .file ".git" [], .file "A.java" []],
    .file "note.txt" [], .directory ".git" [.file "c.java" []], .directory "a" [.file "d.java" []], .file "m.java" []]

theorem sampleEntries_wellNamed : FileTree.WellNamed sampleEntries := by
  refine .entries (by decide +kernel) fun name inner entry => .entries ?_ fun deeper deepest nested => ?_ <;>
    simp only [sampleEntries, List.mem_cons, FileTree.directory.injEq, reduceCtorEq, false_or, or_false,
      List.not_mem_nil] at entry
  · rcases entry with ⟨-, rfl⟩ | ⟨-, rfl⟩ | ⟨-, rfl⟩ <;> decide +kernel
  · rcases entry with ⟨-, rfl⟩ | ⟨-, rfl⟩ | ⟨-, rfl⟩ <;> simp at nested

theorem nested_file_listed_once :
    let files : FileSystem := { find? := fun _ => some (.directory "src" sampleEntries) }
    let root : Path := { root := [], components := ["src"] }
    let listed := files.scan ".java" root
    files.find? root = some (.directory "src" sampleEntries) ∧ FileTree.WellNamed sampleEntries ∧
    (listed.map SourceFile.path).Nodup ∧
    { path := { root := [], components := ["src", "z.java", "A.java"] }, content := [] } ∈ listed ∧
    { path := { root := [], components := ["src", ".git", "c.java"] }, content := [] } ∉ listed := by
  intro files root listed
  have there : files.find? root = some (.directory "src" sampleEntries) := rfl
  obtain ⟨members, once, -, -⟩ := files.scan_lists_files ".java" root "src" sampleEntries there sampleEntries_wellNamed
  refine ⟨there, sampleEntries_wellNamed, once, (members _).mpr ?_, fun member => ?_⟩
  · refine ⟨["z.java"], "A.java", [], .inside List.mem_cons_self (.here (by simp)), ?_, ?_, rfl⟩ <;> decide +kernel
  · obtain ⟨directories, file, content, -, -, visible, same⟩ := (members _).mp member
    have names : directories ++ [file] = [(".git" : Text)] ++ [("c.java" : Text)] :=
      (List.cons.inj (congrArg (fun source => source.path.components) same)).2.symm
    obtain ⟨rfl, -⟩ := List.append_inj' names rfl
    exact visible ".git" List.mem_cons_self (by decide +kernel)

end RouteAtlas
