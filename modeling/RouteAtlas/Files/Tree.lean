import RouteAtlas.Files.Path
import RouteAtlas.Text.Utf8

set_option autoImplicit false

namespace RouteAtlas

inductive FileTree where
  | file (name : Text) (content : List UInt8)
  | directory (name : Text) (entries : List FileTree)

namespace FileTree

def name : FileTree -> Text
  | file name _ => name
  | directory name _ => name

def entries : FileTree -> List FileTree
  | file _ _ => []
  | directory _ entries => entries

def upsert (name : Text) (change : Option FileTree -> FileTree) : List FileTree -> List FileTree
  | [] => [change none]
  | entry :: rest => if entry.name = name then change (some entry) :: rest else entry :: upsert name change rest

def addFile (content : List UInt8) : List Text -> List FileTree -> List FileTree
  | [], entries => entries
  | [name], entries => upsert name (fun _ => file name content) entries
  | name :: rest, entries =>
    upsert name (fun known => directory name (addFile content rest (known.elim [] FileTree.entries))) entries

def addDirectory : List Text -> List FileTree -> List FileTree
  | [], entries => entries
  | name :: rest, entries =>
    upsert name (fun known => directory name (addDirectory rest (known.elim [] FileTree.entries))) entries

def walk? : List FileTree -> FileTree -> List Text -> Option FileTree
  -- What is reached from a place by the components of a path. A place is given by its entry and the directories around
  -- it, innermost first; a file has no entries, and nothing is known above the outermost directory.
  | _, place, [] => some place
  | around, directory name entries, part :: rest =>
    if part = Path.parent then
      match around with
      | [] => none
      | outer :: others => walk? others outer rest
    else
      match entries.find? fun entry => entry.name = part with
      | none => none
      | some entry => walk? (directory name entries :: around) entry rest
  | _, file _ _, _ :: _ => none

def nameLimit : Nat :=
  255

def pathLimit : Nat :=
  4096

def refusal? (entries : List FileTree) (path : Path) : Option Text :=
  -- A system does not look for a path that is too long, nor for a name that is too long in the directory where its turn
  -- comes. What holds U+0000 never gets as far as the system.
  let before := path.components.takeWhile fun part => Utf8.length part ≤ nameLimit
  if path.toText.contains ('\x00' : CodePoint) then none
  else if pathLimit ≤ Utf8.length path.toText then some "File name too long"
  else if before.length < path.components.length then
    match walk? [] (directory [] entries) before with
    | some (directory _ _) => some "File name too long"
    | _ => none
  else none

end FileTree

/-- What paths mean: the file or directory at each of them that exists. -/
structure FileSystem where
  find? : Path -> Option FileTree
  -- The home directory of the user of a name, or with the empty name that of the one who asks.
  home? : Text -> Option Path := fun _ => none
  -- Why the system refuses to look for a path. Where something is found it has not refused.
  refusal? : Path -> Option Text := fun _ => none

namespace FileSystem

def ofEntries (entries : List FileTree) : FileSystem :=
  { find? := fun path =>
      if path.root.isEmpty then FileTree.walk? [] (.directory [] entries) path.components else none
    refusal? := fun path => FileTree.refusal? (if path.root.isEmpty then entries else []) path }

end FileSystem

end RouteAtlas
