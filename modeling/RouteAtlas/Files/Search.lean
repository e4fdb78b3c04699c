import RouteAtlas.Files.Tree
import RouteAtlas.Failure

set_option autoImplicit false

namespace RouteAtlas

def ignoredNames : List Text :=
  [".git", ".hg", ".svn", ".idea", ".gradle"]

def Path.isIgnored (path : Path) : Bool :=
  ignoredNames.contains path.name

structure SourceFile where
  path : Path
  content : List UInt8
deriving DecidableEq, Repr

namespace FileTree

def sortByName {Entry : Type} (entries : List (Text × Entry)) : List (Text × Entry) :=
  entries.mergeSort fun first second => Text.le first.1 second.1

def filesEndingIn (ending : Text) : List FileTree -> List (Text × List UInt8)
  | [] => []
  | directory _ _ :: rest => filesEndingIn ending rest
  | file name content :: rest =>
    if name.endsWith ending then (name, content) :: filesEndingIn ending rest else filesEndingIn ending rest

mutual

def filesBelow (ending : Text) (path : Path) : FileTree -> List SourceFile
  | file _ _ => []
  | directory _ entries =>
    ((sortByName (filesEndingIn ending entries)).map fun entry => { path := path.child entry.1, content := entry.2 })
      ++ (sortByName (filesOfDirectories ending path entries)).flatMap Prod.snd

def filesOfDirectories (ending : Text) (path : Path) : List FileTree -> List (Text × List SourceFile)
  | [] => []
  | entry :: rest =>
    let below := filesBelow ending (path.child entry.name) entry
    match entry with
    | file _ _ => filesOfDirectories ending path rest
    | directory name _ =>
      if (path.child name).isIgnored then filesOfDirectories ending path rest
      else (name, below) :: filesOfDirectories ending path rest

end

end FileTree

namespace FileSystem

def scan (files : FileSystem) (ending : Text) (path : Path) : List SourceFile :=
  -- The files below a path; none if there is no directory.
  (files.find? path).elim [] (FileTree.filesBelow ending path)

def locate? (files : FileSystem) (path : Path) : Option Path :=
  -- The place of a path. A tilde with the name of a user at its beginning stands for the home directory of this user.
  if path.startsAtHome then
    (files.home? ((path.components.headD []).drop 1)).map fun home =>
      { home with components := home.components ++ path.components.tail }
  else some path

def expandPath (files : FileSystem) (ending : Text) (argument : Text) : Except Failure (List SourceFile) :=
  match files.locate? (Path.ofText argument) with
  | none => .error .unknownHome
  | some path =>
    match files.find? path with
    | some (.directory name entries) => .ok (FileTree.filesBelow ending path (.directory name entries))
    | some (.file _ content) => .ok [{ path := path, content := content }]
    | none => .error ((files.refusal? path).elim (.missingPath path.toText) .refused)

def expandPaths (files : FileSystem) (ending : Text) (arguments : List Text) : Except Failure (List SourceFile) :=
  (arguments.mapM (files.expandPath ending)).map List.flatten

end FileSystem

end RouteAtlas
