import Osc.Text.Utf8

/-!
A tree of files and directories, given as data, and ways through it. A way is walked name
by name: a step goes down to what is there, or up from a directory that is there. Above
the root of the tree there are only directories that hold nothing, so that no way leads
back.
-/

namespace Osc

open Text (ofString)

/-- The names on a way, with two dots for a step up. -/
abbrev Path := List Text

namespace Path

def slash : CodePoint := CodePoint.ofChar '/'

def dot : Text := ofString "."

def parent : Text := ofString ".."

/-- The names in a path as it is written; single dots and doubled slashes say nothing. -/
def ofText (t : Text) : Path :=
  let rec names (current : Text) : Text → List Text
    | [] => [current]
    | c :: rest => if c = slash then current :: names [] rest else names (current ++ [c]) rest
  (names [] t).filter fun name => !name.isEmpty && name != dot

def toText (path : Path) : Text := Text.join [slash] path

/-- The paths that start a path, itself included. -/
def starts (path : Path) : List Path := (List.range (path.length + 1)).map path.take

end Path

/-- Where a way has come to: a place in the tree, by the names below the root, or a
directory above it. -/
inductive Place where
  | inside (path : Path)
  | above
deriving DecidableEq

namespace Place

def root : Place := .inside []

/-- One step, whatever is there. -/
def enter (place : Place) (name : Text) : Place :=
  match place with
  | .above => .above
  | .inside path =>
    if name ≠ Path.parent then .inside (path ++ [name])
    else if path.isEmpty then .above
    else .inside path.dropLast

/-- The place that a way leads to, whatever is there. -/
def follow (place : Place) (path : Path) : Place := path.foldl enter place

def inside? : Place → Option Path
  | .inside path => some path
  | .above => none

end Place

structure FileTree where
  files : List (Path × Bytes)
  directories : List Path

/-- Why a way leads nowhere. -/
inductive WalkFault where
  | missing
  | nameTooLong

namespace FileTree

/-- The tree with files and directories at the ends of ways from the root. What a way to a
directory passes through is made as well. -/
def ofWays (files : List (Path × Bytes)) (directories : List Path) : FileTree :=
  let at? (path : Path) : Option Path := (Place.root.follow path).inside?
  ⟨files.filterMap fun (path, data) => (at? path).map fun place => (place, data),
    (directories.flatMap Path.starts).filterMap at?⟩

def isFile (tree : FileTree) (path : Path) : Bool := (tree.files.lookup path).isSome

/-- Directories are those given and all above a file or another directory. -/
def isDirectory (tree : FileTree) (path : Path) : Bool :=
  path.isEmpty || tree.directories.any path.isPrefixOf ||
    tree.files.any fun (file, _) => path.isPrefixOf file && path.length < file.length

/-- Whether steps can start from a place. -/
def isOpen (tree : FileTree) : Place → Bool
  | .above => true
  | .inside path => tree.isDirectory path

def holds (tree : FileTree) : Place → Bool
  | .above => false
  | .inside path => tree.isFile path || tree.isDirectory path

/-- The bytes that the longest name has. -/
def maxNameSize : Nat := 255

/-- One step to what is there. -/
def step (tree : FileTree) (place : Place) (name : Text) : Except WalkFault Place :=
  let next := place.enter name
  if !tree.isOpen place then .error .missing
  else if name = Path.parent then .ok next
  else if maxNameSize < Utf8.size name then .error .nameTooLong
  else if tree.holds next then .ok next
  else .error .missing

def walk (tree : FileTree) (place : Place) (path : Path) : Except WalkFault Place :=
  path.foldlM tree.step place

end FileTree

end Osc
