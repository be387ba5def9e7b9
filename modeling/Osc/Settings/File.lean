import Osc.Settings.Document
import Osc.Settings.Tree

/-!
Settings files. The settings file is found by going up from a directory until one holds
it. Messages show a path as it was written, or below the root of the tree.
-/

namespace Osc

open Text (ofString)

inductive SettingsFault where
  | notFound (path : Text)
  | nameTooLong (path : Text)
  | nulInPath
  | isDirectory (path : Text)
  | invalidUtf8 (cause : Utf8.Malformed)
  | malformed
  | integerTooLong (digits : Nat)
  | tooDeep
  | refused (fault : Fault)

def SettingsFault.message : SettingsFault → Text
  | .notFound path => ofString "Config file not found: " ++ path
  | .nameTooLong path => ofString "[Errno 36] File name too long: " ++ Quoted.text path
  | .nulInPath => ofString "embedded null byte"
  | .isDirectory path => ofString "[Errno 21] Is a directory: " ++ Quoted.text path
  | .invalidUtf8 cause => cause.message
  | .malformed => []
  | .integerTooLong digits => (ValueFault.numeralTooLong digits).message
  | .tooDeep => ofString "maximum recursion depth exceeded"
  | .refused fault => fault.message

/-- A way from a place, with the text that it is shown by. -/
structure WrittenPath where
  start : Place
  names : Path
  shown : Text

namespace WrittenPath

def rootName : Text := ofString "$ROOT"

def belowRoot (path : Path) : WrittenPath :=
  ⟨.root, path, Text.join [Path.slash] (rootName :: path)⟩

/-- A path that does not start at a directory of the tree; two slashes in front stay. -/
def absolute (t : Text) : WrittenPath :=
  let path := Path.ofText t
  let front := t.takeWhile (· = Path.slash)
  ⟨.above, path, (if front.length = 2 then front else [Path.slash]) ++ path.toText⟩

/-- A path as it is written, from a directory or else from the root. -/
def ofText (directory : Option Path) (t : Text) : WrittenPath :=
  let path := Path.ofText t
  if t.head? = some Path.slash then absolute t
  else
    match directory with
    | none => belowRoot path
    | some directory =>
      ⟨Place.root.follow directory, path, if path.isEmpty then Path.dot else path.toText⟩

/-- The place that the path leads to, whatever is there. -/
def place (path : WrittenPath) : Place := path.start.follow path.names

def holdsNul (path : WrittenPath) : Bool := path.names.any fun name => name.contains 0

end WrittenPath

namespace FileTree

/-- The bytes that the longest path has. -/
def maxPathSize : Nat := 4095

/-- What a path leads to. No name has a NUL, so a path with one leads nowhere. -/
def find (tree : FileTree) (path : WrittenPath) : Except WalkFault Place :=
  if path.holdsNul then .error .missing
  else if maxPathSize < Utf8.size path.shown then .error .nameTooLong
  else tree.walk path.start path.names

end FileTree

namespace Settings

def fileName : Text := ofString "asyncosc.toml"

/-- The first of some directories that holds a settings file, and that file. -/
def firstOf (tree : FileTree) : List Path → Except SettingsFault (Option Path)
  | [] => .ok none
  | directory :: rest =>
    let candidate := WrittenPath.belowRoot (directory ++ [fileName])
    match tree.find candidate with
    | .error .nameTooLong => .error (.nameTooLong candidate.shown)
    | .error .missing => firstOf tree rest
    | .ok _ =>
      if tree.isFile candidate.names then .ok (some candidate.names) else firstOf tree rest

/-- The nearest settings file in a directory or above it. -/
def discover (tree : FileTree) (start : WrittenPath) : Except SettingsFault (Option Path) :=
  if start.holdsNul then .error .nulInPath
  else
    match start.place with
    | .above => .ok none
    | .inside path => firstOf tree path.starts.reverse

def readFile (path : Text) (data : Bytes) : Except SettingsFault Settings :=
  match Utf8.decode data with
  | .error cause => .error (.invalidUtf8 cause)
  | .ok t =>
    match Toml.read t with
    | .error .malformed => .error .malformed
    | .error (.integerTooLong digits) => .error (.integerTooLong digits)
    | .error .tooDeep => .error .tooDeep
    | .ok document => (ofDocument path document).mapError .refused

def loadFile (tree : FileTree) (path : WrittenPath) : Except SettingsFault Settings :=
  match tree.find path with
  | .error .missing => .error (.notFound path.shown)
  | .error .nameTooLong => .error (.nameTooLong path.shown)
  | .ok place =>
    match place.inside?.bind fun found => tree.files.lookup found with
    | some data => readFile path.shown data
    | none => .error (.isDirectory path.shown)

/-- Settings from a file, or from the one found above a directory, or the default ones. -/
def load (tree : FileTree) (directory : Path) (path : Option WrittenPath) :
    Except SettingsFault Settings :=
  match path with
  | some path => loadFile tree path
  | none => do
    match ← discover tree (.belowRoot directory) with
    | some found => loadFile tree (.belowRoot found)
    | none => return default

end Settings

end Osc
