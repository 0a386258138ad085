import SceneAudit.Disk.Error
import SceneAudit.Path
import Std.Data.HashMap

/-!
# File trees

A file tree is a disk as a value: what there is at each place.  A place is given by the names that lead to it from the
root, the innermost first, so that the rest of the list is the directory around it.

A path is followed name by name.  Every name before the last must lead to a directory, `.` stays and `..` goes back, and
a path that ends with a slash must lead to a directory as well.  There are no links.
-/

namespace SceneAudit

/-- The names from a place out to the root. -/
abbrev Place := List String

inductive Entry where
  | directory
  | file (contents : ByteArray)
  /-- A device that may be opened for writing and takes no byte. -/
  | full

structure FileTree where
  /-- What there is, except for the root, which is a directory. -/
  entries : Std.HashMap Place Entry
  /-- The place from which relative paths lead. -/
  here : Place

namespace FileTree

/-! ## Places -/

/-- What there is at a place. -/
def entry? (tree : FileTree) (place : Place) : Option Entry :=
  match place with
  | [] => some .directory
  | _ => tree.entries[place]?

/-- Whether a place is a directory, and why it is none. -/
def checkDirectory (tree : FileTree) (place : Place) : Except DiskError Unit :=
  match tree.entry? place with
  | some .directory => .ok ()
  | some _ => .error .notDirectory
  | none => .error .notFound

/-- The place that one name leads to. -/
def descend (place : Place) (name : String) : Place :=
  if name = "." then place
  else if name = ".." then place.tail
  else name :: place

/-- Follows names from a place; each of them has to lead on from a directory. -/
def follow (tree : FileTree) (place : Place) : List String → Except DiskError Place
  | [] => .ok place
  | name :: names => do
    tree.checkDirectory place
    follow tree (descend place name) names

/-- The names in a path. -/
def names (path : Path) : List String :=
  ((Path.splitAtSlashes path.text.toList).map String.ofList).filter (· ≠ "")

/-- Whether a path says by its last character that it leads to a directory. -/
def endsInSlash (path : Path) : Bool :=
  path.text.toList.getLast? = some '/'

/-- The place where a path starts. -/
def startOf (tree : FileTree) (path : Path) : Place :=
  if path.isAbsolute then [] else tree.here

/-- The place that a path leads to; there need not be anything. -/
def locate (tree : FileTree) (path : Path) : Except DiskError Place :=
  if path.text = "" then .error .notFound
  else tree.follow (tree.startOf path) (names path ++ if endsInSlash path then ["."] else [])

/-- What there is at a path, and where that is. -/
def find (tree : FileTree) (path : Path) : Except DiskError (Place × Entry) := do
  let place ← tree.locate path
  match tree.entry? place with
  | some entry => .ok (place, entry)
  | none => .error .notFound

/-- The place for a file that is to be at the path: its name must be neither missing nor one of a directory. -/
def locateFile (tree : FileTree) (path : Path) : Except DiskError Place := do
  match (names path).reverse with
  | [] => .error (if path.text = "" then .notFound else .isDirectory)
  | last :: front =>
    let place ← tree.follow (tree.startOf path) front.reverse
    tree.checkDirectory place
    if endsInSlash path || last = "." || last = ".." then .error .isDirectory else .ok (last :: place)

/-- The tree with something else at a place. -/
def insert (tree : FileTree) (place : Place) (entry : Entry) : FileTree :=
  { tree with entries := tree.entries.insert place entry }

/-! ## Looking -/

/-- Whether there is a directory at the path. -/
def isDirectory (tree : FileTree) (path : Path) : Bool :=
  match tree.find path with
  | .ok (_, .directory) => true
  | _ => false

/-- The bytes of the file at the path. -/
def read (tree : FileTree) (path : Path) : Except DiskError ByteArray := do
  match ← tree.find path with
  | (_, .file contents) => .ok contents
  | (_, .full) => .ok .empty
  | (_, .directory) => .error .isDirectory

/-- The names that lead from a directory to a place inside it, in order. -/
def namesBelow? (directory place : Place) : Option (List String) :=
  let depth := place.length - directory.length
  if depth ≠ 0 && place.drop depth = directory then some (place.take depth).reverse else none

/-- All that there is below a directory, with the names that lead there; in no set order. -/
def below (tree : FileTree) (directory : Place) : List (List String × Entry) :=
  tree.entries.toList.filterMap fun (place, entry) => (namesBelow? directory place).map (·, entry)

/-- The path of what is below a directory. -/
def pathBelow (path : Path) (names : List String) : Path :=
  names.foldl Path.join path

/-- The regular files in the directory at the path, or also those in the directories below it. -/
def files (tree : FileTree) (deep : Bool) (path : Path) : List Path :=
  match tree.find path with
  | .ok (place, .directory) =>
    (tree.below place).filterMap fun (names, entry) =>
      match entry with
      | .file _ => if deep || names.length = 1 then some (pathBelow path names) else none
      | _ => none
  | _ => []

/-! ## Changing -/

/-- The tree after a file has been opened for writing. -/
def openWith (tree : FileTree) (truncate : Bool) (path : Path) : Except DiskError FileTree := do
  let place ← tree.locateFile path
  match tree.entry? place with
  | some .directory => .error .isDirectory
  | some .full => .ok tree
  | some (.file contents) => .ok (tree.insert place (.file (if truncate then .empty else contents)))
  | none => .ok (tree.insert place (.file .empty))

/-- The tree after bytes have been added to the end of a file. -/
def append (tree : FileTree) (path : Path) (bytes : ByteArray) : Except DiskError FileTree := do
  match ← tree.find path with
  | (place, .file contents) => .ok (tree.insert place (.file (contents ++ bytes)))
  | (_, .full) => if bytes.isEmpty then .ok tree else .error .noSpace
  | (_, .directory) => .error .isDirectory

/-- The tree after a directory has been made. -/
def makeDirectory (tree : FileTree) (path : Path) : Except DiskError FileTree := do
  match (names path).reverse with
  | [] => .error (if path.text = "" then .notFound else .alreadyExists)
  | last :: front =>
    let place ← tree.follow (tree.startOf path) front.reverse
    tree.checkDirectory place
    if last = "." || last = ".." || (tree.entry? (last :: place)).isSome then .error .alreadyExists
    else .ok (tree.insert (last :: place) .directory)

/-- The tree without what is at the path and below it. -/
def remove (tree : FileTree) (path : Path) : Except DiskError FileTree := do
  let (place, _) ← tree.find path
  .ok { tree with entries := tree.entries.filter fun other _ => other ≠ place && (namesBelow? place other).isNone }

end FileTree

end SceneAudit
