/-!
# Paths

A path is UTF-8 text.  Names of other bytes are left out, so that a report or a message can show every path as it is.

A path is kept as it was written and read by its components: slashes separate them, repeated and trailing slashes and
inner `.` components say nothing, a leading slash is the root component, and a leading `.` is a component of its own.
Paths are ordered by their components, so that a directory's contents stay together.

The last component is the file name unless it is the root, `.` or `..`.  The extension is what follows the last dot
of a file name, provided that something stands before that dot.
-/

namespace SceneAudit

structure Path where
  text : String
deriving DecidableEq

namespace Path

/-! ## Components -/

inductive Component where
  | root
  | current
  | parent
  | name (text : String)
deriving DecidableEq

namespace Component

/-- The root comes first, then `.`, then `..`, then the names. -/
def rank : Component → Nat
  | root => 0
  | current => 1
  | parent => 2
  | name _ => 3

/-- The text of a name; empty for the other components. -/
def nameText : Component → String
  | name text => text
  | _ => ""

/-- Components are ordered by kind, and names by their texts. -/
instance : Ord Component := ⟨compareLex (compareOn rank) (compareOn nameText)⟩

end Component

/-- The texts between slashes. -/
def splitAtSlashes (cs : List Char) : List (List Char) :=
  cs.foldr
    (fun c rest =>
      match c, rest with
      | '/', _ => [] :: rest
      | _, [] => [[c]]
      | _, piece :: more => (c :: piece) :: more)
    [[]]

/-- The component that a text between slashes is, other than at the start of the path. -/
def innerComponent? (piece : List Char) : Option Component :=
  if piece = [] ∨ piece = ['.'] then
    none
  else if piece = ['.', '.'] then
    some .parent
  else
    some (.name (String.ofList piece))

/-- What the text before the first slash adds to the inner components. -/
def leadingComponent? (absolute : Bool) (pieces : List (List Char)) : Option Component :=
  if absolute then
    some .root
  else if pieces.head? = some ['.'] then
    some .current
  else
    none

/-- Whether the path starts at the root. -/
def isAbsolute (path : Path) : Bool :=
  path.text.toList.head? == some '/'

def components (path : Path) : List Component :=
  let pieces := splitAtSlashes path.text.toList
  (leadingComponent? path.isAbsolute pieces).toList ++ pieces.filterMap innerComponent?

/-- Paths are ordered by their components. -/
instance : Ord Path := ⟨compareOn components⟩

/-! ## File names and extensions -/

/-- A reversed path text without the slashes and inner `.` components at its end. -/
def dropTrail : List Char → List Char
  | '/' :: rest => dropTrail rest
  | '.' :: '/' :: rest => dropTrail rest
  | cs => cs

/-- The text up to the file name, and the file name. -/
def splitFileName? (path : Path) : Option (List Char × List Char) :=
  let reversed := dropTrail path.text.toList.reverse
  let name := (reversed.takeWhile (· != '/')).reverse
  if name = [] ∨ name = ['.'] ∨ name = ['.', '.'] then
    none
  else
    some ((reversed.dropWhile (· != '/')).reverse, name)

def fileName? (path : Path) : Option String :=
  path.splitFileName?.map fun (_, name) => String.ofList name

/-- The parts of a file name before and after its last dot, if something stands before that dot. -/
def splitExtension? (name : List Char) : Option (List Char × List Char) :=
  match name.reverse.dropWhile (· != '.') with
  | [] => none
  | _ :: reversedStem =>
    if reversedStem = [] then
      none
    else
      some (reversedStem.reverse, (name.reverse.takeWhile (· != '.')).reverse)

def extension? (path : Path) : Option String := do
  let (_, name) ← path.splitFileName?
  let (_, extension) ← splitExtension? name
  return String.ofList extension

/-- The path up to the end of its file name's stem; a path without file name is left alone. -/
def cutAfterStem (path : Path) : Path :=
  match path.splitFileName? with
  | none => path
  | some (front, name) =>
    match splitExtension? name with
    | none => ⟨String.ofList (front ++ name)⟩
    | some (stem, _) => ⟨String.ofList (front ++ stem)⟩

/-- The path without its extension: as many characters as the extension has are cut off the end first, and then what
follows the stem of the file name that is left. -/
def withoutExtension (path : Path) : Path :=
  match path.extension? with
  | none => path.cutAfterStem
  | some extension =>
    cutAfterStem ⟨String.ofList (path.text.toList.take (path.text.length - extension.length))⟩

/-! ## Joining and descending -/

/-- The path `inner` as seen from `path`: an absolute one stays as it is. -/
def join (path : Path) (inner : String) : Path :=
  if isAbsolute ⟨inner⟩ then
    ⟨inner⟩
  else if path.text = "" ∨ path.text.toList.getLast? = some '/' then
    ⟨path.text ++ inner⟩
  else
    ⟨path.text ++ "/" ++ inner⟩

/-- The path without its last component; none for the root and for the empty path. -/
def parent? (path : Path) : Option Path :=
  let reversed := dropTrail path.text.toList.reverse
  match reversed with
  | [] => none
  | _ =>
    let front := reversed.dropWhile (· != '/')
    match front, dropTrail front with
    | [], _ => some ⟨""⟩
    | _, [] => some ⟨"/"⟩
    | _, rest => some ⟨String.ofList rest.reverse⟩

end Path

end SceneAudit
