import SceneAudit.CSharp.Exposure
import SceneAudit.CSharp.Reader
import SceneAudit.Disk

/-!
# Oracles

An oracle says whether a script's source exposes a field, or why it cannot say so.  The usual one reads the source from
the disk and looks for the fields in the tree that a parser makes of it.
-/

namespace SceneAudit

/-- Why a source could not be read. -/
inductive SourceError where
  | disk (cause : DiskError)
  /-- Anything else that an oracle may meet, in its own words. -/
  | other (text : String)
deriving DecidableEq

namespace SourceError

def system (number : Nat) : SourceError :=
  disk (.system number)

def message : SourceError → String
  | disk cause => cause.message
  | other text => text

end SourceError

/-- Why there is no tree of a source. -/
inductive NoTree where
  /-- The parser did not take the grammar. -/
  | grammar (cause : String)
  /-- The parser gave up on the source. -/
  | gaveUp (path : Path)
deriving DecidableEq

/-- A path alone is that of a source on which the parser gave up. -/
instance : Coe Path NoTree := ⟨NoTree.gaveUp⟩

/-- Why an oracle has no answer. -/
inductive OracleError where
  | unreadable (path : Path) (cause : SourceError)
  | aborted (cause : NoTree)
  /-- The source breaks a rule of its language on this line. -/
  | malformed (path : Path) (line : Nat)
deriving DecidableEq

namespace OracleError

def message : OracleError → String
  | unreadable path cause => s!"io error reading {path.text}: {cause.message}"
  | aborted (.grammar cause) => s!"grammar load failed: {cause}"
  | aborted (.gaveUp path) => s!"parse aborted for {path.text}"
  | malformed path line => s!"syntax error in {path.text} at line {line}"

end OracleError

/-- Whether a source exposes a field, or why that cannot be said. -/
abbrev OracleAnswer := Except OracleError Bool

namespace Oracle

section

variable (parser : CSharp.Parser)

/-- The names of the fields that a source exposes, where the path only serves to name the source. -/
def exposedFields (path : Path) (source : String) : Except OracleError (List String) := do
  parser.grammar.mapError fun cause => .aborted (.grammar cause)
  match parser.tree? source with
  | none => .error (.aborted (.gaveUp path))
  | some root =>
    match root.firstError? with
    | some error => .error (.malformed path (error.label.row + 1))
    | none => .ok (root.exposedFields source)

/-- Whether the source at the path exposes a field. -/
def hasExposedField {m : Type → Type} [Monad m] [Disk m] (path : Path) : m OracleAnswer := do
  match ← Disk.readText path with
  | .error cause => return .error (.unreadable path (.disk cause))
  | .ok source => return (exposedFields parser path source).map fun names => !names.isEmpty

end

/-- The names of the fields that the reader finds exposed in a source. -/
def fields : Path → String → Except OracleError (List String) :=
  exposedFields CSharp.reader

/-- Whether the reader finds a field exposed in the source at the path. -/
def ofDisk {m : Type → Type} [Monad m] [Disk m] : Path → m OracleAnswer :=
  hasExposedField CSharp.reader

end Oracle

end SceneAudit
