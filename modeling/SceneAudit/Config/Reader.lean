import SceneAudit.Config
import SceneAudit.Disk
import SceneAudit.Toml.Document

/-!
# Reading configurations

A configuration is written in TOML.  Every key may be missing, and keys that are not known are passed over; a known key
must have a value of its type.
-/

namespace SceneAudit

/-- Why a configuration could not be read. -/
inductive ConfigError where
  | unreadable (path : Path) (cause : DiskError)
  /-- The text is no configuration. -/
  | malformed (path : Path)
deriving DecidableEq

namespace Config

open Toml

/-- The value of a key if it is missing or as a rule wants it. -/
def field {α : Type} (entries : Entries) (key : String) (missing : α) (rule : Value → Option α) : Option α :=
  match entries.find? key with
  | none => some missing
  | some value => rule value

/-- A text. -/
def textValue? : Value → Option String
  | .text value => some value
  | _ => none

/-- A path. -/
def pathValue? (value : Value) : Option Path :=
  (textValue? value).map Path.mk

/-- A number that is not negative. -/
def countValue? : Value → Option Nat
  | .scalar (.whole (.ofNat value)) => some value
  | _ => none

/-- Whether a value has parts but none in fact. -/
def isEmptyValue : Value → Bool
  | .array elements => elements.isEmpty
  | .table _ entries => entries.isEmpty
  | _ => false

/-- A report mode: its name, or a table with nothing but its name as a key. -/
def modeValue? : Value → Option ReportMode
  | .text value => ReportMode.ofText? value
  | .table _ [(name, value)] => if isEmptyValue value then ReportMode.ofText? name else none
  | _ => none

/-- The configuration that the entries of a document give. -/
def ofEntries? (entries : Entries) : Option Config := do
  let missing : Config := {}
  return {
    projectDir := ← field entries "project_dir" missing.projectDir pathValue?
    outputDir := ← field entries "output_dir" missing.outputDir pathValue?
    scenesDir := ← field entries "scenes_dir" missing.scenesDir pathValue?
    scriptsDir := ← field entries "scripts_dir" missing.scriptsDir pathValue?
    sceneExtension := ← field entries "scene_extension" missing.sceneExtension textValue?
    dumpExtension := ← field entries "dump_extension" missing.dumpExtension textValue?
    reportFileName := ← field entries "report_file_name" missing.reportFileName textValue?
    reportMode := ← field entries "report_mode" missing.reportMode modeValue?
    threads := ← field entries "threads" missing.threads fun value => (countValue? value).map some
  }

/-- The configuration that a text gives. -/
def ofText? (text : String) : Option Config := do
  ofEntries? (← document? text)

/-- The configuration in the file at a path. -/
def load {m : Type → Type} [Monad m] [Disk m] (path : Path) : m (Except ConfigError Config) := do
  match ← Disk.readText path with
  | .error cause => return .error (.unreadable path cause)
  | .ok text => return (ofText? text).elim (.error (.malformed path)) .ok

end Config

end SceneAudit
