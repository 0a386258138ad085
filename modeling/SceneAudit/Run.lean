import SceneAudit.Config
import SceneAudit.Discovery
import SceneAudit.Finding.CrossReference
import SceneAudit.Finding.Report
import SceneAudit.Run.Summary
import SceneAudit.Scene

/-!
# A run over a project

First every scene is read, registered and dumped.  When all scripts that scenes use are known, the sidecars are read and
cross-referenced, and the findings go into the report.  What goes wrong with one scene or sidecar is noted and costs no
other; only the output directory and the report can stop the run.
-/

namespace SceneAudit

/-! ## What may go wrong -/

/-- Why a run stopped.  Nothing here stands for a pool of workers that could not be set up: the tasks are carried out
one after the other, so a run needs none. -/
inductive RunError where
  /-- Something the run cannot do without could not be had. -/
  | disk (path : Path) (cause : DiskError)
  /-- The rows of the report could not be written. -/
  | report (path : Path) (cause : DiskError)
deriving DecidableEq

namespace RunError

def message : RunError → String
  | disk path cause => s!"io error at {path.text}: {cause.message}"
  | report path cause => s!"report error at {path.text}: {cause.message}"

end RunError

/-- Why a scene was not dumped. -/
inductive SceneError where
  | unreadable (path : Path) (cause : DiskError)
  /-- The file is no text from this offset on. -/
  | notText (path : Path) (offset : Nat)
  | unwritable (path : Path) (cause : DiskError)
deriving DecidableEq

namespace SceneError

def message : SceneError → String
  | unreadable path cause => s!"io error reading {path.text}: {cause.message}"
  | notText path offset => s!"{path.text} is not valid UTF-8 (first bad byte at offset {offset})"
  | unwritable path cause => s!"io error writing {path.text}: {cause.message}"

end SceneError

namespace Sidecar

/-- What is said of a sidecar that could not be read. -/
def unreadable (path : Path) (cause : DiskError) : String :=
  s!"io error reading {path.text}: {cause.message}"

end Sidecar

/-! ## One file -/

namespace Run

variable {m : Type → Type} [Monad m] [Disk m]

/-- Puts a text into a file in place of what was there. -/
def writeText (path : Path) (text : String) : m (Except DiskError Unit) := do
  match ← Disk.create path with
  | .error cause => return .error cause
  | .ok () => Disk.append path text.toUTF8

/-- The document of a scene. -/
def readScene (path : Path) : m (Except SceneError String) := do
  match ← Disk.read path with
  | .error cause => return .error (.unreadable path cause)
  | .ok bytes => return (Text.decode bytes).mapError (SceneError.notText path)

/-- Reads one scene, registers its scripts and writes its dump.  The scripts are registered even if the dump cannot be
written. -/
def sceneTask (config : Config) (registry : Registry) (path : Path) :
    m (Registry × Except SceneError SceneSummary) := do
  match ← readScene path with
  | .error error => return (registry, .error error)
  | .ok document =>
    let scene := Scene.ofDocument document
    let (registry, scripts) := registry.extend path scene.scripts
    let hierarchy := scene.hierarchy
    let dump := config.dumpPath path
    match ← writeText dump hierarchy.dump with
    | .error cause => return (registry, .error (.unwritable dump cause))
    | .ok () =>
      let summary := {
        scene := path
        dump := dump
        lines := hierarchy.lines.length
        faults := hierarchy.faults.length
        rejected := scene.rejected.length
        scripts := scripts
      }
      return (registry, .ok summary)

/-- Reads one sidecar. -/
def sidecarTask (path : Path) : m (Except DiskError Sidecar) := do
  return (← Disk.readText path).map (Sidecar.ofText path)

/-! ## All files -/

/-- What became of the scenes, the last one first, and the registry of their scripts. -/
structure SceneProgress where
  registry : Registry
  reversedOutcomes : List (Path × Except SceneError SceneSummary)

/-- Deals with the scenes, one after the other. -/
def scenePhase (config : Config) (scenes : List Path) : m SceneProgress :=
  scenes.foldlM
    (fun progress path => do
      let (registry, outcome) ← sceneTask config progress.registry path
      return ⟨registry, (path, outcome) :: progress.reversedOutcomes⟩)
    ⟨.empty, []⟩

/-- Reads the sidecars. -/
def sidecarPhase (sidecars : List Path) : m (List (Path × Except DiskError Sidecar)) :=
  sidecars.mapM fun path => return (path, ← sidecarTask path)

/-- What was achieved, in order. -/
def achieved {ε α : Type} (outcomes : List (Path × Except ε α)) : List α :=
  outcomes.filterMap fun (_, outcome) => outcome.toOption

/-- What failed, in order. -/
def failed {ε α : Type} (message : Path → ε → String) (outcomes : List (Path × Except ε α)) : List TaskFailure :=
  outcomes.filterMap fun (path, outcome) =>
    match outcome with
    | .ok _ => none
    | .error error => some ⟨path, message path error⟩

/-! ## The report -/

/-- Writes the findings into the report. -/
def writeReport (path : Path) (mode : ReportMode) (findings : List Finding) : m (Except RunError Unit) := do
  let opened ←
    match mode with
    | .truncate => Disk.create path
    | .append => Disk.ensure path
  match opened with
  | .error cause => return .error (.disk path cause)
  | .ok () => return (← Disk.append path (reportText findings).toUTF8).mapError (RunError.report path)

end Run

/-! ## The run -/

/-- Runs over the project of a configuration. -/
def audit {m : Type → Type} [Monad m] [Disk m] (config : Config) (oracle : Path → m OracleAnswer) :
    m (Except RunError RunSummary) := do
  match ← Disk.createDirectories config.outputDir with
  | .error cause => return .error (.disk config.outputDir cause)
  | .ok () =>
    let scenes ← sceneFiles config.scenesPath config.sceneExtension
    let sidecars ← metaFiles config.scriptsPath
    let progress ← Run.scenePhase config scenes
    let sceneOutcomes := progress.reversedOutcomes.reverse
    let sidecarOutcomes ← Run.sidecarPhase sidecars
    let findings ← crossReference progress.registry.freeze oracle (Run.achieved sidecarOutcomes)
    match ← Run.writeReport config.reportPath config.reportMode findings with
    | .error error => return .error error
    | .ok () =>
      return .ok {
        scenes := Run.achieved sceneOutcomes
        sceneFailures := Run.failed (fun _ error => error.message) sceneOutcomes
        sidecarsScanned := sidecars.length
        sidecarFailures := Run.failed Sidecar.unreadable sidecarOutcomes
        findings := .tally findings
        outputDir := config.outputDir
        report := config.reportPath
      }

end SceneAudit
