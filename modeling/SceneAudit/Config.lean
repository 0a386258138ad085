import SceneAudit.Path

/-!
# The configuration of a run

Where the project is and where the results go.  The directories of scenes and scripts are given as seen from the
project, and dumps and report lie in the output directory; an absolute path stays as it is.
-/

namespace SceneAudit

/-- What becomes of the earlier contents of the report. -/
inductive ReportMode where
  | truncate
  | append
deriving DecidableEq

namespace ReportMode

/-- The mode as configurations write it. -/
def text : ReportMode → String
  | truncate => "truncate"
  | append => "append"

/-- The mode that configurations write as `text`. -/
def ofText? (text : String) : Option ReportMode :=
  [truncate, append].find? fun mode => mode.text = text

end ReportMode

structure Config where
  projectDir : Path := ⟨"."⟩
  outputDir : Path := ⟨"."⟩
  scenesDir : Path := ⟨"Assets/Scenes"⟩
  scriptsDir : Path := ⟨"Assets/Scripts"⟩
  sceneExtension : String := "unity"
  dumpExtension : String := "dump"
  reportFileName : String := "UnusedScripts.csv"
  reportMode : ReportMode := .truncate
  /-- The number of workers that was asked for; it does not change the results. -/
  threads : Option Nat := none
deriving DecidableEq

namespace Config

/-- The directory that the scenes lie in. -/
def scenesPath (config : Config) : Path :=
  config.projectDir.join config.scenesDir.text

/-- The directory that the scripts lie in or below. -/
def scriptsPath (config : Config) : Path :=
  config.projectDir.join config.scriptsDir.text

def reportPath (config : Config) : Path :=
  config.outputDir.join config.reportFileName

/-- The name of a scene's dump: the name of the scene with one more extension. -/
def dumpName (config : Config) (scene : Path) : String :=
  scene.fileName?.getD "" ++ "." ++ config.dumpExtension

/-- Where the dump of a scene goes. -/
def dumpPath (config : Config) (scene : Path) : Path :=
  config.outputDir.join (config.dumpName scene)

end Config

end SceneAudit
