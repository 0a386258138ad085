import SceneAudit.Finding

/-!
# The summary of a run

What became of each scene and sidecar, how many findings of each category there are, and where the results are.
-/

namespace SceneAudit

/-- What became of one scene. -/
structure SceneSummary where
  scene : Path
  dump : Path
  lines : Nat
  faults : Nat
  rejected : Nat
  /-- The number of script components that name their script. -/
  scripts : Nat
deriving DecidableEq

namespace SceneSummary

def text (summary : SceneSummary) : String :=
  s!"  {summary.scene.text} -> {summary.dump.text} "
    ++ s!"({summary.lines} lines, {summary.faults} faults, {summary.rejected} rejected blocks)\n"

end SceneSummary

/-- A file that could not be dealt with. -/
structure TaskFailure where
  path : Path
  message : String
deriving DecidableEq

namespace TaskFailure

def text (failure : TaskFailure) : String :=
  s!"  {failure.path.text}: {failure.message}\n"

end TaskFailure

structure RunSummary where
  /-- The scenes that were dumped, in order. -/
  scenes : List SceneSummary
  /-- The scenes that were not, in order. -/
  sceneFailures : List TaskFailure
  sidecarsScanned : Nat
  /-- The sidecars that could not be read, in order. -/
  sidecarFailures : List TaskFailure
  findings : FindingCounts
  outputDir : Path
  report : Path
deriving DecidableEq

namespace RunSummary

/-- Whether every scene and every sidecar was dealt with. -/
def isClean (summary : RunSummary) : Bool :=
  summary.sceneFailures.isEmpty && summary.sidecarFailures.isEmpty

/-- The parts of the text of a summary. -/
def pieces (summary : RunSummary) : List String :=
  [ "SceneDump Run Summary\n=====================\n\n",
    s!"Scenes processed: {summary.scenes.length}\n" ]
    ++ summary.scenes.map SceneSummary.text
    ++ [s!"Scene failures: {summary.sceneFailures.length}\n"]
    ++ summary.sceneFailures.map TaskFailure.text
    ++ [ s!"\nSidecars scanned: {summary.sidecarsScanned}\n",
      s!"Sidecar failures: {summary.sidecarFailures.length}\n" ]
    ++ summary.sidecarFailures.map TaskFailure.text
    ++ [ s!"\nFindings: {summary.findings.total}\n",
      s!"  never_instantiated: {summary.findings.neverInstantiated}\n",
      s!"  no_exposed_state: {summary.findings.noExposedState}\n",
      s!"  inconclusive: {summary.findings.inconclusive}\n",
      s!"Report: {summary.report.text}\n" ]

/-- The summary for a reader. -/
def text (summary : RunSummary) : String :=
  String.join summary.pieces

end RunSummary

end SceneAudit
