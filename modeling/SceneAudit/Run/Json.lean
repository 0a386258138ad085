import SceneAudit.Json
import SceneAudit.Run.Summary

/-!
# The summary of a run as JSON
-/

namespace SceneAudit

/-- The summary of a scene, field by field. -/
def SceneSummary.toJson (summary : SceneSummary) : Json :=
  .object [
    ("scene", .text summary.scene.text), ("dump", .text summary.dump.text), ("lines", .number summary.lines),
    ("faults", .number summary.faults), ("rejected", .number summary.rejected), ("scripts", .number summary.scripts)]

/-- A failure, field by field. -/
def TaskFailure.toJson (failure : TaskFailure) : Json :=
  .object [("path", .text failure.path.text), ("message", .text failure.message)]

/-- The counts, category by category. -/
def FindingCounts.toJson (counts : FindingCounts) : Json :=
  .object [
    ("never_instantiated", .number counts.neverInstantiated), ("no_exposed_state", .number counts.noExposedState),
    ("inconclusive", .number counts.inconclusive)]

/-- The summary of a run, field by field. -/
def RunSummary.toJson (summary : RunSummary) : Json :=
  .object [
    ("scenes", .list (summary.scenes.map SceneSummary.toJson)),
    ("scene_failures", .list (summary.sceneFailures.map TaskFailure.toJson)),
    ("sidecars_scanned", .number summary.sidecarsScanned),
    ("sidecar_failures", .list (summary.sidecarFailures.map TaskFailure.toJson)),
    ("findings", summary.findings.toJson),
    ("output_dir", .text summary.outputDir.text),
    ("report", .text summary.report.text)]

end SceneAudit
