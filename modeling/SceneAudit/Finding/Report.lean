import SceneAudit.Csv
import SceneAudit.Finding

/-!
# The report of findings

The report has a row of four columns for each finding and no header: the guid, the path of the sidecar, the category
and, for an inconclusive finding, the reason.
-/

namespace SceneAudit

namespace Finding

/-- The columns of a finding. -/
def columns (finding : Finding) : List String :=
  [(finding.guid.map Guid.text).getD "", finding.metaPath.text, finding.verdict.category,
    finding.verdict.reason?.getD ""]

end Finding

/-- The text of the report. -/
def reportText (findings : List Finding) : String :=
  Csv.encode (findings.map Finding.columns)

end SceneAudit
