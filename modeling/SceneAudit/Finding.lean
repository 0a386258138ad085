import SceneAudit.Path
import SceneAudit.Reference

/-!
# Findings

A finding is a script asset that the report names, and why: no scene uses it, or scenes use it although it has no
state that the editor shows, or it could not be told.
-/

namespace SceneAudit

inductive Verdict where
  /-- No scene uses the script. -/
  | neverInstantiated
  /-- Scenes use the script, but it declares no exposed field. -/
  | noExposedState
  /-- It could not be told, for the given reason. -/
  | inconclusive (reason : String)
deriving DecidableEq

namespace Verdict

/-- The label of the verdict in the report. -/
def category : Verdict → String
  | neverInstantiated => "never_instantiated"
  | noExposedState => "no_exposed_state"
  | inconclusive _ => "inconclusive"

/-- The place of the verdict's category among the categories. -/
def rank : Verdict → Nat
  | neverInstantiated => 0
  | noExposedState => 1
  | inconclusive _ => 2

/-- The reason of an inconclusive verdict. -/
def reason? : Verdict → Option String
  | inconclusive reason => some reason
  | _ => none

end Verdict

structure Finding where
  /-- The guid of the script, if its sidecar gives one. -/
  guid : Option Guid
  metaPath : Path
  verdict : Verdict
deriving DecidableEq

namespace Finding

/-- Findings are ordered by category and then by the path of the sidecar. -/
def compare (a b : Finding) : Ordering :=
  (Ord.compare a.verdict.rank b.verdict.rank).then (Ord.compare a.metaPath b.metaPath)

/-- The findings in order; those that are equal in order stay as they were. -/
def sort (findings : List Finding) : List Finding :=
  findings.mergeSort fun a b => (a.compare b).isLE

end Finding

/-- The number of findings in each category. -/
structure FindingCounts where
  neverInstantiated : Nat
  noExposedState : Nat
  inconclusive : Nat
deriving DecidableEq

namespace FindingCounts

/-- The counts of a list of findings. -/
def tally (findings : List Finding) : FindingCounts where
  neverInstantiated := findings.countP fun finding => finding.verdict.rank = 0
  noExposedState := findings.countP fun finding => finding.verdict.rank = 1
  inconclusive := findings.countP fun finding => finding.verdict.rank = 2

def total (counts : FindingCounts) : Nat :=
  counts.neverInstantiated + counts.noExposedState + counts.inconclusive

end FindingCounts

end SceneAudit
