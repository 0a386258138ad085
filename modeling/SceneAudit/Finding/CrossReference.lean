import SceneAudit.Finding
import SceneAudit.Oracle
import SceneAudit.Registry
import SceneAudit.Sidecar

/-!
# Cross-referencing sidecars with the registry

A sidecar that is not a script's is passed over.  A script that no scene uses is reported without a look at its
source; only for one that is used does the oracle say whether its source exposes a field.  An oracle that cannot
tell makes the finding inconclusive.

The oracle answers in a monad, so that it may look at files; with the identity monad it is a plain function.
-/

namespace SceneAudit

namespace Sidecar

/-- What a sidecar says before any look at the script's source. -/
inductive Standing where
  /-- Nothing is to be reported. -/
  | settled
  /-- The finding, whatever the source is. -/
  | reported (finding : Finding)
  /-- The script with this guid is used, so its source decides. -/
  | used (guid : Guid)

/-- The standing of a sidecar. -/
def standing (registry : FrozenRegistry) (sidecar : Sidecar) : Standing :=
  if sidecar.isScriptAsset then
    match sidecar.guid with
    | .unresolved cause =>
      .reported ⟨none, sidecar.path, .inconclusive ("sidecar guid: " ++ cause.message)⟩
    | .resolved guid =>
      if registry.contains guid then .used guid
      else .reported ⟨some guid, sidecar.path, .neverInstantiated⟩
  else
    .settled

/-- The finding on a used script, if there is one. -/
def findingOfAnswer (sidecar : Sidecar) (guid : Guid) : OracleAnswer → Option Finding
  | .ok true => none
  | .ok false => some ⟨some guid, sidecar.path, .noExposedState⟩
  | .error error => some ⟨some guid, sidecar.path, .inconclusive error.message⟩

/-- The finding on a sidecar, if there is one. -/
def classify {m : Type → Type} [Monad m] (registry : FrozenRegistry) (oracle : Path → m OracleAnswer)
    (sidecar : Sidecar) : m (Option Finding) :=
  match sidecar.standing registry with
  | .settled => pure none
  | .reported finding => pure (some finding)
  | .used guid => do
    let answer ← oracle sidecar.sourcePath
    return sidecar.findingOfAnswer guid answer

end Sidecar

/-- The findings on a list of sidecars, in order. -/
def crossReference {m : Type → Type} [Monad m] (registry : FrozenRegistry) (oracle : Path → m OracleAnswer)
    (sidecars : List Sidecar) : m (List Finding) := do
  let findings ← sidecars.filterMapM (Sidecar.classify registry oracle)
  return Finding.sort findings

end SceneAudit
