import SceneAudit.Proofs.Run.ReportRows

/-!
# The order of findings

Findings are sorted by category and then by the path of the sidecar, and those that are equal
in both keep their order (`isStableSort_sort`).  Paths are compared by their components, so two
sidecars are equal in order only if their paths have the same components.  Where no two sidecars
do, no two findings are equal in order, and then it does not matter in which order the sidecars
came (`findingsOf_eq_of_perm`).
-/

namespace SceneAudit

namespace Finding

/-- The first finding is of an earlier category, or of the same and on no later sidecar. -/
def NotAfter (first second : Finding) : Prop :=
  ReportRow.categories.idxOf first.verdict.category <
      ReportRow.categories.idxOf second.verdict.category ∨
    first.verdict.category = second.verdict.category ∧
      (Ord.compare first.metaPath.components second.metaPath.components).isLE

/-- The findings are of one category and on sidecars with the same path components. -/
def Tied (first second : Finding) : Prop :=
  first.verdict.category = second.verdict.category ∧
    first.metaPath.components = second.metaPath.components

instance (first second : Finding) : Decidable (Tied first second) :=
  inferInstanceAs (Decidable (_ ∧ _))

theorem notAfter_of_isLE {first second : Finding} (h : (first.compare second).isLE) :
    first.NotAfter second := by
  obtain hlt | ⟨hequal, hle⟩ := Ordering.isLE_then_iff_or.mp h
  · left
    rw [idxOf_category, idxOf_category]
    exact Nat.compare_eq_lt.mp hlt
  · exact .inr ⟨category_eq_iff.mpr (Nat.compare_eq_eq.mp hequal), hle⟩

theorem compare_eq_eq_iff {first second : Finding} :
    first.compare second = .eq ↔ first.Tied second := by
  rw [compare, Ordering.then_eq_eq, Path.compare_eq_eq_iff, Nat.compare_eq_eq, Tied, category_eq_iff]

theorem isStableSort_sort (findings : List Finding) :
    IsStableSort NotAfter Tied (sort findings) findings :=
  isStableSort_mergeSort (fun _ _ => notAfter_of_isLE) (fun _ _ => compare_eq_eq_iff) findings

theorem sort_sort (findings : List Finding) : sort (sort findings) = sort findings :=
  List.mergeSort_of_pairwise (pairwise_isLE_mergeSort findings)

end Finding

/-! ## The order of the sidecars -/

namespace Sidecar

variable {registry : FrozenRegistry} {oracle : Path → OracleAnswer} {sidecar : Sidecar}

theorem metaPath_of_finding? {finding : Finding} (h : sidecar.finding? registry oracle = some finding) :
    finding.metaPath = sidecar.path := by
  unfold finding? classify at h
  cases hstanding : sidecar.standing registry with
  | settled =>
      rw [hstanding] at h
      exact absurd h (by simp)
  | reported found =>
      rw [hstanding] at h
      rw [← Option.some.inj h]
      exact metaPath_of_standing hstanding
  | used guid =>
      rw [hstanding] at h
      exact metaPath_of_mem_findingOfAnswer h

end Sidecar

/-- No two sidecars have a path of the same components. -/
def ApartSidecars (sidecars : List Sidecar) : Prop :=
  sidecars.Pairwise fun first second => first.path.components ≠ second.path.components

instance (sidecars : List Sidecar) : Decidable (ApartSidecars sidecars) :=
  inferInstanceAs (Decidable (List.Pairwise _ _))

section Sidecars

variable {sidecars others : List Sidecar}

/-- Findings on sidecars apart are not equal in order. -/
theorem pairwise_compare_ne (hapart : ApartSidecars sidecars) (registry : FrozenRegistry)
    (oracle : Path → OracleAnswer) :
    (sidecars.filterMap (Sidecar.finding? registry oracle)).Pairwise fun first second =>
      first.compare second ≠ .eq := by
  apply hapart.filterMap
  intro sidecar other hne finding hfinding second hsecond htied
  apply hne
  rw [← Sidecar.metaPath_of_finding? hfinding, ← Sidecar.metaPath_of_finding? hsecond]
  exact (Finding.compare_eq_eq_iff.mp htied).2

theorem findingsOf_eq (registry : FrozenRegistry) (oracle : Path → OracleAnswer)
    (sidecars : List Sidecar) : findingsOf registry oracle sidecars =
      Finding.sort (sidecars.filterMap (Sidecar.finding? registry oracle)) :=
  crossReference_pure registry oracle sidecars

theorem findingsOf_eq_of_perm (registry : FrozenRegistry) (oracle : Path → OracleAnswer)
    (hapart : ApartSidecars sidecars) (hperm : others.Perm sidecars) :
    findingsOf registry oracle others = findingsOf registry oracle sidecars := by
  rw [findingsOf_eq, findingsOf_eq]
  exact mergeSort_eq_of_perm (hperm.filterMap _) (pairwise_compare_ne hapart registry oracle)

end Sidecars

/-- **Findings are sorted** by category and path, stably and once for all, and the order of
sidecars with different paths does not show in them. -/
theorem findings_sorted_from_any_order :
    (∀ findings, IsStableSort Finding.NotAfter Finding.Tied (Finding.sort findings) findings ∧
        Finding.sort (Finding.sort findings) = Finding.sort findings) ∧
      ∀ registry oracle sidecars others, ApartSidecars sidecars → others.Perm sidecars →
        findingsOf registry oracle others = findingsOf registry oracle sidecars := by
  constructor
  · intro findings
    exact ⟨Finding.isStableSort_sort findings, Finding.sort_sort findings⟩
  · intro registry oracle sidecars others hapart hperm
    exact findingsOf_eq_of_perm registry oracle hapart hperm

/-! ## Sidecars that came the other way round -/

namespace FourSidecars

/-- One script is used and its source cannot be told; another is used and exposes nothing; the
third is not used, and the last has no guid. -/
def sidecars : List Sidecar :=
  [⟨.resolved ⟨"0fe9"⟩, ⟨"Scripts//Lamp.cs.meta"⟩, true⟩,
    ⟨.resolved ⟨"77aa"⟩, ⟨"Scripts/Door.cs.meta"⟩, true⟩,
    ⟨.resolved ⟨"c3"⟩, ⟨"Scripts/Lamp/Bulb.cs.meta"⟩, true⟩,
    ⟨.unresolved .absent, ⟨"Scripts/./Gate.cs.meta"⟩, true⟩]

def registry : FrozenRegistry :=
  (Registry.empty.extend ⟨"Hall.unity"⟩
    [⟨⟨"30"⟩, .unresolved .absent, .resolved ⟨"0fe9"⟩, .unresolved .absent⟩,
      ⟨⟨"31"⟩, .unresolved .absent, .resolved ⟨"77aa"⟩, .unresolved .absent⟩]).1.freeze

def oracle (source : Path) : OracleAnswer :=
  if source = ⟨"Scripts/Door.cs"⟩ then .ok false else .error (.aborted source)

theorem findings_of_reverse :
    (ApartSidecars sidecars ∧ sidecars.reverse.Perm sidecars) ∧
      findingsOf registry oracle sidecars.reverse = findingsOf registry oracle sidecars := by
  have hapart : ApartSidecars sidecars := by decide
  have hperm : sidecars.reverse.Perm sidecars := List.reverse_perm _
  exact ⟨⟨hapart, hperm⟩, findings_sorted_from_any_order.2 registry oracle _ _ hapart hperm⟩

end FourSidecars

end SceneAudit
