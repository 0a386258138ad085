import SceneAudit.Proofs.Finding.ReadBack
import SceneAudit.Proofs.Run.Course
import SceneAudit.Proofs.Run.Outcome

/-!
# The rows of the report

The summary counts the findings in memory, and the report lists them as text.  Both say the
same (`report_agrees`): read as comma-separated rows, what a run has written into the report
has as many rows as the summary counts, of each category and in all, in order and each on a
sidecar of its own that was found and could be read.

This holds whatever the oracle does when it is asked.  Findings are made one by one from
sidecars (`exists_run_crossReference`), and these are found in ascending order, so no two
findings are on one sidecar, and of two that are sorted the first stands before the second in
the order of the report (`pairwise_precedes_sort`).
-/

namespace SceneAudit

open Restricted

/-! ## Rows -/

namespace ReportRow

/-- The categories in the order of the report. -/
def categories : List String :=
  ["never_instantiated", "no_exposed_state", "inconclusive"]

/-- The path of the sidecar. -/
def metaPath (row : List String) : Path :=
  ⟨row.getD 1 ""⟩

def category (row : List String) : String :=
  row.getD 2 ""

/-- The first row is of an earlier category, or of the same and on an earlier sidecar. -/
def Precedes (first second : List String) : Prop :=
  categories.idxOf (category first) < categories.idxOf (category second) ∨
    category first = category second ∧ compare (metaPath first) (metaPath second) = .lt

end ReportRow

/-- The rows are those of the findings that the summary counts. -/
structure RunSummary.AgreesWith (summary : RunSummary) (sidecars : List Path) (rows : List (List String)) :
    Prop where
  fields : ∀ row ∈ rows, row.length = 4
  total : rows.length = summary.findings.total
  neverInstantiated : rows.countP (ReportRow.category · = "never_instantiated") =
    summary.findings.neverInstantiated
  noExposedState : rows.countP (ReportRow.category · = "no_exposed_state") =
    summary.findings.noExposedState
  inconclusive : rows.countP (ReportRow.category · = "inconclusive") = summary.findings.inconclusive
  ordered : rows.Pairwise ReportRow.Precedes
  /-- No two rows are on one sidecar, however its path is written. -/
  apart : rows.Pairwise fun first second =>
    compare (ReportRow.metaPath first) (ReportRow.metaPath second) ≠ .eq
  found : ∀ row ∈ rows, ReportRow.metaPath row ∈ sidecars ∧
    ReportRow.metaPath row ∉ summary.sidecarFailures.map TaskFailure.path

/-! ## Findings and their rows -/

namespace Finding

variable (finding : Finding)

theorem metaPath_columns : ReportRow.metaPath finding.columns = finding.metaPath := rfl

theorem category_columns : ReportRow.category finding.columns = finding.verdict.category := rfl

theorem idxOf_category (verdict : Verdict) :
    ReportRow.categories.idxOf verdict.category = verdict.rank := by
  cases verdict with
  | neverInstantiated => decide
  | noExposedState => decide
  | inconclusive reason => exact (by decide : ReportRow.categories.idxOf "inconclusive" = 2)

theorem category_eq_iff {first second : Verdict} :
    first.category = second.category ↔ first.rank = second.rank := by
  cases first <;> cases second <;> simp [Verdict.category, Verdict.rank]

instance : Std.TransCmp Finding.compare :=
  inferInstanceAs (Std.TransCmp
    (compareLex (compareOn fun finding => finding.verdict.rank) (compareOn Finding.metaPath)))

end Finding

theorem FindingCounts.total_tally (findings : List Finding) :
    (tally findings).total = findings.length := by
  induction findings with
  | nil => rfl
  | cons finding findings ih =>
      have hrank : finding.verdict.rank = 0 ∨ finding.verdict.rank = 1 ∨ finding.verdict.rank = 2 := by
        cases finding.verdict <;> simp [Verdict.rank]
      simp only [total, tally, List.countP_cons, List.length_cons] at ih ⊢
      rcases hrank with hrank | hrank | hrank <;> simp only [hrank] <;> simp <;> omega

/-! ## Findings on sidecars apart -/

namespace Sidecar

theorem metaPath_of_standing {registry : FrozenRegistry} {sidecar : Sidecar} {finding : Finding}
    (h : sidecar.standing registry = .reported finding) : finding.metaPath = sidecar.path := by
  unfold standing at h
  split at h
  · split at h
    · rw [← Standing.reported.inj h]
    · split at h
      · exact absurd h (by simp)
      · rw [← Standing.reported.inj h]
  · exact absurd h (by simp)

theorem metaPath_of_mem_findingOfAnswer {sidecar : Sidecar} {guid : Guid} {answer : OracleAnswer}
    {finding : Finding} (h : sidecar.findingOfAnswer guid answer = some finding) :
    finding.metaPath = sidecar.path := by
  rcases answer with error | (_ | _)
  · rw [← Option.some.inj h]
  · rw [← Option.some.inj h]
  · exact absurd h (by simp [findingOfAnswer])

end Sidecar

section Asking

variable {refusals : Refusals} {registry : FrozenRegistry}
  {oracle : Path → Restricted refusals OracleAnswer}

/-- A finding bears the path of its sidecar, whatever the oracle does. -/
theorem metaPath_of_run_classify {sidecar : Sidecar} {tree : FileTree} {finding : Finding}
    (h : ((sidecar.classify registry oracle : Restricted refusals _).run tree).1 = some finding) :
    finding.metaPath = sidecar.path := by
  unfold Sidecar.classify at h
  cases hstanding : sidecar.standing registry with
  | settled =>
      rw [hstanding] at h
      exact absurd h (by simp)
  | reported found =>
      rw [hstanding] at h
      rw [← Option.some.inj h]
      exact Sidecar.metaPath_of_standing hstanding
  | used guid =>
      rw [hstanding] at h
      exact Sidecar.metaPath_of_mem_findingOfAnswer h

/-- The findings are the sorted ones of some of the sidecars, one of each. -/
theorem exists_run_crossReference (sidecars : List Sidecar) (tree : FileTree) :
    ∃ findings, (findings.map Finding.metaPath).Sublist (sidecars.map Sidecar.path) ∧
      ((crossReference registry oracle sidecars : Restricted refusals _).run tree).1 =
        Finding.sort findings :=
  ⟨_, sublist_run_filterMapM (fun _ _ _ => metaPath_of_run_classify) sidecars tree, rfl⟩

end Asking

/-- Of two findings that are in order and on sidecars apart, the first precedes the second. -/
theorem precedes_of_isLE {first second : Finding} (hle : (first.compare second).isLE)
    (hapart : compare first.metaPath second.metaPath ≠ .eq) :
    ReportRow.Precedes first.columns second.columns := by
  unfold Finding.compare at hle
  cases hrank : compare first.verdict.rank second.verdict.rank with
  | lt =>
      refine .inl ?_
      rw [Finding.category_columns, Finding.category_columns, Finding.idxOf_category,
        Finding.idxOf_category]
      exact Nat.compare_eq_lt.mp hrank
  | eq =>
      refine .inr ⟨Finding.category_eq_iff.mpr (Nat.compare_eq_eq.mp hrank), ?_⟩
      rw [hrank, Ordering.eq_then] at hle
      cases hpath : compare first.metaPath second.metaPath with
      | lt => rw [Finding.metaPath_columns, Finding.metaPath_columns, hpath]
      | eq => exact absurd hpath hapart
      | gt => simp [hpath] at hle
  | gt => simp [hrank, Ordering.then] at hle

theorem pairwise_apart_sort {findings : List Finding}
    (hascending : Ascending (findings.map Finding.metaPath)) :
    (Finding.sort findings).Pairwise fun first second =>
      compare first.metaPath second.metaPath ≠ .eq := by
  have hapart : findings.Pairwise fun first second => compare first.metaPath second.metaPath ≠ .eq :=
    (List.pairwise_map.mp hascending).imp fun hlt => by simp [hlt]
  refine hapart.perm (List.mergeSort_perm _ _).symm fun hne heq => ?_
  exact hne (Std.OrientedCmp.eq_symm heq)

theorem pairwise_precedes_sort {findings : List Finding}
    (hascending : Ascending (findings.map Finding.metaPath)) :
    (Finding.sort findings).Pairwise fun first second =>
      ReportRow.Precedes first.columns second.columns :=
  ((@pairwise_isLE_mergeSort Finding Finding.compare _ findings).and
    (pairwise_apart_sort hascending)).imp fun h => precedes_of_isLE h.1 h.2

/-! ## Agreement -/

theorem countP_category (verdict : Verdict) (findings : List Finding) :
    (findings.map Finding.columns).countP (ReportRow.category · = verdict.category) =
      findings.countP fun finding => finding.verdict.rank = verdict.rank := by
  rw [List.countP_map]
  apply List.countP_congr
  intro finding _
  simp only [Function.comp_apply, Finding.category_columns, decide_eq_true_eq,
    Finding.category_eq_iff]

/-- The rows of findings, one on each of some sidecars that did not fail, agree with a summary
that counts these findings. -/
theorem agreesWith_columns {summary : RunSummary} {sidecars : List Path} {findings : List Finding}
    (hascending : Ascending sidecars)
    (hread : (findings.map Finding.metaPath).Sublist
      (sidecars.filter fun sidecar => sidecar ∉ summary.sidecarFailures.map TaskFailure.path))
    (hcounted : summary.findings = .tally (Finding.sort findings)) :
    summary.AgreesWith sidecars ((Finding.sort findings).map Finding.columns) := by
  have hfound : Ascending (findings.map Finding.metaPath) :=
    hascending.sublist (hread.trans List.filter_sublist)
  refine ⟨?_, ?_, ?_, ?_, ?_, ?_, ?_, ?_⟩
  · exact List.forall_mem_map.mpr fun _ _ => rfl
  · rw [hcounted, FindingCounts.total_tally, List.length_map]
  · rw [hcounted]
    exact countP_category .neverInstantiated _
  · rw [hcounted]
    exact countP_category .noExposedState _
  · rw [hcounted]
    exact countP_category (.inconclusive "") _
  · exact List.pairwise_map.mpr (pairwise_precedes_sort hfound)
  · exact List.pairwise_map.mpr (pairwise_apart_sort hfound)
  · refine List.forall_mem_map.mpr fun finding hfinding => ?_
    have hmem := hread.subset (List.mem_map_of_mem ((List.mergeSort_perm _ _).mem_iff.mp hfinding))
    simpa [Finding.metaPath_columns] using hmem

namespace Refusals

variable {refusals : Refusals}

/-- The sidecars that were read are those that are not listed as failures. -/
theorem map_path_achieved_sidecarOutcomes (tree : FileTree) (sidecars : List Path) :
    (Run.achieved (refusals.sidecarOutcomes tree sidecars)).map Sidecar.path =
      sidecars.filter fun sidecar => sidecar ∉
        (Run.failed Sidecar.unreadable (refusals.sidecarOutcomes tree sidecars)).map TaskFailure.path := by
  have hkey : ∀ path sidecar,
      (refusals.readText tree path).map (Sidecar.ofText path) = .ok sidecar → sidecar.path = path := by
    intro path sidecar h
    cases hread : refusals.readText tree path with
    | error error => simp [hread, Except.map] at h
    | ok text =>
        simp only [hread, Except.map, Except.ok.injEq] at h
        rw [← h, Sidecar.path_ofText]
  rw [sidecarOutcomes, Run.map_achieved hkey, Run.map_path_failed]
  refine List.filter_congr fun path hpath => ?_
  simp [hpath]

end Refusals

section

variable {refusals : Refusals} {config : Config} {oracle : Path → Restricted refusals OracleAnswer}
  {tree final : FileTree} {summary : RunSummary}

/-- What a run has found when it comes to write its report, and the tree then: the scenes have
been dealt with, the sidecars have been read and the oracle has been asked. -/
def Config.beforeReport (config : Config) (refusals : Refusals)
    (oracle : Path → Restricted refusals OracleAnswer) (tree : FileTree) : List Finding × FileTree :=
  Restricted.run (do
    let progress ← Run.scenePhase config (config.scenesIn (config.prepared refusals tree))
    let outcomes ← Run.sidecarPhase (config.sidecarsIn (config.prepared refusals tree))
    crossReference progress.registry.freeze oracle (Run.achieved outcomes))
      (config.prepared refusals tree)

theorem beforeReport_eq :
    config.beforeReport refusals oracle tree =
      let dealt := refusals.scenesDealt config (config.scenesIn (config.prepared refusals tree))
        (config.prepared refusals tree)
      (crossReference dealt.1.registry.freeze oracle
        (Run.achieved (refusals.sidecarOutcomes dealt.2
          (config.sidecarsIn (config.prepared refusals tree)))) : Restricted refusals _).run dealt.2 := by
  unfold Config.beforeReport
  rw [run_bind, run_scenePhase, run_bind, run_sidecarPhase]

/-- What a run has found are the sorted findings on some of the sidecars that it could read. -/
theorem exists_sort_eq_beforeReport (config : Config)
    (oracle : Path → Restricted refusals OracleAnswer) (tree : FileTree) :
    ∃ findings, (findings.map Finding.metaPath).Sublist
        ((config.sidecarsIn (config.prepared refusals tree)).filter fun sidecar =>
          sidecar ∉ (Run.failed Sidecar.unreadable (refusals.sidecarOutcomes (config.withDumps refusals tree)
            (config.sidecarsIn (config.prepared refusals tree)))).map TaskFailure.path) ∧
      (config.beforeReport refusals oracle tree).1 = Finding.sort findings := by
  rw [beforeReport_eq, ← Refusals.map_path_achieved_sidecarOutcomes]
  exact exists_run_crossReference _ _

/-- The report that a run comes to write still holds what it held before the scenes were dealt
with, unless a dump was put in its place. -/
theorem read_beforeReport_eq_ok_iff (judge : Path → Except DiskError String → OracleAnswer)
    (hapart : ∀ dump ∈ config.dumpsIn (config.prepared refusals tree),
      ¬ (config.prepared refusals tree).SamePlace dump config.reportPath) (contents : ByteArray) :
    (config.beforeReport refusals (Oracle.reading judge) tree).2.read config.reportPath =
        .ok contents ↔
      (config.prepared refusals tree).read config.reportPath = .ok contents := by
  have hkept := Config.keptExcept_scenesDealt config refusals (config.prepared refusals tree)
  have hsame : ∀ place, (config.prepared refusals tree).locate config.reportPath = .ok place →
      (config.withDumps refusals tree).read config.reportPath =
        (config.prepared refusals tree).read config.reportPath :=
    fun place hlocate => FileTree.read_congr (hkept.find_eq hlocate hapart)
  rw [beforeReport_eq, run_crossReference]
  constructor
  · intro hread
    obtain ⟨place, entry, hfind⟩ := FileTree.exists_find_of_read hread
    have hlocate := hkept.directories.locate_eq_ok_iff.mp (FileTree.find_eq_ok_iff.mp hfind).1
    exact (hsame place hlocate).symm.trans hread
  · intro hread
    obtain ⟨place, entry, hfind⟩ := FileTree.exists_find_of_read hread
    exact (hsame place (FileTree.find_eq_ok_iff.mp hfind).1).trans hread

/-- **Summary and report agree.**  Where a run gives a summary, the report holds what its mode
kept of it and behind that a text of comma-separated rows, and these rows are those that the
summary counts, whatever the oracle does. -/
theorem report_agrees (hwf : tree.WellFormed)
    (hrun : (audit config oracle : Restricted refusals _).run tree = (.ok summary, final)) :
    ∃ (written : String) (rows : List (List String)),
      final.read config.reportPath =
          .ok (Refusals.kept (Run.truncates config.reportMode)
            ((config.beforeReport refusals oracle tree).2.read config.reportPath) ++ written.toUTF8) ∧
        (∀ other, Csv.IsText written.toList other ↔ other = rows) ∧
          summary.AgreesWith (config.sidecarsIn (config.prepared refusals tree)) rows := by
  obtain ⟨findings, hread, hfound⟩ := exists_sort_eq_beforeReport config oracle tree
  rw [run_audit_asking (prepared_of_run_audit hrun)] at hrun
  obtain ⟨rfl, -, hlisted⟩ := Refusals.of_reported_eq_ok hrun
  rw [← beforeReport_eq, hfound] at hlisted
  refine ⟨_, _, hlisted, fun other => Csv.isText_encode_iff ?_, ?_⟩
  · exact List.forall_mem_map.mpr fun _ _ => List.cons_ne_nil _ _
  · refine agreesWith_columns ?_ hread ?_
    · exact FileTree.ascending_discovered (Config.wellFormed_prepared config refusals hwf) _ _ _
    · rw [← hfound, beforeReport_eq]
      rfl

end

namespace BrokenScene

theorem report_agrees_project :
    project.WellFormed ∧ ∃ summary final,
      (audit config (Oracle.reading Oracle.judgeOutline) : Restricted .nothing _).run project =
          (.ok summary, final) ∧
        ∃ (written : String) (rows : List (List String)),
          (∀ other, Csv.IsText written.toList other ↔ other = rows) ∧
            summary.AgreesWith (config.sidecarsIn project) rows := by
  have hlaid := isLaidOut_project
  obtain ⟨summary, final, hrun⟩ := hlaid.exists_summary .nothing Oracle.judgeOutline rfl fun _ => rfl
  obtain ⟨written, rows, -, hrows, hagrees⟩ := report_agrees hlaid.wellFormed hrun
  rw [hlaid.prepared_eq] at hagrees
  exact ⟨hlaid.wellFormed, summary, final, hrun, written, rows, hrows, hagrees⟩

end BrokenScene

end SceneAudit
