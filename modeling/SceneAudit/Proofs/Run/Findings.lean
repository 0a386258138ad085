import SceneAudit.Proofs.Run.Course

/-!
# Findings and dumps

The findings of a run are those on the texts that could be read when the run began
(`Config.findingsOnTexts`).  The scripts of a scene are registered before its dump is
written, so a dump that cannot be written takes nothing from the findings, and a scene
that is no text adds nothing to them.
-/

namespace SceneAudit

open Restricted

section

variable {refusals other : Refusals} {config : Config}
  {judge : Path → Except DiskError String → OracleAnswer} {tree otherTree final otherFinal : FileTree}

/-- The findings on the scenes and sidecars of a tree that are text. -/
def Config.findingsOnTexts (config : Config) (judge : Path → Except DiskError String → OracleAnswer)
    (refusals : Refusals) (tree : FileTree) : List Finding :=
  findingsOn (refusals.readable tree (config.scenesIn tree))
    (fun path => judge path (refusals.readText tree path))
    (refusals.readable tree (config.sidecarsIn tree))

/-- What two runs find and read is the same; they may differ in what can be written. -/
structure Config.SameInputs (config : Config) (refusals : Refusals) (tree : FileTree) (other : Refusals)
    (otherTree : FileTree) : Prop where
  scenes : config.scenesIn otherTree = config.scenesIn tree
  sidecars : config.sidecarsIn otherTree = config.sidecarsIn tree
  read : ∀ input ∈ config.inputsIn refusals tree, other.read otherTree input = refusals.read tree input

/-! ## Findings on the same texts -/

theorem readable_congr {paths : List Path}
    (h : ∀ path ∈ paths, other.read otherTree path = refusals.read tree path) :
    other.readable otherTree paths = refusals.readable tree paths := by
  apply List.filterMap_congr
  intro path hpath
  rw [Refusals.readText, Refusals.readText, h path hpath]

theorem findingsOnTexts_congr (h : config.SameInputs refusals tree other otherTree) :
    config.findingsOnTexts judge other otherTree = config.findingsOnTexts judge refusals tree := by
  unfold Config.findingsOnTexts
  rw [h.scenes, h.sidecars,
    readable_congr fun path hpath => h.read path (Config.mem_inputsIn_of_mem_scenesIn hpath),
    readable_congr fun path hpath => h.read path (Config.mem_inputsIn_of_mem_sidecarsIn hpath)]
  unfold findingsOn
  apply crossReference_congr (fun _ => rfl)
  intro sidecar hsidecar hasset
  have hsource := h.read _ (Config.sourcePath_mem_inputsIn hsidecar hasset)
  rw [Refusals.readText, Refusals.readText, hsource]

/-! ## The findings of a run -/

/-- The scripts of the scenes that are text, and sidecars and sources that read as before,
give the findings on the texts. -/
theorem findingsWith_of_read {registry : Registry} (judge : Path → Except DiskError String → OracleAnswer)
    (hregistry : registry = Registry.ofScenes (refusals.readable tree (config.scenesIn tree)))
    (hread : ∀ input ∈ config.inputsIn refusals tree,
      refusals.read otherTree input = refusals.read tree input) :
    refusals.findingsWith judge registry (refusals.sidecarOutcomes otherTree (config.sidecarsIn tree))
        otherTree =
      config.findingsOnTexts judge refusals tree := by
  unfold Refusals.findingsWith Config.findingsOnTexts findingsOn
  have hsidecars := refusals.sidecarOutcomes_congr fun path hpath =>
    hread path (Config.mem_inputsIn_of_mem_sidecarsIn hpath)
  rw [hregistry, hsidecars, refusals.achieved_sidecarOutcomes]
  apply crossReference_congr (fun _ => rfl)
  intro sidecar hsidecar hasset
  have hsource := Config.sourcePath_mem_inputsIn hsidecar hasset
  rw [refusals.readText_congr (hread _ hsource)]

/-- The registry and the files that the scenes leave behind give the findings on the texts
that were there before. -/
theorem findingsWith_scenesDealt (judge : Path → Except DiskError String → OracleAnswer) (hwf : tree.WellFormed)
    (hapart : tree.Apart (config.dumpsIn tree) (config.inputsIn refusals tree)) :
    refusals.findingsWith judge (refusals.scenesDealt config (config.scenesIn tree) tree).1.registry
        (refusals.sidecarOutcomes (refusals.scenesDealt config (config.scenesIn tree) tree).2
          (config.sidecarsIn tree))
        (refusals.scenesDealt config (config.scenesIn tree) tree).2 =
      config.findingsOnTexts judge refusals tree := by
  have hread : ∀ input ∈ config.inputsIn refusals tree, ∀ later,
      tree.KeptExcept (config.dumpsIn tree) later →
        refusals.read later input = refusals.read tree input := by
    intro input hinput later hkept
    obtain ⟨place, hlocate⟩ := Config.exists_locate_of_mem_inputsIn hwf hinput
    exact Refusals.read_eq_of_keptExcept hapart hkept hinput hlocate
  apply findingsWith_of_read
  · exact Refusals.registry_foldl_sceneStep (fun scene hscene => List.mem_map_of_mem hscene)
      (fun scene hscene => hread scene (Config.mem_inputsIn_of_mem_scenesIn hscene)) (.refl tree _)
  · intro input hinput
    exact hread input hinput _ (Config.keptExcept_scenesDealt config refusals tree)

/-- The summary counts the findings, and the report lists them behind what its mode kept. -/
structure Config.Accounts (config : Config) (findings : List Finding) (before : FileTree)
    (summary : RunSummary) (final : FileTree) : Prop where
  counted : summary.findings = .tally findings
  listed : final.read config.reportPath =
    .ok (Refusals.kept (Run.truncates config.reportMode) (before.read config.reportPath) ++
      (reportText findings).toUTF8)

theorem accounts_of_run_audit {summary : RunSummary} (hwf : tree.WellFormed)
    (hspares : config.Spares (config.inputsIn refusals) refusals tree)
    (hrun : (audit config (Oracle.reading judge) : Restricted refusals _).run tree =
      (.ok summary, final)) :
    config.Accounts (config.findingsOnTexts judge refusals (config.prepared refusals tree))
      (config.withDumps refusals tree) summary final := by
  have hprepared := prepared_of_run_audit hrun
  have hfindings := findingsWith_scenesDealt judge (Config.wellFormed_prepared config refusals hwf) hspares
  rw [run_audit_of_prepared hprepared] at hrun
  simp only [hfindings] at hrun
  obtain ⟨rfl, -, hlisted⟩ := Refusals.of_reported_eq_ok hrun
  exact ⟨rfl, hlisted⟩

/-- **Findings do not depend on what can be written.**  A run counts and reports the
findings on the scenes and sidecars that are text, dumped or not; so does a run in any
other state in which the same is found and read. -/
theorem findings_of_texts {summary : RunSummary} (hwf : tree.WellFormed)
    (hspares : config.Spares (config.inputsIn refusals) refusals tree)
    (hrun : (audit config (Oracle.reading judge) : Restricted refusals _).run tree =
      (.ok summary, final)) :
    config.Accounts (config.findingsOnTexts judge refusals (config.prepared refusals tree))
        (config.withDumps refusals tree) summary final ∧
      ∀ (other : Refusals) (otherTree otherFinal : FileTree) (otherSummary : RunSummary),
        otherTree.WellFormed → config.Spares (config.inputsIn other) other otherTree →
        (audit config (Oracle.reading judge) : Restricted other _).run otherTree =
          (.ok otherSummary, otherFinal) →
        config.SameInputs refusals (config.prepared refusals tree) other
          (config.prepared other otherTree) →
        config.Accounts (config.findingsOnTexts judge refusals (config.prepared refusals tree))
          (config.withDumps other otherTree) otherSummary otherFinal := by
  refine ⟨accounts_of_run_audit hwf hspares hrun, ?_⟩
  intro other otherTree otherFinal otherSummary hwf' hspares' hrun' hsame
  rw [← findingsOnTexts_congr hsame]
  exact accounts_of_run_audit hwf' hspares' hrun'

end

namespace BrokenScene

theorem findings_though_refused :
    project.WellFormed ∧ config.Spares (config.inputsIn .nothing) .nothing project ∧
      ∃ summary final otherSummary otherFinal,
        (audit config (Oracle.reading Oracle.judgeOutline) : Restricted .nothing _).run project =
            (.ok summary, final) ∧
          (audit config (Oracle.reading Oracle.judgeOutline) : Restricted (hallRefused .permissionDenied) _).run project =
              (.ok otherSummary, otherFinal) ∧
            config.SameInputs .nothing (config.prepared .nothing project) (hallRefused .permissionDenied)
                (config.prepared (hallRefused .permissionDenied) project) ∧
              otherSummary.findings = summary.findings := by
  have hlaid := isLaidOut_project
  have hsame : config.SameInputs .nothing (config.prepared .nothing project) (hallRefused .permissionDenied)
      (config.prepared (hallRefused .permissionDenied) project) := by
    rw [hlaid.prepared_eq, hlaid.prepared_eq]
    exact ⟨rfl, rfl, fun _ _ => rfl⟩
  obtain ⟨summary, final, hrun⟩ := hlaid.exists_summary .nothing Oracle.judgeOutline rfl fun _ => rfl
  obtain ⟨otherSummary, otherFinal, hrunOther⟩ :=
    hlaid.exists_summary (hallRefused .permissionDenied) Oracle.judgeOutline (by decide) fun _ => rfl
  obtain ⟨haccounts, hothers⟩ := findings_of_texts hlaid.wellFormed (hlaid.spares .nothing) hrun
  have haccountsOther := hothers (hallRefused .permissionDenied) project otherFinal otherSummary hlaid.wellFormed
    (hlaid.spares _) hrunOther hsame
  exact ⟨hlaid.wellFormed, hlaid.spares .nothing, summary, final, otherSummary, otherFinal, hrun, hrunOther,
    hsame, haccountsOther.counted.trans haccounts.counted.symm⟩

end BrokenScene

end SceneAudit
