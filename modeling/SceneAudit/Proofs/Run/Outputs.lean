import SceneAudit.Proofs.Run.Isolation

/-!
# What a run writes

A run touches nothing but its outputs (`audit_touchesOutputs`), whether it gives a
summary or stops: the output directory and those around it, as far as they were missing,
the dumps of the scenes that were read, and the report.  A scene that could not be read,
or is no text, has its task end before anything is written, so an earlier dump of it
stays — as long as its path does not lead where another output goes.  A report that is
named like a dump does go there (`not_survives`).

The dumps are counted along the scenes: `dumpsOf` lists those of the scenes read so far,
and one scene more changes at most its own (`keptExcept_sceneStep_dumpsOf`).
-/

namespace SceneAudit

open Restricted
open FileTree (KeptExcept MadeAround)

/-! ## Scenes that were read -/

/-- Whether the scene was read as text, whatever became of its dump. -/
def Run.wasRead : Except SceneError SceneSummary → Bool
  | .error (.unreadable ..) => false
  | .error (.notText ..) => false
  | _ => true

namespace Config

variable (config : Config)

/-- The dumps of the scenes that were read. -/
def dumpsOf (outcomes : List (Path × Except SceneError SceneSummary)) : List Path :=
  (outcomes.filter fun outcome => Run.wasRead outcome.2).map fun outcome => config.dumpPath outcome.1

/-- The scenes that a run finds once the output directory is there, in order, and what
becomes of each. -/
def sceneOutcomes (refusals : Refusals) (tree : FileTree) :
    List (Path × Except SceneError SceneSummary) :=
  ((Run.scenePhase config (config.scenesIn (config.prepared refusals tree)) :
    Restricted refusals _).run (config.prepared refusals tree)).1.reversedOutcomes.reverse

variable {config}

theorem dumpsOf_cons_of_read {scene : Path} {outcome : Except SceneError SceneSummary}
    {outcomes : List (Path × Except SceneError SceneSummary)} (hread : Run.wasRead outcome = true) :
    config.dumpsOf ((scene, outcome) :: outcomes) = config.dumpPath scene :: config.dumpsOf outcomes := by
  rw [dumpsOf, List.filter_cons_of_pos (by exact hread), List.map_cons]
  rfl

theorem dumpsOf_cons_of_not_read {scene : Path} {outcome : Except SceneError SceneSummary}
    {outcomes : List (Path × Except SceneError SceneSummary)} (hread : ¬ Run.wasRead outcome = true) :
    config.dumpsOf ((scene, outcome) :: outcomes) = config.dumpsOf outcomes := by
  rw [dumpsOf, List.filter_cons_of_neg (by exact hread)]
  rfl

theorem mem_dumpsOf_iff {dump : Path} {outcomes : List (Path × Except SceneError SceneSummary)} :
    dump ∈ config.dumpsOf outcomes ↔
      ∃ scene outcome, (scene, outcome) ∈ outcomes ∧ Run.wasRead outcome = true ∧
        config.dumpPath scene = dump := by
  simp only [dumpsOf, List.mem_map, List.mem_filter, Prod.exists, and_assoc]

end Config

namespace Refusals

variable {refusals : Refusals} {config : Config} {tree : FileTree} {state : Run.SceneProgress × FileTree}

theorem wasRead_dealt_iff (refusals : Refusals) (config : Config) (scene : Path) (tree : FileTree) :
    Run.wasRead (refusals.dealt config scene tree).1 = true ↔
      ∃ document, refusals.sceneText tree scene = .ok document := by
  cases htext : refusals.sceneText tree scene with
  | error error =>
      have hunread : Run.wasRead (.error error) = false := by
        unfold sceneText at htext
        cases hread : refusals.read tree scene with
        | error cause =>
            rw [hread] at htext
            rw [← Except.error.inj htext]
            rfl
        | ok bytes =>
            rw [hread] at htext
            cases hdecode : Text.decode bytes with
            | error offset =>
                simp only [hdecode, Except.mapError, Except.error.injEq] at htext
                rw [← htext]
                rfl
            | ok document => simp [hdecode, Except.mapError] at htext
      simp [dealt_of_error config htext, hunread]
  | ok document =>
      by_cases hcan : config.CanDump refusals tree scene document
      · simp [(dealt_of_canDump htext hcan).1, Run.wasRead]
      · obtain ⟨⟨cause, hcause⟩, -⟩ := dealt_of_not_canDump htext hcan
        simp [hcause, Run.wasRead]

/-- One scene more changes at most its own dump, and that only if the scene was read. -/
theorem keptExcept_sceneStep_dumpsOf (refusals : Refusals) (scene : Path)
    (hkept : tree.KeptExcept (config.dumpsOf state.1.reversedOutcomes) state.2) :
    tree.KeptExcept (config.dumpsOf (refusals.sceneStep config state scene).1.reversedOutcomes)
      (refusals.sceneStep config state scene).2 := by
  unfold sceneStep
  by_cases hread : Run.wasRead (refusals.dealt config scene state.2).1 = true
  · rw [Config.dumpsOf_cons_of_read hread]
    refine (hkept.mono fun _ => List.mem_cons_of_mem _).trans
      (refusals.keptExcept_dealt config scene state.2) fun dump hdump => ?_
    rw [List.mem_singleton.mp hdump]
    exact List.mem_cons_self
  · rw [Config.dumpsOf_cons_of_not_read hread]
    cases htext : refusals.sceneText state.2 scene with
    | ok document => exact absurd ((wasRead_dealt_iff _ _ _ _).mpr ⟨document, htext⟩) hread
    | error error =>
        rw [dealt_of_error config htext]
        exact hkept

theorem keptExcept_foldl_dumpsOf (refusals : Refusals) (scenes : List Path)
    (hkept : tree.KeptExcept (config.dumpsOf state.1.reversedOutcomes) state.2) :
    tree.KeptExcept
      (config.dumpsOf (scenes.foldl (refusals.sceneStep config) state).1.reversedOutcomes)
      (scenes.foldl (refusals.sceneStep config) state).2 := by
  induction scenes generalizing state with
  | nil => exact hkept
  | cons scene scenes ih => exact ih (refusals.keptExcept_sceneStep_dumpsOf scene hkept)

end Refusals

/-! ## The outputs of a run -/

/-- What could be read at the path still can be, and no file is new in its place. -/
structure FileTree.KeptAt (before : FileTree) (path : Path) (after : FileTree) : Prop where
  entry?_eq_or : ∀ place, after.locateFile path = .ok place →
    after.entry? place = before.entry? place ∨ before.entry? place = none ∧ after.IsDirectory place
  read_eq_ok : ∀ contents, before.read path = .ok contents → after.read path = .ok contents

theorem FileTree.MadeAround.keptAt {around : Path} {before after : FileTree}
    (h : MadeAround around before after) (path : Path) : before.KeptAt path after where
  entry?_eq_or place _ := (h.entry?_eq_or place).imp_right
    fun ⟨habsent, _, _, hinto⟩ => ⟨habsent, hinto.directory⟩
  read_eq_ok _ := h.read_eq_ok

namespace Config

variable (config : Config) (refusals : Refusals) (tree : FileTree)

/-- The files that a run may write: the report and the dumps of the scenes that it reads. -/
def outputsIn : List Path :=
  config.reportPath :: config.dumpsOf (config.sceneOutcomes refusals tree)

/-- What may be new at a place after a run. -/
inductive IsOutput (final : FileTree) (place : Place) : Prop where
  /-- The output directory, or one around it, where there was nothing. -/
  | directory {outer : Path} (hencloses : outer.Encloses config.outputDir)
      (habsent : tree.entry? place = none) (hinto : final.LeadsInto outer place)
  | file {path : Path} (hpath : path ∈ config.outputsIn refusals tree)
      (hlocated : final.locateFile path = .ok place)

/-- What a run does to the tree, whatever its outcome. -/
structure TouchesOutputs (outcome : Except RunError RunSummary) (final : FileTree) : Prop where
  entry?_eq_or : ∀ place,
    final.entry? place = tree.entry? place ∨ config.IsOutput refusals tree final place
  kept : ∀ path, (∀ output ∈ config.outputsIn refusals tree, ¬ final.SamePlace output path) →
    tree.KeptAt path final
  /-- As dumps are named, only the report can come in place of the dump of a scene that could
  not be read. -/
  earlierDump : tree.WellFormed → '/' ∉ config.dumpExtension.toList →
    ∀ scene outcome, (scene, outcome) ∈ config.sceneOutcomes refusals tree →
      Run.wasRead outcome = false →
        ¬ final.SamePlace config.reportPath (config.dumpPath scene) →
          tree.KeptAt (config.dumpPath scene) final
  /-- Without the output directory no file is written. -/
  notMade : ∀ cause,
    ((Disk.createDirectories config.outputDir : Restricted refusals _).run tree).1 = .error cause →
      outcome = .error (.disk config.outputDir cause) ∧ MadeAround config.outputDir tree final

end Config

section

variable {config : Config} {refusals : Refusals} {judge : Path → Except DiskError String → OracleAnswer}
  {tree final : FileTree}

theorem Config.madeAround_prepared (config : Config) (refusals : Refusals) (tree : FileTree) :
    MadeAround config.outputDir tree (config.prepared refusals tree) :=
  madeAround_run_createDirectories config.outputDir tree

theorem keptExcept_outputsIn (judge : Path → Except DiskError String → OracleAnswer)
    (h : (Disk.createDirectories config.outputDir : Restricted refusals _).run tree =
      (.ok (), config.prepared refusals tree)) :
    (config.prepared refusals tree).KeptExcept (config.outputsIn refusals tree)
      ((audit config (Oracle.reading judge) : Restricted refusals _).run tree).2 := by
  have hdumps : (config.prepared refusals tree).KeptExcept _
      (refusals.scenesDealt config (config.scenesIn (config.prepared refusals tree))
        (config.prepared refusals tree)).2 :=
    refusals.keptExcept_foldl_dumpsOf _ (.refl _ _)
  rw [run_audit_of_prepared h]
  refine (hdumps.mono fun dump hdump => ?_).trans (refusals.keptExcept_rewritten _ _ _ _) fun path hpath => ?_
  · obtain ⟨scene, outcome, hmem, hread, rfl⟩ := Config.mem_dumpsOf_iff.mp hdump
    refine List.mem_cons_of_mem _ (Config.mem_dumpsOf_iff.mpr ⟨scene, outcome, ?_, hread, rfl⟩)
    rw [Config.sceneOutcomes, run_scenePhase, List.mem_reverse]
    exact hmem
  · rw [List.mem_singleton.mp hpath]
    exact List.mem_cons_self

/-- What is new after the output directory was made and files were written. -/
theorem entry?_eq_or_isOutput (hmade : MadeAround config.outputDir tree (config.prepared refusals tree))
    (hkept : (config.prepared refusals tree).KeptExcept (config.outputsIn refusals tree) final)
    (place : Place) :
    final.entry? place = tree.entry? place ∨ config.IsOutput refusals tree final place := by
  by_cases hwritten : ∃ path ∈ config.outputsIn refusals tree,
      (config.prepared refusals tree).locateFile path = .ok place
  · obtain ⟨path, hpath, hlocated⟩ := hwritten
    exact .inr (.file hpath (hkept.directories.locateFile_eq_ok_iff.mpr hlocated))
  · push Not at hwritten
    rw [hkept.entry?_eq place hwritten]
    refine (hmade.entry?_eq_or place).imp_right fun ⟨habsent, outer, hencloses, hinto⟩ => ?_
    exact .directory hencloses habsent (hkept.directories.leadsInto hinto)

theorem keptAt_of_not_output (hmade : MadeAround config.outputDir tree (config.prepared refusals tree))
    (hkept : (config.prepared refusals tree).KeptExcept (config.outputsIn refusals tree) final)
    {path : Path} (hapart : ∀ output ∈ config.outputsIn refusals tree, ¬ final.SamePlace output path) :
    tree.KeptAt path final where
  entry?_eq_or := by
    intro place hplace
    rcases entry?_eq_or_isOutput hmade hkept place with hsame | houtput
    · exact .inl hsame
    · cases houtput with
      | directory _ habsent hinto => exact .inr ⟨habsent, hinto.directory⟩
      | file houtput hlocated =>
          have hsame := FileTree.locate_of_locateFile hlocated
          exact absurd ⟨place, hsame, FileTree.locate_of_locateFile hplace⟩ (hapart _ houtput)
  read_eq_ok := by
    intro contents hread
    have hprepared := hmade.read_eq_ok hread
    obtain ⟨place, entry, hfind⟩ := FileTree.exists_find_of_read hprepared
    have hsame : final.find path = (config.prepared refusals tree).find path := by
      refine hkept.find_eq (FileTree.find_eq_ok_iff.mp hfind).1 fun output houtput hsame => ?_
      exact hapart output houtput (hkept.directories.samePlace_iff.mpr hsame)
    rw [FileTree.read_congr hsame, hprepared]

/-! ## Dumps of scenes that could not be read -/

theorem Refusals.map_fst_foldl_sceneStep (refusals : Refusals) (config : Config) (scenes : List Path)
    (state : Run.SceneProgress × FileTree) :
    (scenes.foldl (refusals.sceneStep config) state).1.reversedOutcomes.reverse.map Prod.fst =
      state.1.reversedOutcomes.reverse.map Prod.fst ++ scenes := by
  induction scenes generalizing state with
  | nil => rw [List.foldl_nil, List.append_nil]
  | cons scene scenes ih =>
      rw [List.foldl_cons, ih]
      simp [Refusals.sceneStep]

theorem Config.map_fst_sceneOutcomes (config : Config) (refusals : Refusals) (tree : FileTree) :
    (config.sceneOutcomes refusals tree).map Prod.fst =
      config.scenesIn (config.prepared refusals tree) := by
  rw [Config.sceneOutcomes, run_scenePhase, Refusals.scenesDealt, Refusals.map_fst_foldl_sceneStep]
  rfl

/-- No dump of a scene that was read goes where the one of another scene would go. -/
theorem not_samePlace_dumpsOf (hwf : tree.WellFormed) (hslash : '/' ∉ config.dumpExtension.toList)
    (h : (Disk.createDirectories config.outputDir : Restricted refusals _).run tree =
      (.ok (), config.prepared refusals tree))
    {scene : Path} {outcome : Except SceneError SceneSummary}
    (hscene : (scene, outcome) ∈ config.sceneOutcomes refusals tree)
    (hunread : Run.wasRead outcome = false) :
    ∀ dump ∈ config.dumpsOf (config.sceneOutcomes refusals tree),
      ¬ (config.prepared refusals tree).SamePlace dump (config.dumpPath scene) := by
  obtain ⟨outer, hinto⟩ := leadsInto_of_run_createDirectories hwf h
  have hown := Config.ownDumps (Config.wellFormed_prepared config refusals hwf) hinto hslash
  have hplaces : ((config.scenesIn (config.prepared refusals tree)).map fun scene =>
      config.dumpName scene :: outer).Nodup := List.pairwise_map.mpr hown.distinct
  have hnodup : ((config.sceneOutcomes refusals tree).map Prod.fst).Nodup := by
    rw [config.map_fst_sceneOutcomes]
    exact hplaces.of_map _
  have hfound : ∀ {found}, found ∈ config.sceneOutcomes refusals tree →
      found.1 ∈ config.scenesIn (config.prepared refusals tree) := by
    intro found hmem
    rw [← config.map_fst_sceneOutcomes]
    exact List.mem_map_of_mem hmem
  rintro dump hdump ⟨place, hother, hplace⟩
  obtain ⟨other, otherOutcome, hmem, hread, rfl⟩ := Config.mem_dumpsOf_iff.mp hdump
  have hfirst := FileTree.locate_of_locateFile (hown.located _ (hfound hmem))
  have hsecond := FileTree.locate_of_locateFile (hown.located _ (hfound hscene))
  rw [hfirst] at hother
  rw [hsecond] at hplace
  -- one place means one scene, and a scene has one outcome
  have hsame := List.inj_on_of_nodup_map hplaces (hfound hmem) (hfound hscene)
    (Except.ok.inj (hother.trans hplace.symm))
  have houtcome := List.inj_on_of_nodup_map hnodup hmem hscene hsame
  rw [(Prod.mk.inj houtcome).2, hunread] at hread
  exact Bool.noConfusion hread

/-! ## All of it -/

/-- **A run touches nothing but its outputs**, whether it gives a summary or stops.

What is new at a place is a directory that the run had to make or a file that it may write.
What is at the path of any other file stays, as does an earlier dump of a scene that could
not be read, unless the report goes there; and without the output directory no file is
written at all. -/
theorem audit_touchesOutputs (config : Config) (refusals : Refusals)
    (judge : Path → Except DiskError String → OracleAnswer) (tree : FileTree) :
    config.TouchesOutputs refusals tree
      ((audit config (Oracle.reading judge) : Restricted refusals _).run tree).1
      ((audit config (Oracle.reading judge) : Restricted refusals _).run tree).2 := by
  have hmade := config.madeAround_prepared refusals tree
  rcases hcreate : (Disk.createDirectories config.outputDir : Restricted refusals _).run tree with
    ⟨cause | _, after⟩
  · -- the run stops at once
    obtain rfl : config.prepared refusals tree = after := by rw [Config.prepared, hcreate]
    rw [run_audit_of_not_prepared hcreate]
    refine ⟨entry?_eq_or_isOutput hmade (.refl _ _), ?_, ?_, ?_⟩
    · exact fun path _ => hmade.keptAt path
    · exact fun _ _ scene _ _ _ _ => hmade.keptAt (config.dumpPath scene)
    · intro other hother
      rw [hcreate] at hother
      rw [Except.error.inj hother]
      exact ⟨rfl, hmade⟩
  · obtain rfl : config.prepared refusals tree = after := by rw [Config.prepared, hcreate]
    have hkept := keptExcept_outputsIn judge hcreate
    refine ⟨entry?_eq_or_isOutput hmade hkept, ?_, ?_, ?_⟩
    · exact fun path hapart => keptAt_of_not_output hmade hkept hapart
    · intro hwf hslash scene outcome hscene hunread hreport
      have hdumps := not_samePlace_dumpsOf hwf hslash hcreate hscene hunread
      refine keptAt_of_not_output hmade hkept (List.forall_mem_cons.mpr ⟨hreport, ?_⟩)
      exact fun dump hdump hsame => hdumps dump hdump (hkept.directories.samePlace_iff.mp hsame)
    · intro other hother
      rw [hcreate] at hother
      exact absurd hother (by simp)

end

/-! ## A report in place of a dump -/

/-- A report of any findings has a comma in it. -/
theorem comma_mem_reportText (finding : Finding) (findings : List Finding) :
    ',' ∈ (reportText (finding :: findings)).toList := by
  simp [reportText, Csv.encode, String.join_cons, Csv.encodeRow, Finding.columns]

namespace BrokenScene

/-- The report is to have the name of the dump of the scene that is no text. -/
def reportedOver : Config :=
  { config with reportFileName := "Broken.unity.dump" }

/-- What becomes of the scenes of the project with the dump. -/
theorem dealtAlone_projectWithDump :
    Refusals.nothing.DealtAlone reportedOver projectWithDump (reportedOver.scenesIn projectWithDump)
      (fun scene => reportedOver.dumpName scene :: ["out"]) (⟨.empty, []⟩, projectWithDump)
      (Refusals.nothing.scenesDealt reportedOver (reportedOver.scenesIn projectWithDump) projectWithDump) := by
  have hlaid := isLaidOut_projectWithDump
  have hapart : projectWithDump.Apart (config.dumpsIn projectWithDump)
      (config.scenesIn projectWithDump) := by
    intro path hpath input hinput
    have hspares := hlaid.spares .nothing
    rw [Config.Spares, hlaid.prepared_eq] at hspares
    exact hspares path hpath input (Config.mem_inputsIn_of_mem_scenesIn hinput)
  have hinto : projectWithDump.LeadsInto reportedOver.outputDir ["out"] := hlaid.leadsInto_output
  exact (Refusals.nothing.scenesDealt_alone hlaid.wellFormed hinto (by decide) hapart
    (List.Perm.refl _)).2.2

/-- The report is written over the dump, whatever it says. -/
theorem exists_read_brokenDump (judge : Path → Except DiskError String → OracleAnswer) :
    ∃ findings,
      ((audit reportedOver (Oracle.reading judge) : Restricted .nothing _).run projectWithDump).2.read
        (reportedOver.dumpPath broken) = .ok (reportText findings).toUTF8 := by
  have hlaid := isLaidOut_projectWithDump
  have hcreate : (Disk.createDirectories reportedOver.outputDir : Restricted .nothing _).run
      projectWithDump = (.ok (), projectWithDump) := hlaid.run_createDirectories
  have hbroken := hlaid.broken_mem_scenesIn broken_projectWithDump
  obtain ⟨error, htext⟩ := exists_sceneText_broken (hlaid.read_broken broken_projectWithDump)
  have hlocated : projectWithDump.locateFile reportedOver.reportPath =
      .ok ["Broken.unity.dump", "out"] := hlaid.locateFile_brokenDump
  -- the scenes leave the earlier dump there
  have hentry := dealtAlone_projectWithDump.dump broken hbroken
  rw [Refusals.dealt_of_error reportedOver htext] at hentry
  have hheld : FileTree.entry? _ ["Broken.unity.dump", "out"] = some (.file "Hall\n".toUTF8) :=
    hentry.trans brokenDump_projectWithDump
  have hkept := Config.keptExcept_scenesDealt reportedOver .nothing projectWithDump
  have hlocatedLater := hkept.directories.locateFile_eq_ok_iff.mpr hlocated
  have hpath : reportedOver.dumpPath broken = reportedOver.reportPath := by decide
  have hread := fun findings : List Finding => Refusals.read_of_rewritten
    (Refusals.nothing.rewritten_of_writable true (reportText findings).toUTF8 hlocatedLater
      (by simp [hheld]) (by simp [hheld]) rfl rfl)
  simp only [Refusals.kept, if_true, ByteArray.empty_append] at hread
  rw [run_audit_of_prepared hcreate, hpath]
  exact ⟨_, hread _⟩

/-- The earlier dump does not survive the report. -/
theorem not_survives :
    ¬ ∀ scene outcome, (scene, outcome) ∈ reportedOver.sceneOutcomes .nothing projectWithDump →
      Run.wasRead outcome = false →
        ∀ contents, projectWithDump.read (reportedOver.dumpPath scene) = .ok contents →
          ((audit reportedOver Oracle.ofDisk : Restricted .nothing _).run projectWithDump).2.read
            (reportedOver.dumpPath scene) = .ok contents := by
  intro hsurvives
  have hlaid := isLaidOut_projectWithDump
  have hbroken := hlaid.broken_mem_scenesIn broken_projectWithDump
  obtain ⟨error, htext⟩ := exists_sceneText_broken (hlaid.read_broken broken_projectWithDump)
  have houtcome : (broken, .error error) ∈ reportedOver.sceneOutcomes .nothing projectWithDump := by
    have hprepared : reportedOver.prepared .nothing projectWithDump = projectWithDump := hlaid.prepared_eq
    rw [Config.sceneOutcomes, run_scenePhase, hprepared, dealtAlone_projectWithDump.outcomes]
    refine List.mem_append_right _ (List.mem_map.mpr ⟨broken, hbroken, ?_⟩)
    rw [Refusals.dealt_of_error reportedOver htext]
  have hunread : Run.wasRead (.error error) = false := by
    have hdealt := Refusals.nothing.wasRead_dealt_iff reportedOver broken projectWithDump
    rw [Refusals.dealt_of_error reportedOver htext, htext] at hdealt
    simpa using hdealt
  have hearlier : projectWithDump.read (reportedOver.dumpPath broken) = .ok "Hall\n".toUTF8 :=
    (Refusals.read_of_located hlaid.locateFile_brokenDump).trans
      (congrArg Refusals.bytesOf brokenDump_projectWithDump)
  obtain ⟨findings, hreport⟩ := exists_read_brokenDump Oracle.judgeOutline
  have hlater := hsurvives broken _ houtcome hunread _ hearlier
  rw [Oracle.ofDisk_eq_reading, hreport] at hlater
  have htext : reportText findings = "Hall\n" := String.toByteArray_inj.mp (Except.ok.inj hlater)
  cases findings with
  | nil => exact absurd htext (by decide)
  | cons finding findings =>
      have hcomma := comma_mem_reportText finding findings
      rw [htext] at hcomma
      exact absurd hcomma (by decide)

end BrokenScene

end SceneAudit
