import SceneAudit.Proofs.Record.LineNumber
import SceneAudit.Proofs.Run.Course

/-!
# The order of tasks

The scenes of a project may be dealt with side by side, and so may its sidecars, once all
scenes are in: tasks are carried out in any order, and each outcome goes to the position
of its task (`Schedule`, `scheduledAudit`).  As long as no dump is a scene, the order does
not show in what a run says and leaves behind (`audit_of_schedule`).
-/

namespace SceneAudit

open FileTree (SameContents)

/-! ## Tasks and their outcomes -/

/-- The orders in which the tasks of a run are carried out, each with its position. -/
structure Schedule where
  scenes : List (Path × Nat) → List (Path × Nat)
  scenes_perm : ∀ tasks, (scenes tasks).Perm tasks
  sidecars : List (Path × Nat) → List (Path × Nat)
  sidecars_perm : ∀ tasks, (sidecars tasks).Perm tasks
  findings : List (Sidecar × Nat) → List (Sidecar × Nat)
  findings_perm : ∀ tasks, (findings tasks).Perm tasks

/-- The outcomes of tasks in the positions of the tasks. -/
def inPosition {α β : Type} (tasks : List (α × Nat)) (outcomes : List β) : List β :=
  ((outcomes.zip (tasks.map Prod.snd)).mergeSort fun first second => first.2 ≤ second.2).map Prod.fst

/-- Items that are ordered by their positions are sorted back from any other order. -/
theorem mergeSort_position {β : Type} {placed shuffled : List (β × Nat)}
    (hplaced : placed.Pairwise fun first second => first.2 < second.2) (hperm : shuffled.Perm placed) :
    shuffled.mergeSort (fun first second => first.2 ≤ second.2) = placed := by
  have hordered : (shuffled.mergeSort fun first second => first.2 ≤ second.2).Pairwise
      fun first second => first.2 ≤ second.2 := by
    refine (List.pairwise_mergeSort ?_ ?_ shuffled).imp of_decide_eq_true
    · intro first second third hle hle'
      exact decide_eq_true ((of_decide_eq_true hle).trans (of_decide_eq_true hle'))
    · intro first second
      simpa using le_total first.2 second.2
  have hsorted := hperm.symm.trans
    (List.mergeSort_perm shuffled fun first second => first.2 ≤ second.2).symm
  refine (hsorted.eq_of_pairwise ?_ (hplaced.imp Nat.le_of_lt) hordered).symm
  intro first second hfirst hsecond hle hge
  have hdistinct : (placed.map Prod.snd).Nodup := List.pairwise_map.mpr (hplaced.imp Nat.ne_of_lt)
  exact List.inj_on_of_nodup_map hdistinct hfirst (hsorted.mem_iff.mpr hsecond)
    (Nat.le_antisymm hle hge)

theorem map_fst_perm {α : Type} {items : List α} {tasks : List (α × Nat)}
    (hperm : tasks.Perm items.zipIdx) : (tasks.map Prod.fst).Perm items := by
  have htasks := hperm.map Prod.fst
  rwa [List.zipIdx_map_fst] at htasks

theorem inPosition_map {α β : Type} {items : List α} {tasks : List (α × Nat)}
    (hperm : tasks.Perm items.zipIdx) (outcome : α → β) :
    inPosition tasks ((tasks.map Prod.fst).map outcome) = items.map outcome := by
  have hplaced : (items.zipIdx.map fun task => (outcome task.1, task.2)).Pairwise
      fun first second => first.2 < second.2 :=
    List.pairwise_map.mpr (pairwise_snd_zipIdx items 0)
  calc inPosition tasks ((tasks.map Prod.fst).map outcome)
      _ = ((tasks.map fun task => (outcome task.1, task.2)).mergeSort
          fun first second => first.2 ≤ second.2).map Prod.fst := by
        rw [inPosition, List.map_map, List.zip_map']
        rfl
      _ = (items.zipIdx.map fun task => (outcome task.1, task.2)).map Prod.fst := by
        rw [mergeSort_position hplaced (hperm.map _)]
      _ = (items.zipIdx.map Prod.fst).map outcome := by
        rw [List.map_map, List.map_map]
        rfl
      _ = items.map outcome := by rw [List.zipIdx_map_fst]

/-- A run whose tasks are carried out in the orders of a schedule; it gives its findings as well. -/
def scheduledAudit {m : Type → Type} [Monad m] [Disk m] (schedule : Schedule) (config : Config)
    (oracle : Path → m OracleAnswer) : m (Except RunError (RunSummary × List Finding)) := do
  match ← Disk.createDirectories config.outputDir with
  | .error cause => return .error (.disk config.outputDir cause)
  | .ok () =>
    let scenes ← sceneFiles config.scenesPath config.sceneExtension
    let sidecars ← metaFiles config.scriptsPath
    let sceneTasks := schedule.scenes scenes.zipIdx
    let progress ← Run.scenePhase config (sceneTasks.map Prod.fst)
    let sidecarTasks := schedule.sidecars sidecars.zipIdx
    let sidecarOutcomes := inPosition sidecarTasks (← Run.sidecarPhase (sidecarTasks.map Prod.fst))
    let findingTasks := schedule.findings (Run.achieved sidecarOutcomes).zipIdx
    let found ← (findingTasks.map Prod.fst).mapM (Sidecar.classify progress.registry.freeze oracle)
    let findings := Finding.sort (inPosition findingTasks found).reduceOption
    let summary := config.summary (inPosition sceneTasks progress.reversedOutcomes.reverse) sidecars
      sidecarOutcomes findings
    match ← Run.writeReport config.reportPath config.reportMode findings with
    | .error error => return .error error
    | .ok () => return .ok (summary, findings)

namespace Restricted

variable {refusals : Refusals} {config : Config}
  {judge : Path → Except DiskError String → OracleAnswer} {tree after : FileTree} {schedule : Schedule}

theorem run_scheduledAudit_of_not_prepared {error : DiskError}
    (h : (Disk.createDirectories config.outputDir : Restricted refusals _).run tree =
      (.error error, after)) :
    (scheduledAudit schedule config (Oracle.reading judge) : Restricted refusals _).run tree =
      (.error (.disk config.outputDir error), after) := by
  unfold scheduledAudit
  rw [run_bind, h]
  rfl

/-- Sidecars are read in the same tree in any order, so only the order of the scenes is left. -/
theorem run_scheduledAudit_of_prepared
    (h : (Disk.createDirectories config.outputDir : Restricted refusals _).run tree = (.ok (), after)) :
    (scheduledAudit schedule config (Oracle.reading judge) : Restricted refusals _).run tree =
      let sceneTasks := schedule.scenes (config.scenesIn after).zipIdx
      let dealt := refusals.scenesDealt config (sceneTasks.map Prod.fst) after
      let sidecarOutcomes := refusals.sidecarOutcomes dealt.2 (config.sidecarsIn after)
      let findings := refusals.findingsWith judge dealt.1.registry sidecarOutcomes dealt.2
      refusals.reported config findings
        (config.summary (inPosition sceneTasks dealt.1.reversedOutcomes.reverse)
          (config.sidecarsIn after) sidecarOutcomes findings, findings)
        dealt.2 := by
  -- nothing is written while sidecars and sources are read, so their outcomes are a plain map
  have hsidecars : ∀ (tree : FileTree) (paths : List Path),
      inPosition (schedule.sidecars paths.zipIdx)
          (refusals.sidecarOutcomes tree ((schedule.sidecars paths.zipIdx).map Prod.fst)) =
        refusals.sidecarOutcomes tree paths :=
    fun tree paths => inPosition_map (schedule.sidecars_perm _) _
  have hfindings : ∀ (registry : Registry) (tree : FileTree)
      (outcomes : List (Path × Except DiskError Sidecar)),
      Finding.sort (inPosition (schedule.findings (Run.achieved outcomes).zipIdx)
          (((schedule.findings (Run.achieved outcomes).zipIdx).map Prod.fst).map
            (Sidecar.classify (m := Id) registry.freeze fun path =>
              judge path (refusals.readText tree path)))).reduceOption =
        refusals.findingsWith judge registry outcomes tree := by
    intro registry tree outcomes
    rw [inPosition_map (schedule.findings_perm _), Refusals.findingsWith, crossReference_id,
      List.reduceOption, List.filterMap_map, Function.id_comp]
  unfold scheduledAudit sceneFiles metaFiles
  rw [run_bind, h]
  simp only
  rw [run_bind, run_discover, run_bind, run_discover, run_bind, run_scenePhase, run_bind,
    run_sidecarPhase]
  simp only [hsidecars]
  rw [run_bind, run_mapM fun sidecar => run_classify _ judge sidecar _]
  simp only [hfindings]
  exact run_reported _ _ _

end Restricted

/-! ## Runs in two orders -/

section

variable {refusals : Refusals} {config : Config} {judge : Path → Except DiskError String → OracleAnswer}
  {tree other : FileTree}

theorem isUsed_of_perm {scenes others : List TextFile} (hperm : scenes.Perm others) (guid : Guid) :
    IsUsed scenes guid ↔ IsUsed others guid := by
  simp only [IsUsed, hperm.mem_iff]

/-- The findings are the same where the same scripts are used and the trees hold the same. -/
theorem findingsWith_of_sameContents {registry otherRegistry : Registry} (hsame : SameContents tree other)
    (hcontains : ∀ guid, otherRegistry.freeze.contains guid = registry.freeze.contains guid)
    (sidecars : List (Path × Except DiskError Sidecar)) :
    refusals.findingsWith judge otherRegistry sidecars other =
      refusals.findingsWith judge registry sidecars tree := by
  apply crossReference_congr hcontains
  intro sidecar _ _
  rw [refusals.readText_congr (refusals.read_congr (hsame.find_eq _))]

theorem reported_of_sameContents {α : Type} (findings : List Finding) (result : α)
    (hsame : SameContents tree other) :
    (refusals.reported config findings result other).1 =
        (refusals.reported config findings result tree).1 ∧
      SameContents (refusals.reported config findings result tree).2
        (refusals.reported config findings result other).2 := by
  obtain ⟨hwritten, htrees⟩ := refusals.rewritten_of_sameContents (Run.truncates config.reportMode)
    config.reportPath (reportText findings).toUTF8 hsame
  unfold Refusals.reported
  simp only [hwritten]
  exact ⟨trivial, htrees⟩

theorem map_reported {α β : Type} (findings : List Finding) (result : α) (f : α → β) (tree : FileTree) :
    (refusals.reported config findings (f result) tree).1 =
      (refusals.reported config findings result tree).1.map f := by
  unfold Refusals.reported
  simp only
  cases Run.reportOutcome config.reportPath
    (refusals.rewritten (Run.truncates config.reportMode) config.reportPath
      (reportText findings).toUTF8 tree).1 <;> rfl

/-- Scenes with dumps of their own leave the same behind in any order. -/
theorem scenesDealt_of_perm (refusals : Refusals) (hwf : tree.WellFormed) {outer : Place}
    (hinto : tree.LeadsInto config.outputDir outer) (hslash : '/' ∉ config.dumpExtension.toList)
    (hapart : tree.Apart (config.dumpsIn tree) (config.scenesIn tree)) {scenes : List Path}
    (hperm : scenes.Perm (config.scenesIn tree)) :
    SameContents (refusals.scenesDealt config (config.scenesIn tree) tree).2
        (refusals.scenesDealt config scenes tree).2 ∧
      ∀ guid, (refusals.scenesDealt config scenes tree).1.registry.freeze.contains guid =
        (refusals.scenesDealt config (config.scenesIn tree) tree).1.registry.freeze.contains guid := by
  obtain ⟨hkept, hregistry, halone⟩ :=
    refusals.scenesDealt_alone hwf hinto hslash hapart hperm
  obtain ⟨hkeptSorted, hregistrySorted, haloneSorted⟩ :=
    refusals.scenesDealt_alone hwf hinto hslash hapart (List.Perm.refl _)
  refine ⟨⟨?_, ?_⟩, ?_⟩
  · exact hkept.directories.here.trans hkeptSorted.directories.here.symm
  · intro place
    -- a place is that of one dump, which its own scene decides, or none of the tasks changes it
    by_cases hdump : ∃ scene ∈ scenes, place = config.dumpName scene :: outer
    · obtain ⟨scene, hscene, rfl⟩ := hdump
      rw [halone.dump scene hscene, haloneSorted.dump scene (hperm.mem_iff.mp hscene)]
    · have hne : ∀ scene ∈ scenes, place ≠ config.dumpName scene :: outer :=
        fun scene hscene heq => hdump ⟨scene, hscene, heq⟩
      rw [halone.elsewhere place hne,
        haloneSorted.elsewhere place fun scene hscene => hne scene (hperm.mem_iff.mpr hscene)]
  · intro guid
    rw [hregistry, hregistrySorted, Bool.eq_iff_iff, contains_ofScenes, contains_ofScenes]
    exact isUsed_of_perm (hperm.filterMap _) guid

/-- The outcomes of scenes with dumps of their own are the same in any order. -/
theorem inPosition_scenesDealt (refusals : Refusals) (hwf : tree.WellFormed) {outer : Place}
    (hinto : tree.LeadsInto config.outputDir outer) (hslash : '/' ∉ config.dumpExtension.toList)
    (hapart : tree.Apart (config.dumpsIn tree) (config.scenesIn tree)) {tasks : List (Path × Nat)}
    (hperm : tasks.Perm (config.scenesIn tree).zipIdx) :
    inPosition tasks
        (refusals.scenesDealt config (tasks.map Prod.fst) tree).1.reversedOutcomes.reverse =
      (refusals.scenesDealt config (config.scenesIn tree) tree).1.reversedOutcomes.reverse := by
  have halone := (refusals.scenesDealt_alone hwf hinto hslash hapart
    (map_fst_perm hperm)).2.2
  have haloneSorted := (refusals.scenesDealt_alone hwf hinto hslash hapart
    (List.Perm.refl _)).2.2
  rw [halone.outcomes, haloneSorted.outcomes, List.reverse_nil, List.nil_append, List.nil_append]
  exact inPosition_map hperm fun scene => (scene, (refusals.dealt config scene tree).1)

/-- **The order of tasks does not show.**  Whatever the schedule, a run gives one result and
leaves the same contents behind as the run that deals with one file after the other; no two
scenes have one dump. -/
theorem audit_of_schedule (hwf : tree.WellFormed)
    (hspares : config.Spares config.scenesIn refusals tree)
    (hslash : '/' ∉ config.dumpExtension.toList) :
    (∃ result : Except RunError (RunSummary × List Finding),
      ((audit config (Oracle.reading judge) : Restricted refusals _).run tree).1 =
          result.map Prod.fst ∧
        ∀ schedule : Schedule,
          ((scheduledAudit schedule config (Oracle.reading judge) : Restricted refusals _).run tree).1 =
              result ∧
            SameContents ((audit config (Oracle.reading judge) : Restricted refusals _).run tree).2
              ((scheduledAudit schedule config (Oracle.reading judge) :
                Restricted refusals _).run tree).2) ∧
      (config.scenesIn (config.prepared refusals tree)).Pairwise fun first second =>
        compare (config.dumpPath first) (config.dumpPath second) ≠ .eq := by
  have hwfPrepared := Config.wellFormed_prepared config refusals hwf
  refine ⟨?_, Config.pairwise_dumpPath hwfPrepared hslash⟩
  rcases hcreate : (Disk.createDirectories config.outputDir : Restricted refusals _).run tree with
    ⟨error | _, after⟩
  · refine ⟨.error (.disk config.outputDir error), ?_, ?_⟩
    · rw [Restricted.run_audit_of_not_prepared hcreate]
      rfl
    · intro schedule
      rw [Restricted.run_audit_of_not_prepared hcreate,
        Restricted.run_scheduledAudit_of_not_prepared hcreate]
      exact ⟨rfl, .refl after⟩
  · obtain ⟨outer, hinto⟩ := Restricted.leadsInto_of_run_createDirectories hwf hcreate
    have hafter : config.prepared refusals tree = after := by rw [Config.prepared, hcreate]
    unfold Config.Spares at hspares
    rw [hafter] at hspares hwfPrepared
    rw [Restricted.run_audit_of_prepared hcreate]
    let dealt := refusals.scenesDealt config (config.scenesIn after) after
    let sidecarOutcomes := refusals.sidecarOutcomes dealt.2 (config.sidecarsIn after)
    let findings := refusals.findingsWith judge dealt.1.registry sidecarOutcomes dealt.2
    let summary := config.summary dealt.1.reversedOutcomes.reverse (config.sidecarsIn after)
      sidecarOutcomes findings
    refine ⟨(refusals.reported config findings (summary, findings) dealt.2).1,
      map_reported findings (summary, findings) Prod.fst dealt.2, ?_⟩
    intro schedule
    have htasks := schedule.scenes_perm (config.scenesIn after).zipIdx
    obtain ⟨hsame, hcontains⟩ := scenesDealt_of_perm refusals hwfPrepared hinto hslash
      hspares (map_fst_perm htasks)
    have houtcomes := inPosition_scenesDealt refusals hwfPrepared hinto hslash hspares htasks
    have hsidecars := refusals.sidecarOutcomes_congr fun path (_ : path ∈ config.sidecarsIn after) =>
      refusals.read_congr (hsame.find_eq path)
    rw [Restricted.run_scheduledAudit_of_prepared hcreate]
    simp only [houtcomes, hsidecars, findingsWith_of_sameContents hsame hcontains]
    exact reported_of_sameContents _ _ hsame

end

namespace BrokenScene

theorem audit_in_any_order :
    project.WellFormed ∧ config.Spares config.scenesIn .nothing project ∧
      '/' ∉ config.dumpExtension.toList ∧
        ∃ result : Except RunError (RunSummary × List Finding), ∀ schedule : Schedule,
          ((scheduledAudit schedule config (Oracle.reading Oracle.judgeOutline) :
            Restricted .nothing _).run project).1 = result := by
  have hlaid := isLaidOut_project
  have hspares : config.Spares config.scenesIn .nothing project := by
    intro path hpath input hinput
    exact hlaid.spares .nothing path hpath input (Config.mem_inputsIn_of_mem_scenesIn hinput)
  have hslash : '/' ∉ config.dumpExtension.toList := by decide
  obtain ⟨⟨result, -, hresult⟩, -⟩ := audit_of_schedule hlaid.wellFormed hspares hslash
  exact ⟨hlaid.wellFormed, hspares, hslash, result, fun schedule => (hresult schedule).1⟩

end BrokenScene

end SceneAudit
