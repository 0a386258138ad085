import SceneAudit.Command
import SceneAudit.Proofs.Run.Isolation
import SceneAudit.Proofs.Scene.Printed

/-!
# The hierarchy command and the dumps of a run

A scene can be dumped by a run over its project or printed by a command of its own.  Both
agree (`hierarchy_agrees_with_dump`): after a run the command prints what the dump holds,
and its lines on the error output are as many as the summary says; and the command fails on
the scenes that the summary lists as unread.

* The command prints what the document of the scene gives (`run_perform_hierarchy`), and
  each fault and rejection takes one line of its errors (`lines_errors`).
* A run neither removes nor changes a scene, so the command reads what the run has read.
* A dump that could not be written is told by its message from a scene that could not be read
  (`not_saysUnread_unwritable`).
-/

namespace SceneAudit

open Text

/-! ## Arguments that name a scene -/

namespace Command

variable {text : String}

theorem path?_of_ne_empty (hne : text ≠ "") : path? text = .ok ⟨text⟩ := by
  rw [path?, if_neg hne]

theorem ofArguments_hierarchy (arguments : List String) :
    ofArguments ("hierarchy" :: arguments) =
      (readHierarchy false none arguments).map hierarchy := by
  have hshape : shapeOf "hierarchy" = .plain "hierarchy" := by decide
  unfold ofArguments read
  simp only [hshape]
  cases readHierarchy false none arguments <;> rfl

/-- Behind the end of the options, any text names a scene. -/
theorem ofArguments_separated (hne : text ≠ "") :
    ofArguments ["hierarchy", "--", text] = .ok (.hierarchy ⟨text⟩) := by
  have hshape : shapeOf "--" = .separator := by decide
  rw [ofArguments_hierarchy]
  unfold readHierarchy theScene
  simp only [hshape, path?_of_ne_empty hne]
  rfl

/-- A text that does not look like an option names a scene. -/
theorem ofArguments_plain (hne : text ≠ "") (hvalue : isValue text = true) :
    ofArguments ["hierarchy", text] = .ok (.hierarchy ⟨text⟩) := by
  have hshape : shapeOf text = .plain text := by simpa [isValue] using hvalue
  rw [ofArguments_hierarchy]
  unfold readHierarchy
  simp only [hshape, path?_of_ne_empty hne]
  rfl

/-! ## What the command prints -/

/-- What is printed of a document. -/
def printedOf (document : String) : Outcome where
  exitCode := 0
  output := (Scene.ofDocument document).hierarchy.dump
  errors := String.join ((Scene.ofDocument document).rejected.map rejectionLine ++
    (Scene.ofDocument document).hierarchy.faults.map faultLine)

/-- What is printed of a scene, by what is read where it is. -/
def printedAt (scene : Path) : Except DiskError String → Outcome
  | .error cause => .failure s!"reading {scene.text}: {cause.message}"
  | .ok document => printedOf document

/-- The command reads the scene, prints and changes nothing. -/
theorem run_perform_hierarchy {refusals : Refusals} {arguments : List String} {scene : Path}
    (h : ofArguments arguments = .ok (.hierarchy scene)) (tree : FileTree) :
    (perform arguments : Restricted refusals _).run tree =
      (printedAt scene (refusals.readText tree scene), tree) := by
  unfold perform
  rw [h]
  show (printHierarchy scene : Restricted refusals _).run tree = _
  unfold printHierarchy
  have hread : (Disk.readText scene : Restricted refusals _).run tree =
      (refusals.readText tree scene, tree) := rfl
  rw [Restricted.run_bind, hread]
  cases refusals.readText tree scene <;> rfl

theorem exitCode_printedAt_eq_one_iff {scene : Path} {held : Except DiskError String} :
    (printedAt scene held).exitCode = 1 ↔ ∃ cause, held = .error cause := by
  cases held with
  | error cause => exact iff_of_true rfl ⟨cause, rfl⟩
  | ok document =>
      constructor
      · intro hcode
        exact absurd (show (0 : Nat) = 1 from hcode) (by decide)
      · rintro ⟨cause, hcause⟩
        exact absurd hcause (by simp)

/-! ## Lines on the error output -/

/-- The line for a rejected block, without its line feed. -/
def rejectionText (error : RecordError) : String :=
  "rejected: " ++ error.message

/-- The line for a fault, without its line feed. -/
def faultText (fault : Fault) : String :=
  (if fault.isNotice then "notice: " else "fault: ") ++ fault.message

theorem lines_errors (document : String) :
    lines (printedOf document).errors =
      (Scene.ofDocument document).rejected.map rejectionText ++
        (Scene.ofDocument document).hierarchy.faults.map faultText := by
  have herrors : (printedOf document).errors =
      endedLines ((Scene.ofDocument document).rejected.map rejectionText ++
        (Scene.ofDocument document).hierarchy.faults.map faultText) := by
    unfold printedOf
    generalize (Scene.ofDocument document).rejected = rejected
    generalize (Scene.ofDocument document).hierarchy.faults = faults
    rw [endedLines, List.map_append, List.map_map, List.map_map]
    rfl
  rw [herrors]
  apply lines_endedLines
  intro line hline
  rcases List.mem_append.mp hline with hrejection | hfault
  · obtain ⟨error, herror, rfl⟩ := List.mem_map.mp hrejection
    have hlabel : IsUnbroken "rejected: " := by decide
    exact (isUnbroken_append_iff.mpr ⟨hlabel, Scene.isUnbroken_rejection herror⟩).isLine
  · obtain ⟨fault, hmem, rfl⟩ := List.mem_map.mp hfault
    have hlabel : IsUnbroken (if fault.isNotice then "notice: " else "fault: ") := by
      split <;> decide
    exact (isUnbroken_append_iff.mpr ⟨hlabel, Scene.isUnbroken_fault hmem⟩).isLine

/-- Whether a line starts with a label. -/
def hasLabel (label line : String) : Bool :=
  label.toList.isPrefixOf line.toList

/-- The number of lines of a text that start with a label. -/
def labelled (label text : String) : Nat :=
  (lines text).countP (hasLabel label)

theorem hasLabel_rejectionText (error : RecordError) :
    hasLabel "rejected: " (rejectionText error) = true ∧
      hasLabel "notice: " (rejectionText error) = false ∧
        hasLabel "fault: " (rejectionText error) = false := by
  unfold hasLabel rejectionText
  rw [String.toList_append]
  simp [List.isPrefixOf]

theorem hasLabel_faultText (fault : Fault) :
    hasLabel "rejected: " (faultText fault) = false ∧
      hasLabel "notice: " (faultText fault) = fault.isNotice ∧
        hasLabel "fault: " (faultText fault) = !fault.isNotice := by
  unfold hasLabel faultText
  rw [String.toList_append]
  cases fault.isNotice <;> simp [List.isPrefixOf]

theorem countP_errors (document : String) (label : String) :
    labelled label (printedOf document).errors =
      (Scene.ofDocument document).rejected.countP (fun error => hasLabel label (rejectionText error)) +
        (Scene.ofDocument document).hierarchy.faults.countP
          (fun fault => hasLabel label (faultText fault)) := by
  rw [labelled, lines_errors, List.countP_append, List.countP_map, List.countP_map]
  rfl

theorem labelled_rejected (document : String) :
    labelled "rejected: " (printedOf document).errors = (Scene.ofDocument document).rejected.length := by
  rw [countP_errors]
  simp [hasLabel_rejectionText, hasLabel_faultText]

theorem labelled_faults (document : String) :
    labelled "notice: " (printedOf document).errors + labelled "fault: " (printedOf document).errors =
      (Scene.ofDocument document).hierarchy.faults.length := by
  rw [countP_errors, countP_errors]
  simp only [hasLabel_rejectionText, hasLabel_faultText, List.countP_false]
  have hsplit := List.length_eq_countP_add_countP Fault.isNotice
    (l := (Scene.ofDocument document).hierarchy.faults)
  simpa using hsplit.symm

end Command

/-! ## Scenes that a summary lists as unread -/

/-- The message says that the scene could not be read or is no text. -/
def TaskFailure.SaysUnread (failure : TaskFailure) : Prop :=
  (∃ cause, failure.message = (SceneError.unreadable failure.path cause).message) ∨
    ∃ offset, failure.message = (SceneError.notText failure.path offset).message

/-- What a message ends with, read backwards from before the number at its end. -/
def reversedBeforeNumber (message : String) : List Char :=
  (message.toList.reverse.drop 1).dropWhile Char.isDigit

theorem reversedBeforeNumber_eq {front label : String} {number : Nat} (last : Char)
    (hlast : label.toList.getLast? = some last) (hdigit : last.isDigit = false) :
    reversedBeforeNumber (front ++ label ++ toString number ++ ")") =
      label.toList.reverse ++ front.toList.reverse := by
  have hreverse : (front ++ label ++ toString number ++ ")").toList.reverse =
      ')' :: ((toString number).toList.reverse ++
        (label.toList.reverse ++ front.toList.reverse)) := by
    simp
  have hhead : (label.toList.reverse ++ front.toList.reverse).head? = some last := by
    rw [List.head?_append, List.head?_reverse, hlast]
    rfl
  rw [reversedBeforeNumber, hreverse, List.drop_one, List.tail_cons]
  apply dropWhile_append_eq
  · intro c hc
    exact isDigit_of_mem_toString (List.mem_reverse.mp hc)
  · intro c hc
    rw [hhead] at hc
    rw [← Option.mem_some_iff.mp hc]
    exact hdigit

theorem message_unwritable_ne_unreadable (dump scene : Path) (cause other : DiskError) :
    (SceneError.unwritable dump cause).message ≠ (SceneError.unreadable scene other).message := by
  have hwrite : (SceneError.unwritable dump cause).message =
      "io error writing " ++ dump.text ++ ": " ++ cause.message := rfl
  have hread : (SceneError.unreadable scene other).message =
      "io error reading " ++ scene.text ++ ": " ++ other.message := rfl
  rw [hwrite, hread, ne_eq, ← String.toList_inj]
  simp

/-- The offset in the one message and the number in the other stand behind different words. -/
theorem message_unwritable_ne_notText (dump scene : Path) (cause : DiskError) (offset : Nat) :
    (SceneError.unwritable dump cause).message ≠ (SceneError.notText scene offset).message := by
  have hoffset : (SceneError.notText scene offset).message =
      scene.text ++ " is not valid UTF-8 (first bad byte at offset " ++ toString offset ++ ")" := rfl
  rw [hoffset]
  intro heq
  cases cause with
  | system number =>
      have hnumber : (SceneError.unwritable dump (.system number)).message =
          "io error writing " ++ dump.text ++ ": " ++ DiskError.systemText number ++ " (os error " ++
            toString number ++ ")" := by
        have hmessage : (DiskError.system number).message =
            DiskError.systemText number ++ " (os error " ++ toString number ++ ")" := rfl
        show "io error writing " ++ dump.text ++ ": " ++ (DiskError.system number).message = _
        rw [hmessage]
        simp only [String.append_assoc]
      rw [hnumber] at heq
      have hbefore := congrArg reversedBeforeNumber heq
      rw [reversedBeforeNumber_eq ' ' (by decide) (by decide),
        reversedBeforeNumber_eq ' ' (by decide) (by decide)] at hbefore
      simp at hbefore
  | notText =>
      have hlast := congrArg (fun message => message.toList.getLast?) heq
      have hmessage : (SceneError.unwritable dump .notText).message =
          "io error writing " ++ dump.text ++ ": " ++ "stream did not contain valid UTF-8" := rfl
      rw [hmessage] at hlast
      simp only [String.toList_append] at hlast
      rw [List.getLast?_append_of_ne_nil _ (by decide),
        List.getLast?_append_of_ne_nil _ (by decide)] at hlast
      exact absurd hlast (by decide)

theorem not_saysUnread_unwritable (dump scene : Path) (cause : DiskError) :
    ¬ TaskFailure.SaysUnread ⟨scene, (SceneError.unwritable dump cause).message⟩ := by
  rintro (⟨other, heq⟩ | ⟨offset, heq⟩)
  · exact message_unwritable_ne_unreadable dump scene cause other heq
  · exact message_unwritable_ne_notText dump scene cause offset heq

/-! ## The command after a run -/

section

variable {refusals : Refusals} {config : Config} {judge : Path → Except DiskError String → OracleAnswer}
  {tree final : FileTree} {summary : RunSummary} {scene : Path}

/-- A scene that was dumped is text, and its dump holds the hierarchy. -/
theorem Config.Made.exists_document (h : config.Made refusals tree summary final) {entry : SceneSummary}
    (hentry : entry ∈ summary.scenes) :
    ∃ document, entry.scene ∈ config.scenesIn tree ∧
      refusals.sceneText tree entry.scene = .ok document ∧
        entry = (Scene.ofDocument document).summary config entry.scene ∧
          final.read entry.dump = .ok (Scene.ofDocument document).hierarchy.dump.toUTF8 := by
  rw [h.scenes, Run.achieved_map] at hentry
  obtain ⟨scene, hscene, hoption⟩ := List.mem_filterMap.mp hentry
  have hdealt : (refusals.dealt config scene tree).1 = .ok entry := by
    cases hout : (refusals.dealt config scene tree).1 with
    | error error => simp [hout, Except.toOption] at hoption
    | ok found =>
        rw [hout] at hoption
        rw [Option.some.inj hoption]
  obtain rfl := Refusals.scene_of_dealt hdealt
  cases htext : refusals.sceneText tree entry.scene with
  | error error => simp [Refusals.dealt_of_error config htext] at hdealt
  | ok document =>
      by_cases hcan : config.CanDump refusals tree entry.scene document
      · have hsummary := (Refusals.dealt_of_canDump htext hcan).1
        have hentryEq := Except.ok.inj (hdealt.symm.trans hsummary)
        have hdump := congrArg SceneSummary.dump hentryEq
        rw [Scene.summary_dump] at hdump
        refine ⟨document, hscene, rfl, hentryEq, ?_⟩
        rw [hdump]
        exact (h.of_canDump hscene htext hcan).2.2
      · obtain ⟨⟨cause, hcause⟩, -⟩ := Refusals.dealt_of_not_canDump htext hcan
        simp [hcause] at hdealt

/-- A summary lists a scene as unread if and only if its document could not be had. -/
theorem Config.Made.saysUnread_iff (h : config.Made refusals tree summary final)
    (hscene : scene ∈ config.scenesIn tree) :
    (∃ failure ∈ summary.sceneFailures, failure.path = scene ∧ failure.SaysUnread) ↔
      ∃ error, refusals.sceneText tree scene = .error error := by
  constructor
  · rintro ⟨failure, hfailure, rfl, hunread⟩
    rw [h.sceneFailures, Run.failed_map] at hfailure
    obtain ⟨scene, -, hfailed⟩ := List.mem_filterMap.mp hfailure
    cases hdealt : (refusals.dealt config scene tree).1 with
    | ok entry => simp [hdealt, Run.failureOf] at hfailed
    | error error =>
        rw [hdealt] at hfailed
        obtain rfl := Option.some.inj hfailed
        cases htext : refusals.sceneText tree scene with
        | error cause => exact ⟨cause, rfl⟩
        | ok document =>
            -- then it is the dump that failed, and the message says so
            exfalso
            by_cases hcan : config.CanDump refusals tree scene document
            · rw [(Refusals.dealt_of_canDump htext hcan).1] at hdealt
              exact absurd hdealt (by simp)
            · obtain ⟨⟨cause, hcause⟩, -⟩ := Refusals.dealt_of_not_canDump htext hcan
              obtain rfl := Except.error.inj (hdealt.symm.trans hcause)
              exact not_saysUnread_unwritable _ scene cause hunread
  · rintro ⟨error, htext⟩
    have hfailed : (⟨scene, error.message⟩ : TaskFailure) ∈ summary.sceneFailures := by
      rw [h.sceneFailures, Run.failed_map, List.mem_filterMap]
      refine ⟨scene, hscene, ?_⟩
      rw [Refusals.dealt_of_error config htext]
      rfl
    refine ⟨_, hfailed, rfl, ?_⟩
    unfold Refusals.sceneText at htext
    cases hread : refusals.read tree scene with
    | error cause =>
        simp only [hread] at htext
        exact .inl ⟨cause, by rw [← Except.error.inj htext]⟩
    | ok bytes =>
        simp only [hread] at htext
        cases hdecode : Text.decode bytes with
        | error offset =>
            rw [hdecode] at htext
            exact .inr ⟨offset, by rw [← Except.error.inj htext]⟩
        | ok document => simp [hdecode, Except.mapError] at htext

/-- What a command has printed of a scene agrees with the entry of the scene in a summary and
with the dump. -/
structure Command.PrintsDump (entry : SceneSummary) (final : FileTree) (outcome : Outcome) : Prop where
  exitCode : outcome.exitCode = 0
  dump : final.read entry.dump = .ok outcome.output.toUTF8
  lines : entry.lines = outcome.output.toList.count '\n'
  faults : entry.faults = labelled "notice: " outcome.errors + labelled "fault: " outcome.errors
  rejected : entry.rejected = labelled "rejected: " outcome.errors

/-- A run and the command that prints a hierarchy agree on a scene that the summary lists. -/
theorem Config.Made.printsDump (h : config.Made refusals tree summary final) {entry : SceneSummary}
    (hentry : entry ∈ summary.scenes)
    (hread : ∀ scene ∈ config.scenesIn tree, refusals.read final scene = refusals.read tree scene) :
    Command.PrintsDump entry final
      (Command.printedAt entry.scene (refusals.readText final entry.scene)) := by
  obtain ⟨document, hscene, htext, hentryEq, hheld⟩ := h.exists_document hentry
  have hdocument : refusals.readText final entry.scene = .ok document := by
    have hoption := refusals.toOption_sceneText tree entry.scene
    rw [htext] at hoption
    rw [refusals.readText_congr (hread entry.scene hscene)]
    cases hheldText : refusals.readText tree entry.scene with
    | error cause => simp [hheldText, Except.toOption] at hoption
    | ok found =>
        rw [hheldText] at hoption
        rw [Option.some.inj hoption]
  have houtcome : Command.printedAt entry.scene (.ok document) = Command.printedOf document := rfl
  rw [hdocument, houtcome]
  constructor
  · rfl
  · exact hheld
  · have hlines := congrArg SceneSummary.lines hentryEq
    rw [Scene.summary_lines] at hlines
    rw [hlines]
    exact (Hierarchy.count_dump fun _ hline => Scene.not_mem_name hline).symm
  · have hfaults := congrArg SceneSummary.faults hentryEq
    rw [Scene.summary_faults] at hfaults
    rw [hfaults, Command.labelled_faults]
  · have hrejected := congrArg SceneSummary.rejected hentryEq
    rw [Scene.summary_rejected] at hrejected
    rw [hrejected, Command.labelled_rejected]

theorem scene_text_ne_empty (hwf : tree.WellFormed) (hscene : scene ∈ config.scenesIn tree) :
    scene.text ≠ "" := by
  obtain ⟨name, hname, rfl⟩ := Config.exists_of_mem_scenesIn hwf hscene
  exact FileTree.text_join_ne_empty _ hname.1

/-- **The two ways to dump a scene agree.**  After a run, any arguments that name a scene of
the summary make the program print what the dump holds, with as many lines of each kind as
the summary says; those that name a discovered scene make it fail if and only if the summary
lists the scene as unread; and there are such arguments. -/
theorem hierarchy_agrees_with_dump (hkeeps : config.KeepsApart refusals tree)
    (hreport : ∀ scene ∈ config.scenesIn (config.prepared refusals tree),
      ¬ (config.prepared refusals tree).SamePlace config.reportPath scene)
    (hrun : (audit config (Oracle.reading judge) : Restricted refusals _).run tree =
      (.ok summary, final)) :
    (∀ entry ∈ summary.scenes, ∀ arguments,
        Command.ofArguments arguments = .ok (.hierarchy entry.scene) →
          ∃ outcome, (Command.perform arguments : Restricted refusals _).run final =
              (outcome, final) ∧ Command.PrintsDump entry final outcome) ∧
      ∀ scene ∈ config.scenesIn (config.prepared refusals tree),
        (∀ arguments, Command.ofArguments arguments = .ok (.hierarchy scene) →
            (((Command.perform arguments : Restricted refusals _).run final).1.exitCode = 1 ↔
              ∃ failure ∈ summary.sceneFailures, failure.path = scene ∧ failure.SaysUnread)) ∧
          Command.ofArguments ["hierarchy", "--", scene.text] = .ok (.hierarchy scene) ∧
            (Command.isValue scene.text = true →
              Command.ofArguments ["hierarchy", scene.text] = .ok (.hierarchy scene)) := by
  have hmade := made_of_run_audit hkeeps hrun
  have hkept := Restricted.keptExcept_of_run_audit hrun
  have hspares := hkeeps.spares
  unfold Config.Spares at hspares
  generalize config.prepared refusals tree = tree at *
  have hapart : tree.Apart (config.writtenIn tree) (config.scenesIn tree) := by
    intro path hpath scene hscene
    rcases List.mem_cons.mp hpath with rfl | hdump
    · exact hreport scene hscene
    · exact hspares path hdump scene (List.mem_append_left _ hscene)
  have hread : ∀ scene ∈ config.scenesIn tree, refusals.read final scene = refusals.read tree scene := by
    intro scene hscene
    obtain ⟨place, hlocate⟩ := hmade.wellFormed.exists_locate_of_mem_discovered hscene
    exact Refusals.read_eq_of_keptExcept hapart hkept hscene hlocate
  constructor
  · intro entry hentry arguments harguments
    exact ⟨_, Command.run_perform_hierarchy harguments final, hmade.printsDump hentry hread⟩
  · intro scene hscene
    have hne := scene_text_ne_empty hmade.wellFormed hscene
    refine ⟨?_, Command.ofArguments_separated hne, Command.ofArguments_plain hne⟩
    intro arguments harguments
    have hsame : (refusals.sceneText tree scene).toOption = (refusals.readText final scene).toOption := by
      rw [refusals.toOption_sceneText, refusals.readText_congr (hread scene hscene)]
    rw [Command.run_perform_hierarchy harguments, Command.exitCode_printedAt_eq_one_iff,
      hmade.saysUnread_iff hscene]
    cases hheld : refusals.readText final scene <;>
      cases htext : refusals.sceneText tree scene <;>
        simp [hheld, htext, Except.toOption] at hsame ⊢

end

namespace BrokenScene

theorem IsLaidOut.report_apart {tree : FileTree} (h : IsLaidOut tree) :
    ∀ scene ∈ config.scenesIn tree, ¬ tree.SamePlace config.reportPath scene := by
  rintro scene hscene ⟨place, hreport, hlocate⟩
  obtain ⟨outer, front, -, houter, -, hlength, hentry, -⟩ :=
    FileTree.isEntryPath_of_mem_discovered h.wellFormed hscene
  obtain ⟨name, rfl⟩ := List.length_eq_one_iff.mp (hlength.resolve_left (by simp))
  have hscenePlace := Except.ok.inj (hlocate.symm.trans hentry.locate_eq)
  have hreportPlace := Except.ok.inj
    (hreport.symm.trans (FileTree.locate_of_locateFile h.locateFile_report))
  rw [hscenePlace, houter.eq h.leadsInto_scenes] at hreportPlace
  exact absurd (List.cons.inj hreportPlace).2 (by decide)

theorem canDump_hall : config.CanDump .nothing project hall hallText := by
  have hnone : project.entry? ["Hall.unity.dump", "out"] = none := by
    simp [project, FileTree.entry?_insert, FileTree.entry?_empty]
  rw [Refusals.canDump_iff]
  apply Refusals.rewritten_of_writable .nothing true _ isLaidOut_project.locateFile_hallDump
  · simp [hnone]
  · simp [hnone]
  · rfl
  · rfl

theorem sceneText_hall : Refusals.nothing.sceneText project hall = .ok hallText := by
  have hread := isLaidOut_project.read_scene (by decide) hall_project
  rw [join_hall] at hread
  rw [Refusals.sceneText, hread]
  simp only [Text.decode_toUTF8, Except.mapError]

/-- The hall is dumped and printed alike, and the broken scene makes the command fail if it is
listed as unread. -/
theorem hall_printed :
    config.KeepsApart .nothing project ∧
      (∀ scene ∈ config.scenesIn (config.prepared .nothing project),
        ¬ (config.prepared .nothing project).SamePlace config.reportPath scene) ∧
      ∃ summary final,
        (audit config (Oracle.reading Oracle.judgeOutline) : Restricted .nothing _).run project =
            (.ok summary, final) ∧
          (∃ entry ∈ summary.scenes, entry.scene = hall ∧
            ∃ outcome, (Command.perform ["hierarchy", "--", hall.text] : Restricted .nothing _).run
                final = (outcome, final) ∧ Command.PrintsDump entry final outcome) ∧
            (((Command.perform ["hierarchy", "--", broken.text] : Restricted .nothing _).run
                final).1.exitCode = 1 ↔
              ∃ failure ∈ summary.sceneFailures, failure.path = broken ∧ failure.SaysUnread) := by
  have hlaid := isLaidOut_project
  have hkeeps := hlaid.keepsApart .nothing
  have hreport : ∀ scene ∈ config.scenesIn (config.prepared .nothing project),
      ¬ (config.prepared .nothing project).SamePlace config.reportPath scene := by
    rw [hlaid.prepared_eq]
    exact hlaid.report_apart
  obtain ⟨summary, final, hrun⟩ := hlaid.exists_summary .nothing Oracle.judgeOutline rfl fun _ => rfl
  obtain ⟨hlisted, hdiscovered⟩ := hierarchy_agrees_with_dump hkeeps hreport hrun
  have hmade := made_of_run_audit hkeeps hrun
  rw [hlaid.prepared_eq] at hmade hdiscovered
  have hentry := List.mem_of_find?_eq_some
    (hmade.of_canDump hall_mem_scenesIn sceneText_hall canDump_hall).1
  have harguments := (hdiscovered hall hall_mem_scenesIn).2.1
  obtain ⟨hfails, hbroken, -⟩ := hdiscovered broken (hlaid.broken_mem_scenesIn broken_project)
  exact ⟨hkeeps, hreport, summary, final, hrun,
    ⟨_, hentry, rfl, hlisted _ hentry _ harguments⟩, hfails _ hbroken⟩

end BrokenScene

end SceneAudit
