import SceneAudit.Proofs.FileTree.Outside
import SceneAudit.Proofs.Run.Findings

/-!
# Running again

A run that writes nothing into the directories of the scenes and the scripts
(`Config.WritesOutside`) finds and reads the same there when it is made again.  What it
meets that is new are its own dumps, and dealing with a scene again makes no difference
(`Settled.resumes`).  So every later run gives the summary of the first, and leaves the
dumps as they are (`Ready.exists_run`): only the report may change, and it changes as its
mode says (`rerun_idempotent`).
-/

namespace SceneAudit

open Restricted

/-- Runs over the project so many times, one after the other. -/
def audits {m : Type → Type} [Monad m] [Disk m] (config : Config) (oracle : Path → m OracleAnswer) :
    Nat → m (List (Except RunError RunSummary))
  | 0 => return []
  | count + 1 => return (← audit config oracle) :: (← audits config oracle count)

theorem toUTF8_join_cons (text : String) (texts : List String) :
    (String.join (text :: texts)).toUTF8 = text.toUTF8 ++ (String.join texts).toUTF8 := by
  rw [String.join_cons]
  exact String.toByteArray_append

namespace Config

variable {config : Config} {refusals : Refusals} {judge : Path → Except DiskError String → OracleAnswer}
  {tree later other after final : FileTree} {place : Place} {summary : RunSummary}

/-! ## Writing outside the directories of the inputs -/

/-- The run writes nothing into the directories where it looks for files, and not the report
over a dump. -/
structure WritesOutside (config : Config) (tree : FileTree) : Prop where
  scenes : ∀ path ∈ config.writtenIn tree, ¬ tree.LiesIn false config.scenesPath path
  scripts : ∀ path ∈ config.writtenIn tree, ¬ tree.LiesIn true config.scriptsPath path
  report : ∀ dump ∈ config.dumpsIn tree, ¬ tree.SamePlace config.reportPath dump
  extension : '/' ∉ config.dumpExtension.toList

/-- The source of a sidecar lies where the sidecars do, unless its path goes back to a directory. -/
theorem liesIn_or_isDirectory_of_mem_sourcesIn (hwf : tree.WellFormed) {source : Path}
    (h : source ∈ config.sourcesIn refusals tree) :
    tree.LiesIn true config.scriptsPath source ∨
      ∃ place, tree.locate source = .ok place ∧ tree.IsDirectory place := by
  obtain ⟨outer, front, step, hscripts, houter, hne, hdirectory, hsource⟩ :=
    exists_locate_of_mem_sourcesIn hwf h
  obtain ⟨name, rest, rfl⟩ := List.exists_cons_of_ne_nil hne
  rw [List.cons_append, List.tail_cons] at hdirectory hsource
  unfold FileTree.descend at hsource
  split_ifs at hsource
  · exact .inr ⟨_, hsource, hdirectory⟩
  · exact .inr ⟨_, hsource, hwf.isDirectory_tail hdirectory⟩
  · exact .inl ⟨outer, step :: rest, hscripts, houter, by simp, .inl rfl, hsource⟩

namespace WritesOutside

theorem scenesIn_eq (h : config.WritesOutside tree) (hwf : tree.WellFormed)
    (hkept : tree.KeptExcept (config.writtenIn tree) later) :
    config.scenesIn later = config.scenesIn tree :=
  hkept.discovered_eq hwf h.scenes

theorem sidecarsIn_eq (h : config.WritesOutside tree) (hwf : tree.WellFormed)
    (hkept : tree.KeptExcept (config.writtenIn tree) later) :
    config.sidecarsIn later = config.sidecarsIn tree :=
  hkept.discovered_eq hwf h.scripts

theorem read_eq (h : config.WritesOutside tree) (hwf : tree.WellFormed)
    (hkept : tree.KeptExcept (config.writtenIn tree) later) {input : Path}
    (hinput : input ∈ config.inputsIn refusals tree) :
    refusals.read later input = refusals.read tree input := by
  apply refusals.read_congr
  rcases List.mem_append.mp hinput with hread | hsource
  · rcases List.mem_append.mp hread with hscene | hsidecar
    · exact hkept.find_of_liesIn h.scenes (FileTree.liesIn_of_mem_discovered hwf hscene)
    · exact hkept.find_of_liesIn h.scripts (FileTree.liesIn_of_mem_discovered hwf hsidecar)
  · rcases liesIn_or_isDirectory_of_mem_sourcesIn hwf hsource with hlies | ⟨place, hlocate, hdirectory⟩
    · exact hkept.find_of_liesIn h.scripts hlies
    · have hfind := FileTree.find_eq_ok_iff.mpr ⟨hlocate, hdirectory⟩
      rw [hfind, hkept.find_directory_iff.mpr hfind]

theorem apart (h : config.WritesOutside tree) (hwf : tree.WellFormed) :
    tree.Apart (config.dumpsIn tree) (config.scenesIn tree) := by
  intro dump hdump scene hscene hsame
  have hlies := FileTree.liesIn_of_mem_discovered hwf hscene
  exact h.scenes dump (List.mem_cons_of_mem _ hdump) (hlies.of_samePlace hsame)

/-- A run writes outside the other directories if its output goes elsewhere than the scenes and
not into the directory of the scripts. -/
theorem of_leadsInto (hwf : tree.WellFormed) {outer scenes scripts : Place}
    (hinto : tree.LeadsInto config.outputDir outer) (hslash : '/' ∉ config.dumpExtension.toList)
    (hname : Path.IsName config.reportFileName) (hscenes : tree.LeadsInto config.scenesPath scenes)
    (hscripts : tree.LeadsInto config.scriptsPath scripts) (hne : outer ≠ scenes)
    (hinside : ¬ scripts <:+ outer)
    (hreport : ∀ scene ∈ config.scenesIn tree, config.dumpName scene ≠ config.reportFileName) :
    config.WritesOutside tree := by
  have hown := ownDumps hwf hinto hslash
  have hreportPlace := FileTree.locate_of_locateFile (hinto.locateFile_join hname)
  have hplace : ∀ path ∈ config.writtenIn tree, ∃ name, tree.locate path = .ok (name :: outer) := by
    refine List.forall_mem_cons.mpr ⟨⟨_, hreportPlace⟩, List.forall_mem_map.mpr ?_⟩
    exact fun scene hscene => ⟨_, FileTree.locate_of_locateFile (hown.located scene hscene)⟩
  constructor
  · rintro path hpath ⟨inner, front, hlocate, hdirectory, -, hdepth, hfound⟩
    obtain ⟨name, hname⟩ := hplace path hpath
    obtain ⟨only, rfl⟩ := List.length_eq_one_iff.mp (hdepth.resolve_left (by simp))
    obtain rfl := (FileTree.leadsInto_of_locate hlocate hdirectory).eq hscenes
    exact hne (List.cons.inj (Except.ok.inj (hname.symm.trans hfound))).2
  · rintro path hpath ⟨inner, front, hlocate, hdirectory, hfront, -, hfound⟩
    obtain ⟨name, hname⟩ := hplace path hpath
    obtain ⟨first, rest, rfl⟩ := List.exists_cons_of_ne_nil hfront
    obtain rfl := (FileTree.leadsInto_of_locate hlocate hdirectory).eq hscripts
    rw [(List.cons.inj (Except.ok.inj (hname.symm.trans hfound))).2] at hinside
    exact hinside (List.suffix_append rest _)
  · rintro dump hdump ⟨place, hlocate, hsame⟩
    obtain ⟨scene, hscene, rfl⟩ := List.mem_map.mp hdump
    obtain rfl := Except.ok.inj (hlocate.symm.trans hreportPlace)
    have hdumpPlace := FileTree.locate_of_locateFile (hown.located scene hscene)
    exact hreport scene hscene (List.cons.inj (Except.ok.inj (hdumpPlace.symm.trans hsame))).1
  · exact hslash

end WritesOutside

/-! ## The states between runs -/

/-- The output directory is there, and the run writes outside the other ones. -/
structure Ready (config : Config) (refusals : Refusals) (tree : FileTree) : Prop where
  wellFormed : tree.WellFormed
  outside : config.WritesOutside tree
  made : (Disk.createDirectories config.outputDir : Restricted refusals _).run tree = (.ok (), tree)

/-- What was written since does not change what becomes of the scenes. -/
structure Resumes (config : Config) (refusals : Refusals) (tree later : FileTree) : Prop where
  kept : tree.KeptExcept (config.writtenIn tree) later
  dealt : ∀ scene ∈ config.scenesIn tree, ∀ place,
    tree.locateFile (config.dumpPath scene) = .ok place →
      (refusals.dealt config scene later).1 = (refusals.dealt config scene tree).1 ∧
        FileTree.entry? (refusals.dealt config scene later).2 place =
          FileTree.entry? (refusals.dealt config scene tree).2 place

/-- What was written since are the dumps of the scenes and the report. -/
structure Settled (config : Config) (refusals : Refusals) (tree later : FileTree) : Prop where
  kept : tree.KeptExcept (config.writtenIn tree) later
  dumps : ∀ scene ∈ config.scenesIn tree, ∀ place,
    tree.locateFile (config.dumpPath scene) = .ok place →
      later.entry? place = FileTree.entry? (refusals.dealt config scene tree).2 place

theorem Resumes.refl (config : Config) (refusals : Refusals) (tree : FileTree) :
    config.Resumes refusals tree tree :=
  ⟨.refl tree _, fun _ _ _ _ => ⟨rfl, rfl⟩⟩

/-- Dumps that are there are made again. -/
theorem Settled.resumes (h : config.Settled refusals tree later) (hready : config.Ready refusals tree) :
    config.Resumes refusals tree later := by
  refine ⟨h.kept, ?_⟩
  intro scene hscene place hlocated
  have hread : refusals.read later scene = refusals.read tree scene :=
    hready.outside.read_eq hready.wellFormed h.kept (mem_inputsIn_of_mem_scenesIn hscene)
  exact Refusals.dealt_again hlocated h.kept hread (h.dumps scene hscene place hlocated)

/-- Only the report can differ between two such states. -/
theorem Settled.keptExcept (h : config.Settled refusals tree later)
    (hother : config.Settled refusals tree other) : later.KeptExcept [config.reportPath] other := by
  refine ⟨h.kept.directories.symm.trans hother.kept.directories, ?_⟩
  intro place hplace
  have hreport : tree.locateFile config.reportPath ≠ .ok place := by
    intro hlocated
    exact hplace _ List.mem_cons_self (h.kept.directories.locateFile_eq_ok_iff.mpr hlocated)
  by_cases hdump : ∃ scene ∈ config.scenesIn tree, tree.locateFile (config.dumpPath scene) = .ok place
  · obtain ⟨scene, hscene, hlocated⟩ := hdump
    rw [h.dumps scene hscene place hlocated, hother.dumps scene hscene place hlocated]
  · push Not at hdump
    have hwritten : ∀ path ∈ config.writtenIn tree, tree.locateFile path ≠ .ok place := by
      refine List.forall_mem_cons.mpr ⟨hreport, ?_⟩
      exact List.forall_mem_map.mpr hdump
    rw [h.kept.entry?_eq place hwritten, hother.kept.entry?_eq place hwritten]

/-! ## One run -/

/-- The summary of a run by which the dumps are written as they can be. -/
def summaryOn (config : Config) (judge : Path → Except DiskError String → OracleAnswer)
    (refusals : Refusals) (tree : FileTree) : RunSummary :=
  config.summary ((config.scenesIn tree).map fun scene => (scene, (refusals.dealt config scene tree).1))
    (config.sidecarsIn tree) (refusals.sidecarOutcomes tree (config.sidecarsIn tree))
    (config.findingsOnTexts judge refusals tree)

/-- What comes of putting the report into its place. -/
def reportPut (config : Config) (judge : Path → Except DiskError String → OracleAnswer)
    (refusals : Refusals) (tree : FileTree) (place : Place) (entry : Option Entry) :
    Except DiskError (Except DiskError Unit) × Option Entry :=
  refusals.put (Run.truncates config.reportMode) place entry
    (reportText (config.findingsOnTexts judge refusals tree)).toUTF8

/-- What a later run makes of the scenes. -/
structure DealtAlike (config : Config) (refusals : Refusals) (tree later : FileTree)
    (dealt : Run.SceneProgress × FileTree) : Prop where
  kept : later.KeptExcept (config.dumpsIn tree) dealt.2
  settled : config.Settled refusals tree dealt.2
  registry : dealt.1.registry = Registry.ofScenes (refusals.readable tree (config.scenesIn tree))
  outcomes : dealt.1.reversedOutcomes.reverse =
    (config.scenesIn tree).map fun scene => (scene, (refusals.dealt config scene tree).1)

namespace Ready

/-- A later run makes of the scenes what the first one made of them. -/
theorem dealtAlike (hready : config.Ready refusals tree) (h : config.Resumes refusals tree later) :
    DealtAlike config refusals tree later (refusals.scenesDealt config (config.scenesIn tree) later) := by
  obtain ⟨hwf, houtside, hmade⟩ := hready
  have hwfLater := h.kept.wellFormed hwf
  obtain ⟨outer, hinto⟩ := leadsInto_of_run_createDirectories hwfLater
    (run_createDirectories_again hmade h.kept.directories)
  have hscenes := houtside.scenesIn_eq hwf h.kept
  have hdumps : config.dumpsIn later = config.dumpsIn tree := by rw [dumpsIn, dumpsIn, hscenes]
  have hapart : later.Apart (config.dumpsIn later) (config.scenesIn later) := by
    rw [hdumps, hscenes]
    intro dump hdump scene hscene hsame
    exact houtside.apart hwf dump hdump scene hscene (h.kept.directories.samePlace_iff.mp hsame)
  obtain ⟨hkept, hregistry, halone⟩ :=
    refusals.scenesDealt_alone hwfLater hinto houtside.extension hapart (List.Perm.refl _)
  have hown := ownDumps hwfLater hinto houtside.extension
  rw [hdumps] at hkept
  rw [hscenes] at hkept hregistry halone hown
  have hlocated := fun scene hscene =>
    h.kept.directories.locateFile_eq_ok_iff.mp (hown.located scene hscene)
  refine ⟨hkept, ⟨?_, ?_⟩, ?_, ?_⟩
  · exact h.kept.trans hkept fun dump hdump => List.mem_cons_of_mem _ hdump
  · intro scene hscene place hplace
    obtain rfl := Except.ok.inj (hplace.symm.trans (hlocated scene hscene))
    rw [halone.dump scene hscene]
    exact (h.dealt scene hscene _ hplace).2
  · rw [hregistry, readable_congr fun scene hscene =>
      houtside.read_eq hwf h.kept (mem_inputsIn_of_mem_scenesIn hscene)]
  · rw [halone.outcomes, List.reverse_nil, List.nil_append]
    apply List.map_congr_left
    intro scene hscene
    rw [(h.dealt scene hscene _ (hlocated scene hscene)).1]

/-- A later run comes to report the same findings with the same summary. -/
theorem run_audit_of_resumes (hready : config.Ready refusals tree)
    (h : config.Resumes refusals tree later) :
    (audit config (Oracle.reading judge) : Restricted refusals _).run later =
      refusals.reported config (config.findingsOnTexts judge refusals tree)
        (config.summaryOn judge refusals tree)
        (refusals.scenesDealt config (config.scenesIn tree) later).2 := by
  have hdealt := hready.dealtAlike h
  obtain ⟨hwf, houtside, hmade⟩ := hready
  have hread : ∀ input ∈ config.inputsIn refusals tree,
      refusals.read (refusals.scenesDealt config (config.scenesIn tree) later).2 input =
        refusals.read tree input :=
    fun input hinput => houtside.read_eq hwf hdealt.settled.kept hinput
  have hsidecars := refusals.sidecarOutcomes_congr fun path hpath =>
    hread path (mem_inputsIn_of_mem_sidecarsIn hpath)
  have hfindings := findingsWith_of_read judge hdealt.registry hread
  rw [hsidecars] at hfindings
  rw [run_audit_of_prepared (run_createDirectories_again hmade h.kept.directories),
    houtside.scenesIn_eq hwf h.kept, houtside.sidecarsIn_eq hwf h.kept]
  simp only [hdealt.outcomes, hsidecars, hfindings]
  rfl

/-- The place of the report is none of a dump. -/
theorem entry?_reportPath (hready : config.Ready refusals tree) (h : config.Resumes refusals tree later)
    (hreport : tree.locateFile config.reportPath = .ok place) :
    FileTree.entry? (refusals.scenesDealt config (config.scenesIn tree) later).2 place =
      later.entry? place := by
  apply (hready.dealtAlike h).kept.entry?_eq
  intro dump hdump hlocated
  have hplace := FileTree.locate_of_locateFile (h.kept.directories.locateFile_eq_ok_iff.mp hlocated)
  exact hready.outside.report dump hdump ⟨place, FileTree.locate_of_locateFile hreport, hplace⟩

/-- As long as the report can be written, a later run gives the same summary. -/
theorem exists_run (hready : config.Ready refusals tree) (h : config.Resumes refusals tree later)
    (hreport : tree.locateFile config.reportPath = .ok place)
    (hput : (config.reportPut judge refusals tree place (later.entry? place)).1 = .ok (.ok ())) :
    ∃ after,
      (audit config (Oracle.reading judge) : Restricted refusals _).run later =
          (.ok (config.summaryOn judge refusals tree), after) ∧
        config.Settled refusals tree after ∧
          after.entry? place = (config.reportPut judge refusals tree place (later.entry? place)).2 := by
  have hdealt := hready.dealtAlike h
  have hentry := hready.entry?_reportPath h hreport
  have hsettled := hdealt.settled
  rw [hready.run_audit_of_resumes h]
  generalize (refusals.scenesDealt config (config.scenesIn tree) later).2 = dumped at *
  obtain ⟨after, hwritten, hupdate⟩ := refusals.rewritten_of_located (Run.truncates config.reportMode)
    (reportText (config.findingsOnTexts judge refusals tree)).toUTF8
    (hsettled.kept.directories.locateFile_eq_ok_iff.mpr hreport)
  have hkept := refusals.keptExcept_rewritten (Run.truncates config.reportMode) config.reportPath
    (reportText (config.findingsOnTexts judge refusals tree)).toUTF8 dumped
  unfold reportPut at hput ⊢
  rw [hentry] at hwritten hupdate
  rw [hwritten] at hkept
  refine ⟨after, ?_, ⟨?_, ?_⟩, hupdate.at_place⟩
  · unfold Refusals.reported
    rw [hwritten]
    simp only [hput]
    rfl
  · apply hsettled.kept.trans hkept
    intro path hpath
    rw [List.mem_singleton.mp hpath]
    exact List.mem_cons_self
  · intro scene hscene other hlocated
    rw [hupdate.elsewhere, hsettled.dumps scene hscene other hlocated]
    rintro rfl
    exact hready.outside.report _ (List.mem_map_of_mem hscene)
      ⟨other, FileTree.locate_of_locateFile hreport, FileTree.locate_of_locateFile hlocated⟩

/-- Where a run gave a summary, the report was written. -/
theorem exists_reportPut (hready : config.Ready refusals tree)
    (hrun : (audit config (Oracle.reading judge) : Restricted refusals _).run tree = (.ok summary, final)) :
    ∃ place, tree.locateFile config.reportPath = .ok place ∧
      (config.reportPut judge refusals tree place (tree.entry? place)).1 = .ok (.ok ()) := by
  have hresumes := Resumes.refl config refusals tree
  have hkept := (hready.dealtAlike hresumes).settled.kept
  rw [hready.run_audit_of_resumes hresumes] at hrun
  obtain ⟨place, hlocated, hput⟩ :=
    Refusals.exists_put_of_rewritten (Refusals.rewritten_of_reported_eq_ok hrun)
  have hreport := hkept.directories.locateFile_eq_ok_iff.mp hlocated
  rw [hready.entry?_reportPath hresumes hreport] at hput
  exact ⟨place, hreport, hput⟩

/-- A run leaves in the place of a dump what the scene's task leaves there. -/
theorem read_dump (hready : config.Ready refusals tree) (h : config.Settled refusals tree later)
    {scene : Path} (hscene : scene ∈ config.scenesIn tree) :
    later.read (config.dumpPath scene) =
      (refusals.dealt config scene tree).2.read (config.dumpPath scene) := by
  obtain ⟨outer, hinto⟩ := leadsInto_of_run_createDirectories hready.wellFormed hready.made
  have hlocated := (ownDumps hready.wellFormed hinto hready.outside.extension).located scene hscene
  have hdealt := refusals.keptExcept_dealt config scene tree
  rw [Refusals.read_of_located (h.kept.directories.locateFile_eq_ok_iff.mpr hlocated),
    Refusals.read_of_located (hdealt.directories.locateFile_eq_ok_iff.mpr hlocated),
    h.dumps scene hscene _ hlocated]

/-! ## Many runs -/

/-- Each run adds a copy of the rows to a report that is appended to. -/
theorem exists_runs (hready : config.Ready refusals tree) (hmode : config.reportMode = .append)
    (hreport : tree.locateFile config.reportPath = .ok place) (count : Nat) {held : ByteArray}
    (h : config.Settled refusals tree later)
    (hput : (config.reportPut judge refusals tree place (later.entry? place)).1 = .ok (.ok ()))
    (hheld : Refusals.bytesOf (later.entry? place) = .ok held) :
    ∃ last,
      (audits config (Oracle.reading judge) count : Restricted refusals _).run later =
          (List.replicate count (.ok (config.summaryOn judge refusals tree)), last) ∧
        config.Settled refusals tree last ∧
          Refusals.bytesOf (last.entry? place) =
            .ok (held ++ (String.join (List.replicate count
              (reportText (config.findingsOnTexts judge refusals tree)))).toUTF8) := by
  induction count generalizing later held with
  | zero => exact ⟨later, rfl, h, by simpa using hheld⟩
  | succ count ih =>
      obtain ⟨after, hafter, hsettled, hentry⟩ := hready.exists_run (h.resumes hready) hreport hput
      have hagain : (config.reportPut judge refusals tree place (after.entry? place)).1 = .ok (.ok ()) := by
        rw [hentry]
        exact Refusals.put_again hput
      have hbytes : Refusals.bytesOf (after.entry? place) =
          .ok (held ++ (reportText (config.findingsOnTexts judge refusals tree)).toUTF8) := by
        rw [hentry, reportPut, Refusals.bytesOf_put hput, hheld, hmode]
        rfl
      obtain ⟨last, hlast, hsettledLast, hheldLast⟩ := ih hsettled hagain hbytes
      refine ⟨last, ?_, hsettledLast, ?_⟩
      · rw [audits, run_bind, hafter, run_bind, hlast]
        rfl
      · rw [hheldLast, List.replicate_succ, toUTF8_join_cons, ByteArray.append_assoc]

end Ready

end Config

section

variable {config : Config} {refusals : Refusals} {judge : Path → Except DiskError String → OracleAnswer}
  {tree final : FileTree} {summary : RunSummary}

/-- Once the output directory has been made, a run does the same as before. -/
theorem run_audit_prepared
    (hrun : (audit config (Oracle.reading judge) : Restricted refusals _).run tree = (.ok summary, final)) :
    (Disk.createDirectories config.outputDir : Restricted refusals _).run (config.prepared refusals tree) =
        (.ok (), config.prepared refusals tree) ∧
      (audit config (Oracle.reading judge) : Restricted refusals _).run (config.prepared refusals tree) =
        (.ok summary, final) := by
  have hprepared := prepared_of_run_audit hrun
  have hmade := run_createDirectories_again hprepared ⟨rfl, fun _ => Iff.rfl⟩
  refine ⟨hmade, ?_⟩
  rw [← hrun, run_audit_of_prepared hprepared, run_audit_of_prepared hmade]

/-- Where the report can be written there was before what there is now. -/
theorem entry?_prepared {place : Place}
    (hput : (config.reportPut judge refusals (config.prepared refusals tree) place
      (FileTree.entry? (config.prepared refusals tree) place)).1 = .ok (.ok ())) :
    FileTree.entry? (config.prepared refusals tree) place = tree.entry? place := by
  obtain ⟨-, -, hdirectory, -⟩ := (refusals.put_eq_ok_iff).mp hput
  rcases entry?_run_createDirectories refusals config.outputDir tree place with hsame | hmade
  · exact hsame
  · exact absurd hmade hdirectory

/-- What has become of the files after so many runs that append to the report. -/
structure Config.Accumulates (config : Config) (tree : FileTree) (text : String) (before : ByteArray)
    (count : Nat) (once last : FileTree) : Prop where
  report : last.read config.reportPath =
    .ok (before ++ (String.join (List.replicate count text)).toUTF8)
  dumps : ∀ dump ∈ config.dumpsIn tree, last.read dump = once.read dump
  /-- Nor has anything else changed since the first run. -/
  elsewhere : once.KeptExcept [config.reportPath] last

/-- **Running again changes nothing**, apart from a report that is appended to: it holds what
it held in the beginning and a copy of the rows for each run.  Which dumps there are, and
where they and the report lie, is asked of the tree in which the scenes are looked for. -/
theorem rerun_idempotent (hwf : tree.WellFormed)
    (houtside : config.WritesOutside (config.prepared refusals tree))
    (hrun : (audit config (Oracle.reading judge) : Restricted refusals _).run tree = (.ok summary, final)) :
    summary.findings = .tally (config.findingsOnTexts judge refusals (config.prepared refusals tree)) ∧
      (config.reportMode = .truncate →
        ∃ again,
          (audit config (Oracle.reading judge) : Restricted refusals _).run final = (.ok summary, again) ∧
            FileTree.SameContents final again) ∧
        (config.reportMode = .append →
          ∃ place, final.locateFile config.reportPath = .ok place ∧
            ∀ count, ∃ last,
              (audits config (Oracle.reading judge) (count + 1) : Restricted refusals _).run tree =
                  (List.replicate (count + 1) (.ok summary), last) ∧
                config.Accumulates (config.prepared refusals tree)
                  (reportText (config.findingsOnTexts judge refusals (config.prepared refusals tree)))
                  (Refusals.kept false (Refusals.bytesOf (tree.entry? place))) (count + 1) final last) := by
  obtain ⟨hmade, hrunPrepared⟩ := run_audit_prepared hrun
  have hready : config.Ready refusals (config.prepared refusals tree) :=
    ⟨Config.wellFormed_prepared config refusals hwf, houtside, hmade⟩
  obtain ⟨place, hreport, hput⟩ := hready.exists_reportPut hrunPrepared
  obtain ⟨after, hafter, hsettled, hentry⟩ := hready.exists_run (.refl config refusals _) hreport hput
  obtain ⟨hsummary, rfl⟩ := Prod.mk.inj (hrunPrepared.symm.trans hafter)
  obtain rfl := Except.ok.inj hsummary
  have hagain : (config.reportPut judge refusals (config.prepared refusals tree) place
      (final.entry? place)).1 = .ok (.ok ()) := by
    rw [hentry]
    exact Refusals.put_again hput
  refine ⟨rfl, ?_, ?_⟩
  · intro hmode
    obtain ⟨again, hrunAgain, hsettledAgain, hentryAgain⟩ :=
      hready.exists_run (hsettled.resumes hready) hreport hagain
    refine ⟨again, hrunAgain, (hsettled.keptExcept hsettledAgain).sameContents
      (hsettled.kept.directories.locateFile_eq_ok_iff.mpr hreport) ?_⟩
    rw [hentryAgain, hentry]
    unfold Config.reportPut
    rw [hmode]
    exact congrArg Prod.snd (refusals.put_put _ _ _)
  · intro hmode
    have hinitial := entry?_prepared hput
    have hbytes : Refusals.bytesOf (final.entry? place) =
        .ok (Refusals.kept false (Refusals.bytesOf (tree.entry? place)) ++ (reportText
          (config.findingsOnTexts judge refusals (config.prepared refusals tree))).toUTF8) := by
      rw [hentry, Config.reportPut, Refusals.bytesOf_put hput, hinitial, hmode]
      rfl
    refine ⟨place, hsettled.kept.directories.locateFile_eq_ok_iff.mpr hreport, ?_⟩
    intro count
    obtain ⟨last, hlast, hsettledLast, hheld⟩ :=
      hready.exists_runs hmode hreport count hsettled hagain hbytes
    refine ⟨last, ?_, ?_, ?_, hsettled.keptExcept hsettledLast⟩
    · rw [audits, run_bind, hrun, run_bind, hlast]
      rfl
    · rw [Refusals.read_of_located (hsettledLast.kept.directories.locateFile_eq_ok_iff.mpr hreport), hheld,
        List.replicate_succ, toUTF8_join_cons, ByteArray.append_assoc]
    · intro dump hdump
      obtain ⟨scene, hscene, rfl⟩ := List.mem_map.mp hdump
      rw [hready.read_dump hsettled hscene, hready.read_dump hsettledLast hscene]

end

/-! ## A project that is gone over again -/

namespace BrokenScene

/-- The configuration of the project with this mode. -/
def reporting (mode : ReportMode) : Config :=
  { config with reportMode := mode }

theorem writesOutside_project (mode : ReportMode) : (reporting mode).WritesOutside project := by
  have hlaid := isLaidOut_project
  have hslash : '/' ∉ config.dumpExtension.toList := by decide
  have hname : Path.IsName config.reportFileName := by decide
  refine @Config.WritesOutside.of_leadsInto (reporting mode) project hlaid.wellFormed _ _ _
    hlaid.leadsInto_output hslash hname hlaid.leadsInto_scenes hlaid.leadsInto_scripts (by decide)
    (by decide) ?_
  intro scene hscene hname
  have hlast := congrArg (fun name => name.toList.getLast?) hname
  simp [Config.dumpName, reporting, config] at hlast

theorem exists_summary_reporting (mode : ReportMode)
    (judge : Path → Except DiskError String → OracleAnswer) :
    ∃ summary final, (audit (reporting mode) (Oracle.reading judge) : Restricted .nothing _).run project =
      (.ok summary, final) := by
  have hlaid := isLaidOut_project
  exact SceneAudit.exists_summary hlaid.run_createDirectories hlaid.locateFile_report (by simp [hlaid.report])
    (by simp [hlaid.report]) hlaid.locateFile_dump_ne rfl fun _ => rfl

theorem rerun_of_project :
    project.WellFormed ∧
      (∀ mode, (reporting mode).WritesOutside ((reporting mode).prepared .nothing project)) ∧
        (∃ summary final again,
          (audit (reporting .truncate) Oracle.ofDisk : Restricted .nothing _).run project =
              (.ok summary, final) ∧
            (audit (reporting .truncate) Oracle.ofDisk : Restricted .nothing _).run final =
                (.ok summary, again) ∧
              FileTree.SameContents final again) ∧
          ∃ summary final last,
            (audit (reporting .append) Oracle.ofDisk : Restricted .nothing _).run project =
                (.ok summary, final) ∧
              (audits (reporting .append) Oracle.ofDisk 2 : Restricted .nothing _).run project =
                  ([.ok summary, .ok summary], last) ∧
                final.KeptExcept [(reporting .append).reportPath] last := by
  have hlaid := isLaidOut_project
  have houtside : ∀ mode, (reporting mode).WritesOutside ((reporting mode).prepared .nothing project) := by
    intro mode
    have hprepared : (reporting mode).prepared .nothing project = project := hlaid.prepared_eq
    rw [hprepared]
    exact writesOutside_project mode
  rw [Oracle.ofDisk_eq_reading]
  refine ⟨hlaid.wellFormed, houtside, ?_, ?_⟩
  · obtain ⟨summary, final, hrun⟩ := exists_summary_reporting .truncate Oracle.judgeOutline
    obtain ⟨again, hagain, hsame⟩ := (rerun_idempotent hlaid.wellFormed (houtside .truncate) hrun).2.1 rfl
    exact ⟨summary, final, again, hrun, hagain, hsame⟩
  · obtain ⟨summary, final, hrun⟩ := exists_summary_reporting .append Oracle.judgeOutline
    obtain ⟨place, -, hruns⟩ := (rerun_idempotent hlaid.wellFormed (houtside .append) hrun).2.2 rfl
    obtain ⟨last, hlast, haccumulates⟩ := hruns 1
    exact ⟨summary, final, last, hrun, hlast, haccumulates.elsewhere⟩

end BrokenScene

end SceneAudit
