import SceneAudit.Proofs.FileTree.Making
import SceneAudit.Proofs.Run.Scenes

/-!
# Inputs and dumps

A run looks for scenes and sidecars once the output directory is there (`Config.prepared`).
All of its inputs have places (`exists_locate_of_mem_inputsIn`), so they are read as in
the beginning for as long as no file is put in one of these places
(`read_eq_of_keptExcept`).

The dumps are named after the scenes, which lie in one directory, and all go into
another: as long as their extension has no slash, each has a place of its own
(`ownDumps`).
-/

namespace SceneAudit

open SceneAudit.Path (IsStep IsName)

namespace Config

variable (config : Config)

/-! ## The files of a run -/

def scenesIn (tree : FileTree) : List Path :=
  tree.discovered false config.scenesPath config.sceneExtension

def sidecarsIn (tree : FileTree) : List Path :=
  tree.discovered true config.scriptsPath Sidecar.fileExtension

/-- The sidecars that can be read. -/
def loadedIn (refusals : Refusals) (tree : FileTree) : List Sidecar :=
  (refusals.readable tree (config.sidecarsIn tree)).map fun file => Sidecar.ofText file.path file.text

/-- The sources of script assets, whether or not there is anything. -/
def sourcesIn (refusals : Refusals) (tree : FileTree) : List Path :=
  ((config.loadedIn refusals tree).filter Sidecar.isScriptAsset).map Sidecar.sourcePath

def inputsIn (refusals : Refusals) (tree : FileTree) : List Path :=
  config.scenesIn tree ++ config.sidecarsIn tree ++ config.sourcesIn refusals tree

def dumpsIn (tree : FileTree) : List Path :=
  (config.scenesIn tree).map config.dumpPath

/-- The files that a run writes. -/
def writtenIn (tree : FileTree) : List Path :=
  config.reportPath :: config.dumpsIn tree

/-- The tree in which a run looks for its files: the output directory has been made. -/
def prepared (refusals : Refusals) (tree : FileTree) : FileTree :=
  ((Disk.createDirectories config.outputDir : Restricted refusals _).run tree).2

variable {config} {refusals : Refusals} {tree : FileTree}

theorem mem_inputsIn_of_mem_scenesIn {scene : Path} (h : scene ∈ config.scenesIn tree) :
    scene ∈ config.inputsIn refusals tree :=
  List.mem_append_left _ (List.mem_append_left _ h)

theorem mem_inputsIn_of_mem_sidecarsIn {sidecar : Path} (h : sidecar ∈ config.sidecarsIn tree) :
    sidecar ∈ config.inputsIn refusals tree :=
  List.mem_append_left _ (List.mem_append_right _ h)

theorem sourcePath_mem_inputsIn {sidecar : Sidecar} (h : sidecar ∈ config.loadedIn refusals tree)
    (hasset : sidecar.isScriptAsset = true) : sidecar.sourcePath ∈ config.inputsIn refusals tree :=
  List.mem_append_right _ (List.mem_map_of_mem (List.mem_filter.mpr ⟨h, hasset⟩))

theorem wellFormed_prepared (config : Config) (refusals : Refusals) (hwf : tree.WellFormed) :
    (config.prepared refusals tree).WellFormed :=
  Restricted.wellFormed_run_createDirectories hwf

/-! ## Where the inputs are -/

theorem exists_of_mem_scenesIn (hwf : tree.WellFormed) {scene : Path} (h : scene ∈ config.scenesIn tree) :
    ∃ name, IsName name ∧ scene = config.scenesPath.join name := by
  obtain ⟨place, names, contents, -, -, hdepth, hentry, rfl⟩ :=
    FileTree.mem_files_iff.mp (FileTree.mem_discovered_iff.mp h).1
  obtain ⟨name, rfl⟩ := List.length_eq_one_iff.mp (hdepth.resolve_left (by simp))
  refine ⟨name, hwf.isName name place ?_, rfl⟩
  show tree.entry? ([name].reverse ++ place) ≠ none
  rw [hentry]
  simp

/-- The source of a sidecar that was read lies one step on from the sidecar's directory. -/
theorem exists_locate_of_mem_sourcesIn (hwf : tree.WellFormed) {source : Path}
    (h : source ∈ config.sourcesIn refusals tree) :
    ∃ outer front step, tree.locate config.scriptsPath = .ok outer ∧ tree.IsDirectory outer ∧ front ≠ [] ∧
      tree.IsDirectory (front ++ outer).tail ∧
        tree.locate source = .ok (FileTree.descend (front ++ outer).tail step) := by
  obtain ⟨sidecar, hsidecar, rfl⟩ := List.mem_map.mp h
  obtain ⟨file, hfile, rfl⟩ := List.mem_map.mp (List.mem_filter.mp hsidecar).1
  have hfound := (refusals.mem_readable_iff.mp hfile).1
  obtain ⟨outer, front, -, hinto, hne, -, hentry, -⟩ := FileTree.isEntryPath_of_mem_discovered hwf hfound
  obtain ⟨step, hsource⟩ := hentry.exists_locate_sourcePath (Sidecar.path_ofText file.path file.text)
  exact ⟨outer, front, step, FileTree.locate_of_mem_discovered hfound hinto, hinto.directory, hne,
    hentry.isDirectory_tail, hsource⟩

theorem exists_locate_of_mem_inputsIn (hwf : tree.WellFormed) {input : Path}
    (h : input ∈ config.inputsIn refusals tree) : ∃ place, tree.locate input = .ok place := by
  rcases List.mem_append.mp h with hread | hsource
  · rcases List.mem_append.mp hread with hscene | hsidecar
    · exact hwf.exists_locate_of_mem_discovered hscene
    · exact hwf.exists_locate_of_mem_discovered hsidecar
  · obtain ⟨_, _, _, -, -, -, -, hlocate⟩ := exists_locate_of_mem_sourcesIn hwf hsource
    exact ⟨_, hlocate⟩

end Config

/-! ## Inputs that no file is put in place of -/

/-- None of the files to be written is one of the inputs. -/
def FileTree.Apart (tree : FileTree) (written inputs : List Path) : Prop :=
  ∀ path ∈ written, ∀ input ∈ inputs, ¬ tree.SamePlace path input

/-- Once the output directory is there, none of the dumps is one of the inputs. -/
def Config.Spares (config : Config) (inputs : FileTree → List Path) (refusals : Refusals)
    (tree : FileTree) : Prop :=
  (config.prepared refusals tree).Apart (config.dumpsIn (config.prepared refusals tree))
    (inputs (config.prepared refusals tree))

theorem Refusals.read_eq_of_keptExcept {refusals : Refusals} {tree later : FileTree}
    {written inputs : List Path} {input : Path} {place : Place} (hapart : tree.Apart written inputs)
    (hkept : tree.KeptExcept written later) (hinput : input ∈ inputs)
    (hlocate : tree.locate input = .ok place) :
    refusals.read later input = refusals.read tree input :=
  refusals.read_congr (hkept.find_eq hlocate fun path hpath => hapart path hpath input hinput)

/-! ## Dumps -/

namespace Config

variable {config : Config} {tree : FileTree}

theorem keptExcept_scenesDealt (config : Config) (refusals : Refusals) (tree : FileTree) :
    tree.KeptExcept (config.dumpsIn tree)
      (refusals.scenesDealt config (config.scenesIn tree) tree).2 :=
  Refusals.keptExcept_foldl_sceneStep (fun _ hscene => List.mem_map_of_mem hscene) (.refl tree _)

theorem isName_extended {name extension : String} (hname : IsName name)
    (hslash : '/' ∉ extension.toList) : IsName (name ++ "." ++ extension) := by
  have htext : (name ++ "." ++ extension).toList = name.toList ++ '.' :: extension.toList := by simp
  obtain ⟨c, cs, hcs⟩ := List.exists_cons_of_ne_nil hname.1.toList_ne_nil
  refine ⟨⟨?_, ?_⟩, ?_, ?_⟩
  · intro h
    rw [h] at htext
    simp at htext
  · rw [htext, List.mem_append, List.mem_cons]
    rintro (h | h | h)
    · exact hname.1.2 h
    · exact absurd h (by decide)
    · exact hslash h
  · intro h
    rw [h, hcs] at htext
    simp at htext
  · intro h
    rw [h, hcs] at htext
    obtain ⟨rfl, hrest⟩ := List.cons.inj htext
    -- a dot behind the first character leaves room for nothing else
    cases cs with
    | nil => exact hname.2.1 (String.toList_injective hcs)
    | cons d ds => simp at hrest

theorem dumpName_join (path : Path) {name : String} (hname : IsName name) :
    config.dumpName (path.join name) = name ++ "." ++ config.dumpExtension := by
  rw [dumpName, Path.fileName?_join path hname]
  rfl

theorem isName_dumpName (hwf : tree.WellFormed) (hslash : '/' ∉ config.dumpExtension.toList) {scene : Path}
    (h : scene ∈ config.scenesIn tree) : IsName (config.dumpName scene) := by
  obtain ⟨name, hname, rfl⟩ := exists_of_mem_scenesIn hwf h
  rw [dumpName_join _ hname]
  exact isName_extended hname hslash

/-- Dumps are named as different as their scenes. -/
theorem pairwise_dumpName (hwf : tree.WellFormed) :
    (config.scenesIn tree).Pairwise fun first second => config.dumpName first ≠ config.dumpName second := by
  refine (FileTree.ascending_discovered hwf _ _ _).imp_of_mem ?_
  intro first second hfirst hsecond hlt heq
  obtain ⟨name₁, hname₁, rfl⟩ := exists_of_mem_scenesIn hwf hfirst
  obtain ⟨name₂, hname₂, rfl⟩ := exists_of_mem_scenesIn hwf hsecond
  rw [dumpName_join _ hname₁, dumpName_join _ hname₂, String.append_left_inj,
    String.append_left_inj] at heq
  have hself : compare (config.scenesPath.join name₂) (config.scenesPath.join name₂) = .eq :=
    Std.ReflCmp.compare_self
  rw [heq, hself] at hlt
  exact absurd hlt (by simp)

/-- No two scenes have dumps with equal paths. -/
theorem pairwise_dumpPath (hwf : tree.WellFormed) (hslash : '/' ∉ config.dumpExtension.toList) :
    (config.scenesIn tree).Pairwise fun first second =>
      compare (config.dumpPath first) (config.dumpPath second) ≠ .eq := by
  refine (pairwise_dumpName hwf).imp_of_mem ?_
  intro first second hfirst hsecond hne heq
  rw [Path.compare_eq_eq_iff, dumpPath, dumpPath,
    Path.components_join _ (isName_dumpName hwf hslash hfirst),
    Path.components_join _ (isName_dumpName hwf hslash hsecond)] at heq
  have hlast := List.append_cancel_left heq
  rw [List.cons.injEq, Path.Component.name.injEq] at hlast
  exact hne hlast.1

theorem ownDumps (hwf : tree.WellFormed) {outer : Place} (hinto : tree.LeadsInto config.outputDir outer)
    (hslash : '/' ∉ config.dumpExtension.toList) :
    Refusals.OwnDumps config tree (config.scenesIn tree) fun scene => config.dumpName scene :: outer where
  located _ hscene := hinto.locateFile_join (isName_dumpName hwf hslash hscene)
  distinct := (pairwise_dumpName hwf).imp fun hne heq => hne (List.cons.inj heq).1

/-- Dumps are apart from all inputs if they go to another directory than the scenes lie in,
and neither around nor inside the one of the scripts. -/
theorem apart_of_outside (hwf : tree.WellFormed) {outer scenes scripts : Place}
    (hinto : tree.LeadsInto config.outputDir outer) (hslash : '/' ∉ config.dumpExtension.toList)
    (hscenes : tree.LeadsInto config.scenesPath scenes)
    (hscripts : tree.LeadsInto config.scriptsPath scripts) (hne : outer ≠ scenes)
    (hinside : ¬ scripts <:+ outer) (haround : ¬ outer <:+ scripts) :
    tree.Apart (config.dumpsIn tree) (config.inputsIn refusals tree) := by
  have hcomparable : ∀ {inner : Place}, scripts <:+ inner → ¬ outer <:+ inner := by
    intro inner hscripts houter
    exact (List.suffix_or_suffix_of_suffix hscripts houter).elim hinside haround
  rintro dump hdump input hinput ⟨place, hplace, hlocate⟩
  obtain ⟨scene, hscene, rfl⟩ := List.mem_map.mp hdump
  have hdumpPlace := FileTree.locate_of_locateFile ((ownDumps hwf hinto hslash).located scene hscene)
  obtain rfl := Except.ok.inj (hplace.symm.trans hdumpPlace)
  rcases List.mem_append.mp hinput with hread | hsource
  · rcases List.mem_append.mp hread with hfound | hsidecar
    · obtain ⟨other, front, -, hother, -, hlength, hentry, -⟩ :=
        FileTree.isEntryPath_of_mem_discovered hwf hfound
      obtain ⟨name, rfl⟩ := List.length_eq_one_iff.mp (hlength.resolve_left (by simp))
      have heq := Except.ok.inj (hlocate.symm.trans hentry.locate_eq)
      exact hne ((List.cons.inj heq).2.trans (hother.eq hscenes))
    · obtain ⟨other, front, -, hother, -, -, hentry, -⟩ :=
        FileTree.isEntryPath_of_mem_discovered hwf hsidecar
      have heq := Except.ok.inj (hlocate.symm.trans hentry.locate_eq)
      rw [hother.eq hscripts] at heq
      refine hcomparable ?_ (List.suffix_cons (config.dumpName scene) outer)
      rw [heq]
      exact List.suffix_append front scripts
  · obtain ⟨other, front, step, hother, hdirectory, hfront, -, hstep⟩ :=
      exists_locate_of_mem_sourcesIn hwf hsource
    have heq := Except.ok.inj (hlocate.symm.trans hstep)
    rw [(FileTree.leadsInto_of_locate hother hdirectory).eq hscripts] at heq
    refine hcomparable ?_ (FileTree.suffix_of_descend heq.symm)
    rw [List.tail_append_of_ne_nil hfront]
    exact List.suffix_append front.tail scripts

end Config

/-- In whatever order the scenes are dealt with, each is dealt with as if it were alone. -/
theorem Refusals.scenesDealt_alone (refusals : Refusals) {config : Config} {tree : FileTree}
    (hwf : tree.WellFormed) {outer : Place} (hinto : tree.LeadsInto config.outputDir outer)
    (hslash : '/' ∉ config.dumpExtension.toList)
    (hapart : tree.Apart (config.dumpsIn tree) (config.scenesIn tree)) {scenes : List Path}
    (hperm : scenes.Perm (config.scenesIn tree)) :
    tree.KeptExcept (config.dumpsIn tree) (refusals.scenesDealt config scenes tree).2 ∧
      (refusals.scenesDealt config scenes tree).1.registry =
        Registry.ofScenes (refusals.readable tree scenes) ∧
      refusals.DealtAlone config tree scenes (fun scene => config.dumpName scene :: outer)
        (⟨.empty, []⟩, tree) (refusals.scenesDealt config scenes tree) := by
  have hwritten : ∀ scene ∈ scenes, config.dumpPath scene ∈ config.dumpsIn tree :=
    fun scene hscene => List.mem_map_of_mem (hperm.mem_iff.mp hscene)
  have hread : ∀ scene ∈ scenes, ∀ later, tree.KeptExcept (config.dumpsIn tree) later →
      refusals.read later scene = refusals.read tree scene := by
    intro scene hscene later hkept
    obtain ⟨place, hlocate⟩ := hwf.exists_locate_of_mem_discovered (hperm.mem_iff.mp hscene)
    exact read_eq_of_keptExcept hapart hkept (hperm.mem_iff.mp hscene) hlocate
  have hown := Config.ownDumps hwf hinto hslash
  have hkept := FileTree.KeptExcept.refl tree (config.dumpsIn tree)
  refine ⟨keptExcept_foldl_sceneStep hwritten hkept,
    registry_foldl_sceneStep hwritten hread hkept, ?_⟩
  refine foldl_sceneStep_alone ⟨?_, ?_⟩ hwritten hread hkept fun _ _ => rfl
  · exact fun scene hscene => hown.located scene (hperm.mem_iff.mp hscene)
  · exact hown.distinct.perm hperm.symm fun hne => hne.symm

end SceneAudit
