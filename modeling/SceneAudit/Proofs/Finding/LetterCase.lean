import SceneAudit.Proofs.Finding.CrossReference
import SceneAudit.Proofs.Registry.LetterCase

/-!
# Guids in any letter case

A guid may be written in any letter case, in the scenes and in the sidecars: the counts, the
answers of the registry and the findings stay the same (`guids_match_in_any_letterCase`).

In a sidecar the case of the letters behind `guid:` does not matter if there is a guid
(`Sidecar.RecasedLine`); if there is none, the finding quotes the line, and the quote shows it.
The key itself is case sensitive, in sidecars and in scenes.
-/

namespace SceneAudit

open Text

/-! ## Sidecars -/

namespace Sidecar

/-- The lines are equal, or both are `guid:` lines that a guid is read from and that are equal but
for the case of the letters behind the key.  So the letters of the guid may differ in case. -/
inductive RecasedLine : String → String → Prop
  | same (line : String) : RecasedLine line line
  | guid {rest other : List Char} {target : Guid}
      (hguid : Reference.guid (some (String.ofList (trimEnd (guidKey.toList ++ rest)))) =
        .resolved target)
      (hrest : SameLetters rest other) :
      RecasedLine (String.ofList (guidKey.toList ++ rest)) (String.ofList (guidKey.toList ++ other))

/-- Two top-level lines say the same of the asset. -/
structure TopLevelAlike (line other : String) : Prop where
  isGuidLine_eq : guidKey.toList.isPrefixOf line.toList = guidKey.toList.isPrefixOf other.toList
  guid_eq : guidKey.toList.isPrefixOf line.toList = true →
    Reference.guid (some line) = Reference.guid (some other)
  importer_iff : scriptImporter = line ↔ scriptImporter = other

theorem TopLevelAlike.refl (line : String) : TopLevelAlike line line :=
  ⟨rfl, fun _ => rfl, Iff.rfl⟩

/-! ### `guid:` lines -/

theorem isPrefixOf_guidLine (rest : List Char) :
    guidKey.toList.isPrefixOf (String.ofList (guidKey.toList ++ rest)).toList = true := by
  rw [String.toList_ofList, List.isPrefixOf_iff_prefix]
  exact List.prefix_append _ _

theorem scriptImporter_ne_guidLine (rest : List Char) :
    scriptImporter ≠ String.ofList (guidKey.toList ++ rest) := by
  intro heq
  have hprefix := isPrefixOf_guidLine rest
  rw [← heq] at hprefix
  exact absurd hprefix (by decide)

theorem trimEnd_guidLine (rest : List Char) :
    trimEnd (guidKey.toList ++ rest) = guidKey.toList ++ trimEnd rest := by
  have hblank : isBlank ':' = false := by decide
  exact trimEnd_append_cons hblank "guid".toList rest

/-- A `guid:` line is at the top level. -/
theorem topLevel?_guidLine (rest : List Char) :
    topLevel? (String.ofList (guidKey.toList ++ rest)) =
      some (String.ofList (guidKey.toList ++ trimEnd rest)) := by
  have hsolid : ¬ isIndented (guidKey.toList ++ rest) = true := Bool.false_ne_true
  rw [topLevel?, String.toList_ofList, if_neg hsolid, trimEnd_guidLine]

/-- A guid is read alike with its letters in other case. -/
theorem topLevelAlike_guidLine {rest other : List Char} {target : Guid}
    (hguid : Reference.guid (some (String.ofList (guidKey.toList ++ rest))) = .resolved target)
    (hrest : SameLetters rest other) :
    TopLevelAlike (String.ofList (guidKey.toList ++ rest))
      (String.ofList (guidKey.toList ++ other)) := by
  have hother : Reference.guid (some (String.ofList (guidKey.toList ++ other))) =
      .resolved target := by
    apply Reference.guid_eq_resolved_of_sameLetters _ hguid
    rw [String.toList_ofList, String.toList_ofList]
    exact hrest.append_left guidKey.toList
  constructor
  · rw [isPrefixOf_guidLine, isPrefixOf_guidLine]
  · intro _
    rw [hguid, hother]
  · exact iff_of_false (scriptImporter_ne_guidLine rest) (scriptImporter_ne_guidLine other)

/-! ### All lines -/

theorem topLevel_recased {text other : String}
    (h : List.Forall₂ RecasedLine (lines text) (lines other)) :
    List.Forall₂ TopLevelAlike (topLevel text) (topLevel other) := by
  unfold topLevel
  generalize lines text = first at h
  generalize lines other = second at h
  induction h with
  | nil => exact .nil
  | cons hline _ ih =>
      cases hline with
      | same line =>
          rw [List.filterMap_cons, List.filterMap_cons]
          split
          · exact ih
          · exact .cons (.refl _) ih
      | guid hguid hrest =>
          -- neither line is indented, so both are there, without their trailing blanks
          rw [trimEnd_guidLine] at hguid
          simp only [List.filterMap_cons, topLevel?_guidLine]
          exact .cons (topLevelAlike_guidLine hguid hrest.trimEnd) ih

theorem guid_find?_eq {first second : List String} (h : List.Forall₂ TopLevelAlike first second) :
    Reference.guid (first.find? fun line => guidKey.toList.isPrefixOf line.toList) =
      Reference.guid (second.find? fun line => guidKey.toList.isPrefixOf line.toList) := by
  induction h with
  | nil => rfl
  | @cons line other first second hline _ ih =>
      rw [List.find?_cons, List.find?_cons, ← hline.isGuidLine_eq]
      cases hprefix : guidKey.toList.isPrefixOf line.toList with
      | true => exact hline.guid_eq hprefix
      | false => exact ih

theorem mem_scriptImporter_iff {first second : List String}
    (h : List.Forall₂ TopLevelAlike first second) :
    scriptImporter ∈ first ↔ scriptImporter ∈ second := by
  induction h with
  | nil => rfl
  | cons hline _ ih =>
      rw [List.mem_cons, List.mem_cons]
      exact or_congr hline.importer_iff ih

/-- A sidecar says the same with its guid in other letter case. -/
theorem ofText_recased (path : Path) {text other : String}
    (h : List.Forall₂ RecasedLine (lines text) (lines other)) :
    ofText path text = ofText path other := by
  have htop := topLevel_recased h
  have hguid : Reference.guid (guidLine? text) = Reference.guid (guidLine? other) := guid_find?_eq htop
  have hasset : (topLevel text).contains scriptImporter = (topLevel other).contains scriptImporter := by
    rw [Bool.eq_iff_iff, List.contains_iff_mem, List.contains_iff_mem, mem_scriptImporter_iff htop]
  rw [ofText_eq, ofText_eq, hguid, hasset]

end Sidecar

/-! ## Files -/

/-- The files have the same path, and their lines are related one by one. -/
structure TextFile.LinesRelated (r : String → String → Prop) (file other : TextFile) : Prop where
  path_eq : file.path = other.path
  lines : List.Forall₂ r (Text.lines file.text) (Text.lines other.text)

theorem TextFile.LinesRelated.ofText_eq {file other : TextFile}
    (h : LinesRelated Sidecar.RecasedLine file other) :
    Sidecar.ofText file.path file.text = Sidecar.ofText other.path other.text := by
  rw [h.path_eq]
  exact Sidecar.ofText_recased other.path h.lines

theorem Registry.lowered_offeredBy {scenes others : List TextFile}
    (h : List.Forall₂ (TextFile.LinesRelated Scene.RecasedLine) scenes others) :
    (offeredBy scenes).map Usage.lowered = (offeredBy others).map Usage.lowered := by
  unfold offeredBy
  induction h with
  | nil => rfl
  | @cons scene other scenes others hscene _ ih =>
      have hlowered : ∀ scene : TextFile,
          ((Scene.ofDocument scene.text).scripts.map (Usage.mk scene.path)).map Usage.lowered =
            ((Scene.ofDocument scene.text).scripts.map Script.lowered).map (Usage.mk scene.path) := by
        intro scene
        rw [List.map_map, List.map_map]
        rfl
      rw [List.flatMap_cons, List.flatMap_cons, List.map_append, List.map_append, ih, hlowered,
        hlowered, Scene.scripts_recased hscene.lines, hscene.path_eq]

theorem TextFile.map_ofText_eq {sidecars others : List TextFile}
    (h : List.Forall₂ (LinesRelated Sidecar.RecasedLine) sidecars others) :
    (sidecars.map fun sidecar => Sidecar.ofText sidecar.path sidecar.text) =
      others.map fun sidecar => Sidecar.ofText sidecar.path sidecar.text := by
  induction h with
  | nil => rfl
  | cons hsidecar _ ih => rw [List.map_cons, List.map_cons, hsidecar.ofText_eq, ih]

/-- **Guids are matched regardless of letter case.**  In the scenes and in the sidecars they may be
written in any: as many components are registered, the registry gives the same answers, and the
findings are the same, whatever the oracle answers and wherever it looks for the answer. -/
theorem guids_match_in_any_letterCase {scenes otherScenes sidecars otherSidecars : List TextFile}
    (hscenes : List.Forall₂ (TextFile.LinesRelated Scene.RecasedLine) scenes otherScenes)
    (hsidecars : List.Forall₂ (TextFile.LinesRelated Sidecar.RecasedLine) sidecars otherSidecars) :
    List.Forall₂
        (fun scene other => ∀ registry otherRegistry : Registry,
          (registry.extend scene.path (Scene.ofDocument scene.text).scripts).2 =
            (otherRegistry.extend other.path (Scene.ofDocument other.text).scripts).2)
        scenes otherScenes ∧
      (Registry.ofScenes scenes).freeze.AgreesButQuotes (Registry.ofScenes otherScenes).freeze ∧
        ∀ {m : Type → Type} [Monad m] (oracle : Path → m OracleAnswer),
          crossReference (Registry.ofScenes scenes).freeze oracle
              (sidecars.map fun sidecar => Sidecar.ofText sidecar.path sidecar.text) =
            crossReference (Registry.ofScenes otherScenes).freeze oracle
              (otherSidecars.map fun sidecar => Sidecar.ofText sidecar.path sidecar.text) := by
  have hagrees : (Registry.ofScenes scenes).freeze.AgreesButQuotes
      (Registry.ofScenes otherScenes).freeze := by
    rw [Registry.ofScenes_eq_recordAll, Registry.ofScenes_eq_recordAll]
    exact Registry.freeze_recordAll_lowered (Registry.lowered_offeredBy hscenes)
  refine ⟨?_, hagrees, ?_⟩
  · apply hscenes.imp
    intro scene other hscene registry otherRegistry
    rw [Registry.extend_snd, Registry.extend_snd]
    exact Script.countP_guid_eq (Scene.scripts_recased hscene.lines) Option.isSome
  · intro m _ oracle
    -- the sidecars are read as the same ones, and a registry is only asked what it contains
    have hclassify : Sidecar.classify (Registry.ofScenes scenes).freeze oracle =
        Sidecar.classify (Registry.ofScenes otherScenes).freeze oracle := by
      funext sidecar
      exact Sidecar.classify_congr (fun guid _ => hagrees.contains guid) oracle
    unfold crossReference
    rw [hclassify, TextFile.map_ofText_eq hsidecars]

/-! ## A lever whose guid is written in three ways -/

namespace Lever

/-- The component names no file identifier, so its reference to the asset quotes the guid. -/
def scene : TextFile where
  path := ⟨"Scenes/Hall.unity"⟩
  text := "--- !u!114 &30\nMonoBehaviour:\n  m_Script: \x7bguid: 0FE9, type: 3\x7d\n"

def recasedScene : TextFile where
  path := ⟨"Scenes/Hall.unity"⟩
  text := "--- !u!114 &30\r\nMonoBehaviour:\r\n  m_Script: \x7bguid: 0fE9, type: 3\x7d"

def sidecar : TextFile where
  path := ⟨"Scripts/Lever.cs.meta"⟩
  text := "guid: 0fe9\nMonoImporter:\n  guid: AB\n"

def recasedSidecar : TextFile where
  path := ⟨"Scripts/Lever.cs.meta"⟩
  text := "guid: 0fE9\nMonoImporter:\n  guid: AB\n"

theorem scene_recased : scene.LinesRelated Scene.RecasedLine recasedScene where
  path_eq := rfl
  lines := by
    have hscene : Text.lines scene.text = ["--- !u!114 &30", "MonoBehaviour:",
        String.ofList ("  m_Script".toList ++ ':' :: " \x7bguid: 0FE9, type: 3\x7d".toList)] := by
      decide +kernel
    have hrecased : Text.lines recasedScene.text = ["--- !u!114 &30", "MonoBehaviour:",
        String.ofList ("  m_Script".toList ++ ':' :: " \x7bguid: 0fE9, type: 3\x7d".toList)] := by
      decide +kernel
    rw [hscene, hrecased]
    exact .cons (.same _) (.cons (.same _) (.cons (.script (by decide) (by decide) (by decide)) .nil))

theorem sidecar_recased : sidecar.LinesRelated Sidecar.RecasedLine recasedSidecar where
  path_eq := rfl
  lines := by
    have hsidecar : Text.lines sidecar.text =
        [String.ofList (Sidecar.guidKey.toList ++ " 0fe9".toList), "MonoImporter:", "  guid: AB"] := by
      decide +kernel
    have hrecased : Text.lines recasedSidecar.text =
        [String.ofList (Sidecar.guidKey.toList ++ " 0fE9".toList), "MonoImporter:", "  guid: AB"] := by
      decide +kernel
    have hguid : Reference.guid (some (String.ofList
        (trimEnd (Sidecar.guidKey.toList ++ " 0fe9".toList)))) = .resolved ⟨"0fe9"⟩ := by
      decide
    rw [hsidecar, hrecased]
    exact .cons (.guid hguid (by decide)) (.cons (.same _) (.cons (.same _) .nil))

theorem findings_recased :
    (List.Forall₂ (TextFile.LinesRelated Scene.RecasedLine) [scene] [recasedScene] ∧
        List.Forall₂ (TextFile.LinesRelated Sidecar.RecasedLine) [sidecar] [recasedSidecar]) ∧
      (Registry.ofScenes [scene]).freeze.AgreesButQuotes (Registry.ofScenes [recasedScene]).freeze ∧
        findingsOn [scene] (fun _ => .ok false) [sidecar] =
          findingsOn [recasedScene] (fun _ => .ok false) [recasedSidecar] := by
  have hscenes : List.Forall₂ (TextFile.LinesRelated Scene.RecasedLine) [scene] [recasedScene] :=
    .cons scene_recased .nil
  have hsidecars : List.Forall₂ (TextFile.LinesRelated Sidecar.RecasedLine) [sidecar]
      [recasedSidecar] :=
    .cons sidecar_recased .nil
  obtain ⟨-, hagrees, hfindings⟩ := guids_match_in_any_letterCase hscenes hsidecars
  exact ⟨⟨hscenes, hsidecars⟩, hagrees, hfindings (m := Id) fun _ => .ok false⟩

end Lever

end SceneAudit
