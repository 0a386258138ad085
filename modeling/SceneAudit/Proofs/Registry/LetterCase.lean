import SceneAudit.Proofs.Registry.Count
import SceneAudit.Proofs.Scene.LetterCase
import SceneAudit.Proofs.Scene.ScriptUse

/-!
# Registries of scenes in other letter case

A script component that was read from a value in other letter case differs in what its
unresolved references quote (`Script.lowered`).  A registry keeps the components under their
guids and orders them by scene and file identifier, so it does not look at the quotes, and
only the usages that it gives back show them (`freeze_recordAll_lowered`).  There they can only
be the quote of the file identifier, since a component without a guid is not kept.
-/

namespace SceneAudit

open Text

/-! ## Components -/

namespace Script

theorem runs_lowered_iff (script : Script) (guid : Guid) :
    script.lowered.Runs guid ↔ script.Runs guid :=
  Reference.lowered_eq_resolved_iff

theorem target?_guid_lowered (script : Script) :
    script.lowered.guid.target? = script.guid.target? :=
  Reference.target?_lowered script.guid

/-- How many components have a guid can be told without their quotes. -/
theorem countP_guid_eq {scripts others : List Script}
    (h : scripts.map lowered = others.map lowered) (p : Option Guid → Bool) :
    (scripts.countP fun script => p script.guid.target?) =
      others.countP fun script => p script.guid.target? := by
  have hlowered : ∀ scripts : List Script,
      (scripts.countP fun script => p script.guid.target?) =
        (scripts.map lowered).countP fun script => p script.guid.target? := by
    intro scripts
    rw [List.countP_map]
    simp only [Function.comp_def, target?_guid_lowered]
  rw [hlowered, h, ← hlowered]

end Script

/-! ## Usages -/

namespace Usage

/-- The usage with what its references to the asset quote in lower case. -/
def lowered (usage : Usage) : Usage :=
  { usage with script := usage.script.lowered }

/-- The usage with what its file identifier quotes in lower case. -/
def fileIdLowered (usage : Usage) : Usage :=
  { usage with script := { usage.script with scriptFileId := usage.script.scriptFileId.lowered } }

theorem fileIdLowered_of_runs {usage : Usage} {guid : Guid} (h : usage.script.Runs guid) :
    usage.fileIdLowered = usage.lowered := by
  have hguid : usage.script.guid.lowered = usage.script.guid := by
    rw [h]
    rfl
  rw [fileIdLowered, lowered, Script.lowered, hguid]

end Usage

namespace Registry

variable {usages others : List Usage}

theorem lowered_usagesOf (guid : Guid) (usages : List Usage) :
    (usagesOf guid usages).map Usage.lowered = usagesOf guid (usages.map Usage.lowered) := by
  have hruns : (fun usage : Usage => decide (usage.script.Runs guid)) ∘ Usage.lowered =
      fun usage => decide (usage.script.Runs guid) := by
    funext usage
    exact decide_eq_decide.mpr (usage.script.runs_lowered_iff guid)
  unfold usagesOf
  rw [List.filter_map, hruns]

theorem runs_of_mem_usages {guid : Guid} {usage : Usage}
    (h : usage ∈ (empty.recordAll usages).freeze.usages guid) : usage.script.Runs guid := by
  rw [usages_freeze_recordAll, List.mem_mergeSort] at h
  simpa using (List.mem_filter.mp h).2

/-- A usage that was kept has a guid, so the file identifier is all that can quote. -/
theorem fileIdLowered_usages (usages : List Usage) (guid : Guid) :
    ((empty.recordAll usages).freeze.usages guid).map Usage.fileIdLowered =
      ((empty.recordAll usages).freeze.usages guid).map Usage.lowered := by
  apply List.map_congr_left
  intro usage husage
  exact Usage.fileIdLowered_of_runs (runs_of_mem_usages husage)

/-- Usages are ordered by what no quote is a part of. -/
theorem lowered_usages (usages : List Usage) (guid : Guid) :
    ((empty.recordAll usages).freeze.usages guid).map Usage.lowered =
      (usagesOf guid (usages.map Usage.lowered)).mergeSort fun a b => (a.compare b).isLE := by
  rw [usages_freeze_recordAll, ← lowered_usagesOf]
  exact List.map_mergeSort fun _ _ _ _ => rfl

end Registry

/-- Two frozen registries give the same answers, but for the letters in what an unresolved file
identifier quotes. -/
structure FrozenRegistry.AgreesButQuotes (first second : FrozenRegistry) : Prop where
  contains : ∀ guid, first.contains guid = second.contains guid
  usages : ∀ guid, (first.usages guid).map Usage.fileIdLowered =
    (second.usages guid).map Usage.fileIdLowered
  guidCount : first.guidCount = second.guidCount
  usageCount : first.usageCount = second.usageCount
  unresolvedCount : first.unresolvedCount = second.unresolvedCount

namespace Registry

variable {usages others : List Usage}

/-- What was recorded shows letter case only in quotes, so only quotes show it. -/
theorem freeze_recordAll_lowered (h : usages.map Usage.lowered = others.map Usage.lowered) :
    (empty.recordAll usages).freeze.AgreesButQuotes (empty.recordAll others).freeze := by
  have hcontains : ∀ guid, (empty.recordAll usages).freeze.contains guid =
      (empty.recordAll others).freeze.contains guid := by
    intro guid
    have hnil : usagesOf guid usages = [] ↔ usagesOf guid others = [] := by
      rw [← List.map_eq_nil_iff, lowered_usagesOf, h, ← lowered_usagesOf, List.map_eq_nil_iff]
    rw [Bool.eq_iff_iff, contains_freeze, contains_freeze, contains_recordAll, contains_recordAll,
      ne_eq, ne_eq, hnil]
  have hlowered : ∀ guid, ((empty.recordAll usages).freeze.usages guid).map Usage.lowered =
      ((empty.recordAll others).freeze.usages guid).map Usage.lowered := by
    intro guid
    rw [lowered_usages, lowered_usages, h]
  have hlength : ∀ guid, ((empty.recordAll usages).freeze.usages guid).length =
      ((empty.recordAll others).freeze.usages guid).length := by
    intro guid
    simpa only [List.length_map] using congrArg List.length (hlowered guid)
  have hscripts : (usages.map Usage.script).map Script.lowered =
      (others.map Usage.script).map Script.lowered := by
    have hboth := congrArg (List.map Usage.script) h
    rw [List.map_map, List.map_map] at hboth ⊢
    exact hboth
  obtain ⟨hguidCount, husageCount⟩ := FrozenRegistry.counts_eq hcontains hlength
  refine ⟨hcontains, ?_, hguidCount, husageCount, ?_⟩
  · intro guid
    rw [fileIdLowered_usages, fileIdLowered_usages, hlowered]
  · show (empty.recordAll usages).unresolved = (empty.recordAll others).unresolved
    have hcount := Script.countP_guid_eq hscripts Option.isNone
    rw [List.countP_map, List.countP_map] at hcount
    rw [unresolved_recordAll, unresolved_recordAll]
    exact congrArg (empty.unresolved + ·) hcount

/-! ## Scenes -/

/-- The components that the scenes offer. -/
def offeredBy (scenes : List TextFile) : List Usage :=
  scenes.flatMap fun scene => (Scene.ofDocument scene.text).scripts.map (Usage.mk scene.path)

theorem ofScenes_eq_recordAll (scenes : List TextFile) :
    ofScenes scenes = empty.recordAll (offeredBy scenes) := by
  unfold ofScenes offeredBy
  generalize empty = registry
  induction scenes generalizing registry with
  | nil => rfl
  | cons scene scenes ih =>
      rw [List.foldl_cons, ih, extend_eq_recordAll, List.flatMap_cons]
      unfold recordAll
      rw [List.foldl_append]

end Registry

end SceneAudit
