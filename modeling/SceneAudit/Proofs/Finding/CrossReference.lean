import SceneAudit.Finding.CrossReference
import SceneAudit.Proofs.Sidecar.TopLevel
import SceneAudit.Proofs.Scene.ScriptUse
import Mathlib.Data.List.Forall2
import Mathlib.Data.List.ReduceOption

/-!
# What the findings say about scenes and sidecars

The findings are decided by the texts of the scenes and sidecars and by the oracle
(`findingsOn_decided`): what a sidecar says of its asset (`HasScriptImporter`,
`guidOf`), whether a block of a scene uses the script (`IsUsed`), and, only if one
does, what the oracle answers at the path of the source.

* `crossReference_pure`: an oracle that only answers makes the findings a list of
  what each sidecar gives, put in order.
* `isDecided_classify`: what one sidecar gives.
-/

namespace SceneAudit

open Text

namespace Sidecar

/-! ## What a sidecar says of its asset -/

/-- A line that does not start with a blank names the importer of scripts. -/
def HasScriptImporter (text : String) : Prop :=
  ∃ line ∈ lines text, isIndented line.toList = false ∧
    trimEnd line.toList = scriptImporter.toList

/-- The guid in the first `guid:` line that does not start with a blank. -/
def guidOf (text : String) : Reference Guid :=
  Reference.guid (guidLine? text)

theorem path_ofText (path : Path) (text : String) : (ofText path text).path = path := by
  rw [ofText_eq]

theorem guid_ofText (path : Path) (text : String) : (ofText path text).guid = guidOf text := by
  rw [ofText_eq, guidOf]

theorem isScriptAsset_ofText_iff (path : Path) (text : String) :
    (ofText path text).isScriptAsset = true ↔ HasScriptImporter text := by
  rw [ofText_eq, List.contains_iff_mem, topLevel, List.mem_filterMap]
  constructor
  · rintro ⟨line, hline, htop⟩
    obtain ⟨hindented, heq⟩ := Option.ite_none_left_eq_some.mp htop
    refine ⟨line, hline, by simpa using hindented, ?_⟩
    rw [← Option.some.inj heq, String.toList_ofList]
  · rintro ⟨line, hline, hindented, heq⟩
    refine ⟨line, hline, ?_⟩
    rw [topLevel?, if_neg (by simp [hindented]), heq, String.ofList_toList]

/-! ## What one sidecar gives -/

section Classify

variable {registry : FrozenRegistry} {oracle : Path → OracleAnswer} {sidecar : Sidecar}

theorem classify_of_not_isScriptAsset (hasset : ¬ sidecar.isScriptAsset = true) :
    classify (m := Id) registry oracle sidecar = none := by
  unfold classify standing
  rw [if_neg hasset]
  rfl

theorem classify_of_unresolved (hasset : sidecar.isScriptAsset = true) {cause : Unresolved}
    (hguid : sidecar.guid = .unresolved cause) :
    classify (m := Id) registry oracle sidecar =
      some ⟨none, sidecar.path, .inconclusive ("sidecar guid: " ++ cause.message)⟩ := by
  unfold classify standing
  rw [if_pos hasset, hguid]
  rfl

theorem classify_of_not_contains (hasset : sidecar.isScriptAsset = true) {guid : Guid}
    (hguid : sidecar.guid = .resolved guid) (hunused : ¬ registry.contains guid = true) :
    classify (m := Id) registry oracle sidecar =
      some ⟨some guid, sidecar.path, .neverInstantiated⟩ := by
  unfold classify standing
  rw [if_pos hasset, hguid]
  simp only [if_neg hunused]
  rfl

theorem classify_of_contains (hasset : sidecar.isScriptAsset = true) {guid : Guid}
    (hguid : sidecar.guid = .resolved guid) (hused : registry.contains guid = true) :
    classify (m := Id) registry oracle sidecar =
      sidecar.findingOfAnswer guid (oracle sidecar.sourcePath) := by
  unfold classify standing
  rw [if_pos hasset, hguid]
  simp only [if_pos hused]
  rfl

end Classify

end Sidecar

namespace Sidecar

/-- Of a registry, only the answer about the sidecar's own guid counts. -/
theorem standing_congr {registry other : FrozenRegistry} {sidecar : Sidecar}
    (h : ∀ guid, sidecar.guid = .resolved guid → other.contains guid = registry.contains guid) :
    sidecar.standing other = sidecar.standing registry := by
  unfold standing
  cases hguid : sidecar.guid with
  | unresolved cause => rfl
  | resolved guid => simp only [h guid hguid]

theorem classify_congr {registry other : FrozenRegistry} {sidecar : Sidecar}
    (h : ∀ guid, sidecar.guid = .resolved guid → other.contains guid = registry.contains guid)
    {m : Type → Type} [Monad m] (oracle : Path → m OracleAnswer) :
    sidecar.classify other oracle = sidecar.classify registry oracle := by
  unfold classify
  rw [standing_congr h]

end Sidecar

/-! ## All sidecars -/

section Monad

variable {m : Type → Type} [Monad m] [LawfulMonad m]

theorem filterMapM_pure {α β : Type} (f : α → Option β) (as : List α) :
    as.filterMapM (fun a => (pure (f a) : m (Option β))) = pure (as.filterMap f) := by
  induction as with
  | nil => exact List.filterMapM_nil
  | cons a as ih =>
      rw [List.filterMapM_cons, pure_bind, ih]
      cases ha : f a <;> simp [ha]

/-- Where the oracle only answers, each sidecar gives its finding for itself. -/
theorem crossReference_pure (registry : FrozenRegistry) (oracle : Path → OracleAnswer)
    (sidecars : List Sidecar) :
    crossReference registry (fun path => (pure (oracle path) : m OracleAnswer)) sidecars =
      pure (Finding.sort (sidecars.filterMap (Sidecar.classify (m := Id) registry oracle))) := by
  have hclassify : Sidecar.classify registry (fun path => (pure (oracle path) : m OracleAnswer)) =
      fun sidecar => pure (Sidecar.classify (m := Id) registry oracle sidecar) := by
    funext sidecar
    unfold Sidecar.classify
    cases sidecar.standing registry with
    | settled => rfl
    | reported finding => rfl
    | used guid => exact pure_bind _ _
  unfold crossReference
  rw [hclassify, filterMapM_pure, pure_bind]

end Monad

/-- What a sidecar gives where the oracle only answers. -/
def Sidecar.finding? (registry : FrozenRegistry) (oracle : Path → OracleAnswer)
    (sidecar : Sidecar) : Option Finding :=
  sidecar.classify (m := Id) registry oracle

/-- The findings on some sidecars where the oracle only answers. -/
def findingsOf (registry : FrozenRegistry) (oracle : Path → OracleAnswer)
    (sidecars : List Sidecar) : List Finding :=
  crossReference (m := Id) registry oracle sidecars

theorem findingsOf_perm (registry : FrozenRegistry) (oracle : Path → OracleAnswer)
    (sidecars : List Sidecar) :
    (findingsOf registry oracle sidecars).Perm
      (sidecars.filterMap (Sidecar.finding? registry oracle)) := by
  have hsort : findingsOf registry oracle sidecars =
      Finding.sort (sidecars.filterMap (Sidecar.finding? registry oracle)) :=
    crossReference_pure registry oracle sidecars
  rw [hsort]
  exact List.mergeSort_perm _ _

/-! ## Findings on texts -/

/-- The findings on some sidecars, with the scripts of all the scenes registered. -/
def findingsOn (scenes : List TextFile) (oracle : Path → OracleAnswer) (sidecars : List TextFile) :
    List Finding :=
  crossReference (m := Id) (Registry.ofScenes scenes).freeze oracle
    (sidecars.map fun sidecar => Sidecar.ofText sidecar.path sidecar.text)

namespace TextFile

/-- What the text of the sidecar gives with these scenes and this oracle. -/
def finding? (scenes : List TextFile) (oracle : Path → OracleAnswer) (sidecar : TextFile) :
    Option Finding :=
  Sidecar.classify (m := Id) (Registry.ofScenes scenes).freeze oracle
    (Sidecar.ofText sidecar.path sidecar.text)

/-- The path of the source that the sidecar belongs to. -/
def sourcePath (sidecar : TextFile) : Path :=
  (Sidecar.ofText sidecar.path sidecar.text).sourcePath

end TextFile

theorem findingsOn_eq (scenes : List TextFile) (oracle : Path → OracleAnswer)
    (sidecars : List TextFile) :
    findingsOn scenes oracle sidecars =
      Finding.sort (sidecars.filterMap (TextFile.finding? scenes oracle)) := by
  have hfinding : TextFile.finding? scenes oracle =
      Sidecar.classify (m := Id) (Registry.ofScenes scenes).freeze oracle ∘
        fun sidecar => Sidecar.ofText sidecar.path sidecar.text := by
    funext sidecar
    rw [TextFile.finding?, Function.comp_apply]
  rw [hfinding, ← List.filterMap_map]
  exact crossReference_pure _ oracle _

/-- What the scenes and the oracle decide about a sidecar. -/
structure IsDecided (scenes : List TextFile) (oracle : Path → OracleAnswer) (sidecar : TextFile)
    (finding : Option Finding) : Prop where
  otherAsset : ¬ Sidecar.HasScriptImporter sidecar.text → finding = none
  unresolved : Sidecar.HasScriptImporter sidecar.text → ∀ cause,
    Sidecar.guidOf sidecar.text = .unresolved cause →
      finding = some ⟨none, sidecar.path, .inconclusive ("sidecar guid: " ++ cause.message)⟩
  neverInstantiated_iff : ∀ guid,
    finding = some ⟨some guid, sidecar.path, .neverInstantiated⟩ ↔
      Sidecar.HasScriptImporter sidecar.text ∧ Sidecar.guidOf sidecar.text = .resolved guid ∧
        ¬ IsUsed scenes guid
  used : Sidecar.HasScriptImporter sidecar.text → ∀ guid,
    Sidecar.guidOf sidecar.text = .resolved guid → IsUsed scenes guid →
      finding =
        match oracle sidecar.sourcePath with
        | .ok true => none
        | .ok false => some ⟨some guid, sidecar.path, .noExposedState⟩
        | .error error => some ⟨some guid, sidecar.path, .inconclusive error.message⟩

section Decision

variable {scenes : List TextFile} {oracle : Path → OracleAnswer} {sidecar : TextFile}

theorem finding?_of_otherAsset (hasset : ¬ Sidecar.HasScriptImporter sidecar.text) :
    sidecar.finding? scenes oracle = none := by
  apply Sidecar.classify_of_not_isScriptAsset
  rwa [Sidecar.isScriptAsset_ofText_iff]

theorem finding?_of_unresolved (hasset : Sidecar.HasScriptImporter sidecar.text)
    {cause : Unresolved} (hguid : Sidecar.guidOf sidecar.text = .unresolved cause) :
    sidecar.finding? scenes oracle =
      some ⟨none, sidecar.path, .inconclusive ("sidecar guid: " ++ cause.message)⟩ := by
  rw [← Sidecar.isScriptAsset_ofText_iff sidecar.path] at hasset
  rw [← Sidecar.guid_ofText sidecar.path] at hguid
  rw [TextFile.finding?, Sidecar.classify_of_unresolved hasset hguid, Sidecar.path_ofText]

theorem finding?_of_unused (hasset : Sidecar.HasScriptImporter sidecar.text) {guid : Guid}
    (hguid : Sidecar.guidOf sidecar.text = .resolved guid) (hunused : ¬ IsUsed scenes guid) :
    sidecar.finding? scenes oracle = some ⟨some guid, sidecar.path, .neverInstantiated⟩ := by
  rw [← Sidecar.isScriptAsset_ofText_iff sidecar.path] at hasset
  rw [← Sidecar.guid_ofText sidecar.path] at hguid
  rw [← contains_ofScenes] at hunused
  rw [TextFile.finding?, Sidecar.classify_of_not_contains hasset hguid hunused, Sidecar.path_ofText]

theorem finding?_of_used (hasset : Sidecar.HasScriptImporter sidecar.text) {guid : Guid}
    (hguid : Sidecar.guidOf sidecar.text = .resolved guid) (hused : IsUsed scenes guid) :
    sidecar.finding? scenes oracle =
      (Sidecar.ofText sidecar.path sidecar.text).findingOfAnswer guid (oracle sidecar.sourcePath) := by
  rw [← Sidecar.isScriptAsset_ofText_iff sidecar.path] at hasset
  rw [← Sidecar.guid_ofText sidecar.path] at hguid
  rw [← contains_ofScenes] at hused
  rw [TextFile.finding?, Sidecar.classify_of_contains hasset hguid hused, TextFile.sourcePath]

/-- A finding on a used script does not say that no scene uses it. -/
theorem findingOfAnswer_ne_neverInstantiated (sidecar : Sidecar) (guid other : Guid) (path : Path)
    (answer : OracleAnswer) :
    sidecar.findingOfAnswer guid answer ≠ some ⟨some other, path, .neverInstantiated⟩ := by
  rcases answer with error | (_ | _) <;> simp [Sidecar.findingOfAnswer]

/-- The four cases of a sidecar. -/
theorem sidecar_cases (scenes : List TextFile) (sidecar : TextFile) :
    ¬ Sidecar.HasScriptImporter sidecar.text ∨
      Sidecar.HasScriptImporter sidecar.text ∧
        ((∃ cause, Sidecar.guidOf sidecar.text = .unresolved cause) ∨
          (∃ guid, Sidecar.guidOf sidecar.text = .resolved guid ∧ ¬ IsUsed scenes guid) ∨
            ∃ guid, Sidecar.guidOf sidecar.text = .resolved guid ∧ IsUsed scenes guid) := by
  by_cases hasset : Sidecar.HasScriptImporter sidecar.text
  · refine .inr ⟨hasset, ?_⟩
    cases Sidecar.guidOf sidecar.text with
    | unresolved cause => exact .inl ⟨cause, rfl⟩
    | resolved guid =>
        by_cases hused : IsUsed scenes guid
        · exact .inr (.inr ⟨guid, rfl, hused⟩)
        · exact .inr (.inl ⟨guid, rfl, hused⟩)
  · exact .inl hasset

theorem finding?_eq_neverInstantiated_iff (guid : Guid) :
    sidecar.finding? scenes oracle = some ⟨some guid, sidecar.path, .neverInstantiated⟩ ↔
      Sidecar.HasScriptImporter sidecar.text ∧ Sidecar.guidOf sidecar.text = .resolved guid ∧
        ¬ IsUsed scenes guid := by
  constructor
  · intro hfinding
    obtain hasset | ⟨hasset, ⟨cause, hguid⟩ | ⟨own, hguid, hunused⟩ | ⟨own, hguid, hused⟩⟩ :=
      sidecar_cases scenes sidecar
    · rw [finding?_of_otherAsset hasset] at hfinding
      exact absurd hfinding (by simp)
    · rw [finding?_of_unresolved hasset hguid] at hfinding
      exact absurd hfinding (by simp)
    · rw [finding?_of_unused hasset hguid hunused] at hfinding
      obtain rfl : own = guid := by simpa using hfinding
      exact ⟨hasset, hguid, hunused⟩
    · rw [finding?_of_used hasset hguid hused] at hfinding
      exact absurd hfinding (findingOfAnswer_ne_neverInstantiated _ _ _ _ _)
  · rintro ⟨hasset, hguid, hunused⟩
    exact finding?_of_unused hasset hguid hunused

theorem isDecided_finding? (scenes : List TextFile) (oracle : Path → OracleAnswer)
    (sidecar : TextFile) : IsDecided scenes oracle sidecar (sidecar.finding? scenes oracle) where
  otherAsset := finding?_of_otherAsset
  unresolved hasset _ hguid := finding?_of_unresolved hasset hguid
  neverInstantiated_iff := finding?_eq_neverInstantiated_iff
  used hasset guid hguid hused := by
    rw [finding?_of_used hasset hguid hused]
    rcases oracle sidecar.sourcePath with error | (_ | _) <;>
      simp only [Sidecar.findingOfAnswer, Sidecar.path_ofText]

/-- The oracle is asked about a used script only, and only where its source is. -/
theorem finding?_congr {other : Path → OracleAnswer}
    (h : ∀ guid, Sidecar.HasScriptImporter sidecar.text →
      Sidecar.guidOf sidecar.text = .resolved guid → IsUsed scenes guid →
        other sidecar.sourcePath = oracle sidecar.sourcePath) :
    sidecar.finding? scenes other = sidecar.finding? scenes oracle := by
  obtain hasset | ⟨hasset, ⟨cause, hguid⟩ | ⟨guid, hguid, hunused⟩ | ⟨guid, hguid, hused⟩⟩ :=
    sidecar_cases scenes sidecar
  · rw [finding?_of_otherAsset hasset, finding?_of_otherAsset hasset]
  · rw [finding?_of_unresolved hasset hguid, finding?_of_unresolved hasset hguid]
  · rw [finding?_of_unused hasset hguid hunused, finding?_of_unused hasset hguid hunused]
  · rw [finding?_of_used hasset hguid hused, finding?_of_used hasset hguid hused,
      h guid hasset hguid hused]

end Decision

/-- **The findings are decided by the texts and the oracle**: each sidecar gives what
`IsDecided` says of it and there are no others, and where no used script's source is
the oracle may answer anything. -/
theorem findingsOn_decided (scenes : List TextFile) (oracle : Path → OracleAnswer)
    (sidecars : List TextFile) :
    (∃ verdicts, List.Forall₂ (IsDecided scenes oracle) sidecars verdicts ∧
        (findingsOn scenes oracle sidecars).Perm verdicts.reduceOption) ∧
      ∀ other : Path → OracleAnswer,
        (∀ sidecar ∈ sidecars, ∀ guid, Sidecar.HasScriptImporter sidecar.text →
            Sidecar.guidOf sidecar.text = .resolved guid → IsUsed scenes guid →
              other sidecar.sourcePath = oracle sidecar.sourcePath) →
          findingsOn scenes other sidecars = findingsOn scenes oracle sidecars := by
  constructor
  · refine ⟨sidecars.map (TextFile.finding? scenes oracle), ?_, ?_⟩
    · rw [List.forall₂_map_right_iff, List.forall₂_same]
      intro sidecar _
      exact isDecided_finding? scenes oracle sidecar
    · rw [findingsOn_eq, Finding.sort, List.reduceOption, List.filterMap_map, Function.id_comp]
      exact List.mergeSort_perm _ _
  · intro other hagree
    have hfindings : sidecars.filterMap (TextFile.finding? scenes other) =
        sidecars.filterMap (TextFile.finding? scenes oracle) := by
      apply List.filterMap_congr
      intro sidecar hsidecar
      exact finding?_congr (hagree sidecar hsidecar)
    rw [findingsOn_eq, findingsOn_eq, hfindings]

end SceneAudit
