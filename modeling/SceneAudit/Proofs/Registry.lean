import SceneAudit.Registry
import Mathlib.Data.List.Basic

/-!
# What a registry holds

A registry answers whether a script is used: it is, if a script component with its
guid was recorded (`contains_record`, `contains_extend`).  Freezing does not change
the answer (`contains_freeze`).
-/

namespace SceneAudit

/-- The component runs the script with the guid. -/
def Script.Runs (script : Script) (guid : Guid) : Prop :=
  script.guid = .resolved guid

instance (script : Script) (guid : Guid) : Decidable (script.Runs guid) :=
  inferInstanceAs (Decidable (_ = _))

namespace Registry

/-- A script component with the guid has been recorded. -/
def Contains (registry : Registry) (guid : Guid) : Prop :=
  registry.byGuid.contains guid = true

theorem not_contains_empty (guid : Guid) : ¬ empty.Contains guid := by
  simp [Contains, empty]

theorem contains_record (registry : Registry) (scene : Path) (script : Script) (guid : Guid) :
    (registry.record scene script).1.Contains guid ↔
      script.Runs guid ∨ registry.Contains guid := by
  unfold Contains Script.Runs record
  cases script.guid with
  | unresolved cause => simp
  | resolved own => simp [Std.HashMap.contains_insert]

theorem contains_extend (registry : Registry) (scene : Path) (scripts : List Script) (guid : Guid) :
    (registry.extend scene scripts).1.Contains guid ↔
      (∃ script ∈ scripts, script.Runs guid) ∨ registry.Contains guid := by
  unfold extend
  generalize 0 = count
  induction scripts generalizing registry count with
  | nil => simp
  | cons script scripts ih =>
      rw [List.foldl_cons, ih, contains_record, List.exists_mem_cons_iff, or_left_comm, or_assoc]

/-- How many scripts have a guid does not depend on those that were there before. -/
theorem extend_snd (registry : Registry) (scene : Path) (scripts : List Script) :
    (registry.extend scene scripts).2 = scripts.countP fun script => script.guid.target?.isSome := by
  unfold extend
  rw [← Nat.zero_add (scripts.countP _)]
  generalize 0 = count
  induction scripts generalizing registry count with
  | nil => rfl
  | cons script scripts ih =>
      refine (ih _ _).trans ?_
      rw [List.countP_cons]
      cases hguid : script.guid with
      | unresolved cause => simp [Reference.target?]
      | resolved guid => simp [Reference.target?]; omega

theorem contains_freeze (registry : Registry) (guid : Guid) :
    registry.freeze.contains guid = true ↔ registry.Contains guid := by
  unfold FrozenRegistry.contains freeze Contains
  rw [Std.HashMap.contains_map]

end Registry

end SceneAudit
