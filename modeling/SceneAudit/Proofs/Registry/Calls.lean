import SceneAudit.Proofs.Registry.Count
import Mathlib.Algebra.BigOperators.Group.List.Lemmas
import Mathlib.Algebra.GroupWithZero.Nat
import Mathlib.Data.String.Basic

/-!
# What a frozen registry holds after any calls

A registry is filled by calls that offer one script component or those of a scene, in any
number and order.  Each call answers for what it offers and for nothing else
(`answers_run`), and all of them together record what they offer one usage after the other
(`registry_run`).  So the frozen registry can be described by what was offered alone
(`freeze_run_holds`): nothing is lost or doubled, and what is equal in order stays in the
order in which it was offered.
-/

namespace SceneAudit

/-! ## The order of usages -/

namespace Usage

/-- The first usage is in an earlier scene, or in the same and has no greater identifier. -/
def NotAfter (first second : Usage) : Prop :=
  Ord.compare first.scene.components second.scene.components = .lt ∨
    first.scene.components = second.scene.components ∧
      first.script.fileId.text ≤ second.script.fileId.text

/-- The usages are in the same scene, however its path is written, and have one identifier. -/
def Tied (first second : Usage) : Prop :=
  first.scene.components = second.scene.components ∧ first.script.fileId = second.script.fileId

instance (first second : Usage) : Decidable (Tied first second) :=
  inferInstanceAs (Decidable (_ ∧ _))

theorem compare_eq_eq_iff {first second : Usage} : first.compare second = .eq ↔ first.Tied second := by
  rw [compare, Ordering.then_eq_eq, Path.compare_eq_eq_iff, Std.LawfulEqCmp.compare_eq_iff_eq]
  rfl

theorem notAfter_of_isLE {first second : Usage} (h : (first.compare second).isLE) :
    first.NotAfter second := by
  obtain hlt | ⟨hequal, hle⟩ := Ordering.isLE_then_iff_or.mp h
  · exact .inl hlt
  · have htext : (Ord.compare first.script.fileId.text second.script.fileId.text).isLE := hle
    exact .inr ⟨Path.compare_eq_eq_iff.mp hequal, Std.LawfulBCmp.isLE_iff_le.mp htext⟩

end Usage

namespace Registry

/-! ## Calls -/

/-- What a registry is asked to do while it is being filled. -/
inductive Call where
  | record (scene : Path) (script : Script)
  | extend (scene : Path) (scripts : List Script)

/-- What it answers. -/
inductive Answer where
  /-- Whether the component has a guid. -/
  | recorded (known : Bool)
  /-- How many of the components have one. -/
  | extended (count : Nat)
deriving DecidableEq

namespace Call

/-- The usages that the call offers. -/
def offers : Call → List Usage
  | record scene script => [⟨scene, script⟩]
  | extend scene scripts => scripts.map (Usage.mk scene)

/-- What the call has to be answered, whatever was recorded before. -/
def expected : Call → Answer
  | record _ script => .recorded script.guid.target?.isSome
  | extend _ scripts => .extended (scripts.countP fun script => script.guid.target?.isSome)

end Call

/-- The registry after a call, and the answer. -/
def perform (registry : Registry) : Call → Registry × Answer
  | .record scene script =>
    let (registry, known) := registry.record scene script
    (registry, .recorded known)
  | .extend scene scripts =>
    let (registry, count) := registry.extend scene scripts
    (registry, .extended count)

/-- The registry after some calls, and the answers in order. -/
def run (registry : Registry) : List Call → Registry × List Answer
  | [] => (registry, [])
  | call :: calls =>
    let (next, answer) := registry.perform call
    let (last, answers) := next.run calls
    (last, answer :: answers)

theorem recordAll_append (registry : Registry) (usages more : List Usage) :
    registry.recordAll (usages ++ more) = (registry.recordAll usages).recordAll more :=
  List.foldl_append

theorem registry_perform (registry : Registry) (call : Call) :
    (registry.perform call).1 = registry.recordAll call.offers := by
  cases call with
  | record scene script => rfl
  | extend scene scripts => exact registry.extend_eq_recordAll scene scripts

theorem answer_perform (registry : Registry) (call : Call) :
    (registry.perform call).2 = call.expected := by
  cases call with
  | record scene script =>
      show Answer.recorded (registry.record scene script).2 = _
      unfold record
      cases hguid : script.guid <;> simp [Call.expected, hguid, Reference.target?]
  | extend scene scripts => exact congrArg Answer.extended (registry.extend_snd scene scripts)

/-- The calls together record what they offer, one usage after the other. -/
theorem registry_run (registry : Registry) (calls : List Call) :
    (registry.run calls).1 = registry.recordAll (calls.flatMap Call.offers) := by
  induction calls generalizing registry with
  | nil => rfl
  | cons call calls ih =>
      show ((registry.perform call).1.run calls).1 = _
      rw [ih, registry_perform, List.flatMap_cons, recordAll_append]

theorem answers_run (registry : Registry) (calls : List Call) :
    (registry.run calls).2 = calls.map Call.expected := by
  induction calls generalizing registry with
  | nil => rfl
  | cons call calls ih =>
      show (registry.perform call).2 :: ((registry.perform call).1.run calls).2 = _
      rw [ih, answer_perform, List.map_cons]

end Registry

/-! ## The counts -/

/-- The guids of some usages, with repetitions. -/
def guidsOf (usages : List Usage) : List Guid :=
  usages.filterMap fun usage => usage.script.guid.target?

namespace FrozenRegistry

variable (registry : FrozenRegistry)

theorem toList_lengths : registry.lengths.toList =
    registry.lengths.keys.map fun guid => (guid, (registry.usages guid).length) := by
  rw [← Std.HashMap.map_fst_toList_eq_keys, List.map_map]
  conv_lhs => rw [← List.map_id registry.lengths.toList]
  apply List.map_congr_left
  rintro ⟨guid, count⟩ hentry
  rw [Std.HashMap.mem_toList_iff_getElem?_eq_some, getElem?_lengths] at hentry
  obtain ⟨-, hcount⟩ := Option.ite_none_right_eq_some.mp hentry
  rw [← Option.some.inj hcount]
  rfl

theorem usageCount_eq_sum : registry.usageCount =
    (registry.lengths.keys.map fun guid => (registry.usages guid).length).sum := by
  rw [← foldl_lengths, toList_lengths, List.foldl_map, List.sum_eq_foldl, List.foldl_map]

theorem mem_keys_lengths_iff {guid : Guid} :
    guid ∈ registry.lengths.keys ↔ registry.contains guid = true := by
  rw [Std.HashMap.mem_keys, lengths, Std.HashMap.mem_map]
  rfl

end FrozenRegistry

/-! ## What was offered -/

theorem count_guidsOf (usages : List Usage) (guid : Guid) :
    (guidsOf usages).count guid = (Registry.usagesOf guid usages).length := by
  rw [guidsOf, List.count_filterMap, Registry.usagesOf, ← List.countP_eq_length_filter]
  apply List.countP_congr
  intro usage _
  rw [beq_iff_eq, decide_eq_true_iff, Script.Runs]
  cases usage.script.guid <;> simp [Reference.target?]

theorem mem_guidsOf_iff {usages : List Usage} {guid : Guid} :
    guid ∈ guidsOf usages ↔ Registry.usagesOf guid usages ≠ [] := by
  rw [← List.count_pos_iff, count_guidsOf, List.length_pos_iff]

section Offered

variable (offered : List Usage)

theorem contains_freeze_recordAll (guid : Guid) :
    (Registry.empty.recordAll offered).freeze.contains guid = true ↔
      Registry.usagesOf guid offered ≠ [] := by
  rw [Registry.contains_freeze, Registry.contains_recordAll,
    or_iff_left (Registry.not_contains_empty guid)]

theorem length_usages_freeze_recordAll (guid : Guid) :
    ((Registry.empty.recordAll offered).freeze.usages guid).length = (guidsOf offered).count guid := by
  rw [Registry.usages_freeze_recordAll, List.length_mergeSort, count_guidsOf]

/-- The scripts of the frozen registry are the guids offered, each once. -/
theorem keys_perm_dedup :
    (Registry.empty.recordAll offered).freeze.lengths.keys.Perm (guidsOf offered).dedup := by
  rw [List.perm_ext_iff_of_nodup Std.HashMap.nodup_keys (List.nodup_dedup _)]
  intro guid
  rw [FrozenRegistry.mem_keys_lengths_iff, contains_freeze_recordAll, List.mem_dedup,
    mem_guidsOf_iff]

theorem guidCount_freeze_recordAll :
    (Registry.empty.recordAll offered).freeze.guidCount = (guidsOf offered).dedup.length := by
  rw [← FrozenRegistry.size_lengths, ← Std.HashMap.length_keys, (keys_perm_dedup offered).length_eq]

/-- Each guid that was offered is counted once. -/
theorem usageCount_freeze_recordAll :
    (Registry.empty.recordAll offered).freeze.usageCount = (guidsOf offered).length := by
  rw [FrozenRegistry.usageCount_eq_sum, ((keys_perm_dedup offered).map _).sum_eq]
  simp only [length_usages_freeze_recordAll]
  exact List.sum_map_count_dedup_eq_length _

theorem total_freeze_recordAll :
    (Registry.empty.recordAll offered).freeze.usageCount +
      (Registry.empty.recordAll offered).freeze.unresolvedCount = offered.length := by
  have hunresolved : (Registry.empty.recordAll offered).freeze.unresolvedCount =
      offered.countP fun usage => usage.script.guid.target?.isNone :=
    (Registry.unresolved_recordAll _ _).trans (Nat.zero_add _)
  rw [usageCount_freeze_recordAll, hunresolved, guidsOf, List.length_filterMap_eq_countP,
    List.length_eq_countP_add_countP fun usage : Usage => usage.script.guid.target?.isSome]
  congr 2
  funext usage
  cases usage.script.guid.target? <;> rfl

end Offered

/-- The frozen registry holds what was offered. -/
structure FrozenRegistry.Holds (registry : FrozenRegistry) (offered : List Usage) : Prop where
  total : registry.usageCount + registry.unresolvedCount = offered.length
  usages : ∀ guid, IsStableSort Usage.NotAfter Usage.Tied (registry.usages guid)
    (offered.filter fun usage => usage.script.guid = .resolved guid)
  contains_iff : ∀ guid, registry.contains guid = true ↔ registry.usages guid ≠ []
  guidCount : registry.guidCount =
    (offered.filterMap fun usage => usage.script.guid.target?).dedup.length

/-- **A frozen registry holds what was offered**, whichever calls offered it, and each call was
answered for what it offered. -/
theorem freeze_run_holds (calls : List Registry.Call) :
    (Registry.empty.run calls).2 = calls.map Registry.Call.expected ∧
      (Registry.empty.run calls).1.freeze.Holds (calls.flatMap Registry.Call.offers) := by
  refine ⟨Registry.empty.answers_run calls, ?_⟩
  rw [Registry.registry_run]
  generalize calls.flatMap Registry.Call.offers = offered
  have husages := Registry.usages_freeze_recordAll offered
  constructor
  case total => exact total_freeze_recordAll offered
  case usages =>
    intro guid
    rw [husages]
    exact isStableSort_mergeSort (fun _ _ => Usage.notAfter_of_isLE)
      (fun _ _ => Usage.compare_eq_eq_iff) _
  case contains_iff =>
    intro guid
    rw [contains_freeze_recordAll, ← List.length_pos_iff, ← List.length_pos_iff, husages,
      List.length_mergeSort]
  case guidCount => exact guidCount_freeze_recordAll offered

end SceneAudit
