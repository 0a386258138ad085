import SceneAudit.Proofs.Finding.CrossReference
import SceneAudit.Proofs.Registry.Interleaving

/-!
# Findings when further scenes are registered

A further scene can only use scripts, so it can only take away a verdict that a script
is never instantiated (`findings_of_furtherScenes`).

* A frozen registry contains exactly the scripts that its scenes run, in whatever
  order their components were recorded (`contains_registered`), so a registry of
  more scenes contains more.
* What a sidecar gives depends on the registry through that one question
  (`onlyClears_finding?`).
-/

namespace SceneAudit

/-! ## The scripts that scenes run -/

/-- Some component of the scenes runs the script with the guid. -/
def RunIn (scenes : List (Path × List Script)) (guid : Guid) : Prop :=
  ∃ scene ∈ scenes, ∃ script ∈ scene.2, script.Runs guid

instance (scenes : List (Path × List Script)) (guid : Guid) : Decidable (RunIn scenes guid) :=
  inferInstanceAs (Decidable (∃ scene ∈ scenes, ∃ script ∈ scene.2, script.Runs guid))

theorem runIn_append (scenes further : List (Path × List Script)) (guid : Guid) :
    RunIn (scenes ++ further) guid ↔ RunIn scenes guid ∨ RunIn further guid := by
  unfold RunIn
  simp only [List.mem_append, or_and_right, exists_or]

theorem usagesOf_flatten_offered_ne_nil (scenes : List (Path × List Script)) (guid : Guid) :
    Registry.usagesOf guid (offered scenes).flatten ≠ [] ↔ RunIn scenes guid := by
  rw [Registry.usagesOf, ne_eq, List.filter_eq_nil_iff, offered, ← List.flatMap_def]
  simp [RunIn]

/-- The frozen registry of some usages, recorded one after the other. -/
def registered (run : List Usage) : FrozenRegistry :=
  (Registry.empty.recordAll run).freeze

section

variable {scenes further : List (Path × List Script)} {run more : List Usage}

/-- A registry contains what its scenes run, in whatever order they were recorded. -/
theorem contains_registered (hrun : Interleaves (offered scenes) run) (guid : Guid) :
    (registered run).contains guid = true ↔ RunIn scenes guid := by
  rw [registered, Registry.contains_freeze, Registry.contains_recordAll,
    or_iff_left (Registry.not_contains_empty guid), ne_eq,
    usagesOf_eq_nil_iff hrun.perm_flatten, ← ne_eq, usagesOf_flatten_offered_ne_nil]

/-! ## What one sidecar gives with fewer and with more scenes -/

/-- The finding says that no scene uses the script. -/
def Finding.SaysUnused (finding : Finding) : Prop :=
  finding.verdict = .neverInstantiated

instance (finding : Finding) : Decidable finding.SaysUnused :=
  inferInstanceAs (Decidable (_ = _))

/-- What a sidecar gives when further scenes are registered (`after`), against what it gives
without them (`before`), where the oracle has the answer for its source. -/
structure OnlyClears (further : List (Path × List Script)) (answer : OracleAnswer)
    (sidecar : Sidecar) (before after : Option Finding) : Prop where
  kept : (∀ finding ∈ before, ¬ finding.SaysUnused) → after = before
  unused : ∀ finding ∈ before, finding.SaysUnused →
    ∃ guid, sidecar.guid = .resolved guid ∧
      (¬ RunIn further guid ∧ after = before ∨
        RunIn further guid ∧
          after =
            match answer with
            | .ok true => none
            | .ok false => some ⟨some guid, sidecar.path, .noExposedState⟩
            | .error error => some ⟨some guid, sidecar.path, .inconclusive error.message⟩)

theorem not_saysUnused_of_findingOfAnswer {sidecar : Sidecar} {guid : Guid} {answer : OracleAnswer}
    {finding : Finding} (h : finding ∈ sidecar.findingOfAnswer guid answer) :
    ¬ finding.SaysUnused := by
  intro hunused
  obtain ⟨own, path, verdict⟩ := finding
  obtain rfl : verdict = .neverInstantiated := hunused
  rcases answer with error | (_ | _) <;> simp [Sidecar.findingOfAnswer] at h

/-- A verdict that a script is unused comes from a guid that the registry does not contain. -/
theorem exists_guid_of_saysUnused {registry : FrozenRegistry} {oracle : Path → OracleAnswer}
    {sidecar : Sidecar} {finding : Finding} (h : finding ∈ sidecar.finding? registry oracle)
    (hunused : finding.SaysUnused) :
    ∃ guid, sidecar.isScriptAsset = true ∧ sidecar.guid = .resolved guid ∧
      ¬ registry.contains guid = true ∧ finding.guid = some guid := by
  unfold Sidecar.finding? at h
  by_cases hasset : sidecar.isScriptAsset = true
  · cases hguid : sidecar.guid with
    | unresolved cause =>
        rw [Sidecar.classify_of_unresolved hasset hguid, Option.mem_some_iff] at h
        rw [← h] at hunused
        exact absurd hunused (by simp [Finding.SaysUnused])
    | resolved guid =>
        by_cases hused : registry.contains guid = true
        · rw [Sidecar.classify_of_contains hasset hguid hused] at h
          exact absurd hunused (not_saysUnused_of_findingOfAnswer h)
        · rw [Sidecar.classify_of_not_contains hasset hguid hused, Option.mem_some_iff] at h
          exact ⟨guid, hasset, rfl, hused, by rw [← h]⟩
  · rw [Sidecar.classify_of_not_isScriptAsset hasset] at h
    exact absurd h (Option.not_mem_none finding)

theorem onlyClears_finding? (hrun : Interleaves (offered scenes) run)
    (hmore : Interleaves (offered (scenes ++ further)) more) (oracle : Path → OracleAnswer)
    (sidecar : Sidecar) :
    OnlyClears further (oracle sidecar.sourcePath) sidecar
      (sidecar.finding? (registered run) oracle) (sidecar.finding? (registered more) oracle) where
  kept := by
    unfold Sidecar.finding?
    intro hbefore
    by_cases hasset : sidecar.isScriptAsset = true
    · -- the guid, if there is one, is contained in both registries
      apply Sidecar.classify_congr
      intro guid hguid
      have hused : (registered run).contains guid = true := by
        by_contra hunused
        rw [Sidecar.classify_of_not_contains hasset hguid hunused] at hbefore
        exact hbefore _ rfl rfl
      have hboth : RunIn (scenes ++ further) guid :=
        (runIn_append scenes further guid).mpr (.inl ((contains_registered hrun guid).mp hused))
      rw [hused, (contains_registered hmore guid).mpr hboth]
    · rw [Sidecar.classify_of_not_isScriptAsset hasset, Sidecar.classify_of_not_isScriptAsset hasset]
  unused := by
    intro finding hfinding hunused
    obtain ⟨guid, hasset, hguid, hnotContained, -⟩ := exists_guid_of_saysUnused hfinding hunused
    have hnotRun : ¬ RunIn scenes guid := by
      rwa [contains_registered hrun] at hnotContained
    have hcontains : (registered more).contains guid = true ↔ RunIn further guid := by
      rw [contains_registered hmore, runIn_append, or_iff_right hnotRun]
    unfold Sidecar.finding?
    refine ⟨guid, hguid, ?_⟩
    by_cases hfurther : RunIn further guid
    · refine .inr ⟨hfurther, ?_⟩
      rw [Sidecar.classify_of_contains hasset hguid (hcontains.mpr hfurther)]
      rcases oracle sidecar.sourcePath with error | (_ | _) <;> rfl
    · refine .inl ⟨hfurther, ?_⟩
      rw [Sidecar.classify_of_not_contains hasset hguid (mt hcontains.mp hfurther),
        Sidecar.classify_of_not_contains hasset hguid hnotContained]

/-! ## All sidecars -/

/-- A verdict that a script is unused was there without the further scenes as well. -/
theorem OnlyClears.mem_of_saysUnused {answer : OracleAnswer} {sidecar : Sidecar}
    {before after : Option Finding} (h : OnlyClears further answer sidecar before after)
    {finding : Finding} (hafter : finding ∈ after) (hunused : finding.SaysUnused) :
    finding ∈ before := by
  by_cases hkept : ∀ other ∈ before, ¬ other.SaysUnused
  · rwa [h.kept hkept] at hafter
  · push Not at hkept
    obtain ⟨other, hother, hotherUnused⟩ := hkept
    obtain ⟨guid, -, ⟨-, heq⟩ | ⟨-, heq⟩⟩ := h.unused other hother hotherUnused
    · rwa [heq] at hafter
    · have hanswer : finding ∈ sidecar.findingOfAnswer guid answer := by
        rw [heq] at hafter
        rcases answer with error | (_ | _) <;> exact hafter
      exact absurd hunused (not_saysUnused_of_findingOfAnswer hanswer)

theorem filterMap_sublist {α β : Type} {f g : α → Option β} (as : List α)
    (h : ∀ a ∈ as, ∀ b ∈ f a, b ∈ g a) : (as.filterMap f).Sublist (as.filterMap g) := by
  induction as with
  | nil => exact List.Sublist.slnil
  | cons a as ih =>
      have htail := ih fun other hother => h other (List.mem_cons_of_mem a hother)
      rw [List.filterMap_cons, List.filterMap_cons]
      cases hf : f a with
      | none =>
          cases g a with
          | none => exact htail
          | some b => exact htail.cons b
      | some b =>
          have hg : g a = some b := h a List.mem_cons_self b hf
          rw [hg]
          exact htail.cons_cons b

theorem saysUnused_finding?_sublist (hrun : Interleaves (offered scenes) run)
    (hmore : Interleaves (offered (scenes ++ further)) more) (oracle : Path → OracleAnswer)
    (sidecars : List Sidecar) :
    ((sidecars.filterMap (Sidecar.finding? (registered more) oracle)).filter
        (·.SaysUnused)).Sublist
      ((sidecars.filterMap (Sidecar.finding? (registered run) oracle)).filter (·.SaysUnused)) := by
  rw [List.filter_filterMap, List.filter_filterMap]
  apply filterMap_sublist
  intro sidecar _ finding hfinding
  obtain ⟨hafter, hunused⟩ := Option.mem_filter_iff.mp hfinding
  have hbefore : finding ∈ sidecar.finding? (registered run) oracle :=
    (onlyClears_finding? hrun hmore oracle sidecar).mem_of_saysUnused hafter (by simpa using hunused)
  exact Option.mem_filter_iff.mpr ⟨hbefore, hunused⟩

/-- **Further scenes only clear verdicts.**  A sidecar keeps what it gives, unless that says
that its script is unused and a further scene runs it: then its source decides.  So the
verdicts with the further scenes are among those without them, each at most as often, and no
script that a scene runs is said to be unused, whatever the other scenes are. -/
theorem findings_of_furtherScenes (hrun : Interleaves (offered scenes) run)
    (hmore : Interleaves (offered (scenes ++ further)) more) (oracle : Path → OracleAnswer) :
    (∀ sidecar,
        OnlyClears further (oracle sidecar.sourcePath) sidecar
          (sidecar.finding? (registered run) oracle)
          (sidecar.finding? (registered more) oracle)) ∧
      ∀ sidecars,
        ((findingsOf (registered more) oracle sidecars).filter (·.SaysUnused)).Subperm
            ((findingsOf (registered run) oracle sidecars).filter (·.SaysUnused)) ∧
          ∀ finding ∈ findingsOf (registered more) oracle sidecars, finding.SaysUnused →
            ∃ guid, finding.guid = some guid ∧ ¬ RunIn scenes guid ∧ ¬ RunIn further guid := by
  refine ⟨onlyClears_finding? hrun hmore oracle, ?_⟩
  intro sidecars
  have hlarge := findingsOf_perm (registered more) oracle sidecars
  have hsmall := findingsOf_perm (registered run) oracle sidecars
  constructor
  · have hsublist := saysUnused_finding?_sublist hrun hmore oracle sidecars
    exact ((hlarge.filter _).subperm.trans hsublist.subperm).trans (hsmall.filter _).symm.subperm
  · intro finding hfinding hunused
    obtain ⟨sidecar, -, hgiven⟩ := List.mem_filterMap.mp (hlarge.mem_iff.mp hfinding)
    obtain ⟨guid, -, -, hnotContained, hguid⟩ := exists_guid_of_saysUnused hgiven hunused
    rw [contains_registered hmore, runIn_append, not_or] at hnotContained
    exact ⟨guid, hguid, hnotContained⟩

end

/-! ## A cellar under the hall and the attic -/

namespace HallAndAttic

/-- The cellar runs the script of the hall and another one. -/
def cellar : List (Path × List Script) :=
  [(⟨"Scenes/Cellar.unity"⟩,
    [⟨⟨"40"⟩, .resolved ⟨"11500000"⟩, .resolved ⟨"0fe9"⟩, .resolved ⟨"3"⟩⟩,
      ⟨⟨"41"⟩, .resolved ⟨"11500000"⟩, .resolved ⟨"77ab"⟩, .resolved ⟨"3"⟩⟩])]

/-- The sidecar of a script that only the cellar runs. -/
def lantern : Sidecar := ⟨.resolved ⟨"77ab"⟩, ⟨"Scripts/Lantern.cs.meta"⟩, true⟩

def cellarUsages : List Usage := (offered cellar).flatten

theorem interleaves_cellarFirst :
    Interleaves (offered (scenes ++ cellar)) (cellarUsages ++ attic ++ hall) := by
  apply Interleaves.take [hall, attic] []
  apply Interleaves.take [hall, attic] []
  apply Interleaves.take [hall] [[]]
  apply Interleaves.take [] [[], []]
  apply Interleaves.take [] [[], []]
  apply Interleaves.take [] [[], []]
  exact .done (by decide)

/-- The lantern is unused until the cellar is registered. -/
theorem lantern_cleared :
    Interleaves (offered scenes) (attic ++ hall) ∧
      Interleaves (offered (scenes ++ cellar)) (cellarUsages ++ attic ++ hall) ∧
        RunIn cellar ⟨"77ab"⟩ ∧
          OnlyClears cellar (.ok false) lantern
            (lantern.finding? (registered (attic ++ hall)) fun _ => .ok false)
            (lantern.finding? (registered (cellarUsages ++ attic ++ hall)) fun _ => .ok false) :=
  ⟨interleaves_atticFirst, interleaves_cellarFirst, by decide,
    (findings_of_furtherScenes interleaves_atticFirst interleaves_cellarFirst fun _ => .ok false).1
      lantern⟩

end HallAndAttic

end SceneAudit
