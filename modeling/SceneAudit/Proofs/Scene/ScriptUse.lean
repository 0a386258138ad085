import SceneAudit.Proofs.Record.Fields
import SceneAudit.Proofs.Registry
import SceneAudit.Scene

/-!
# Scripts that scenes use

Between the text of a scene and the registry stand the segmenter and the reader of
records.  What the registry of some scenes holds is said here of their blocks alone
(`contains_ofScenes`): a script is used by a block of its kind that repeats no key
and gives its guid.
-/

namespace SceneAudit

/-- A file, as far as its text has been read. -/
structure TextFile where
  path : Path
  text : String

/-! ## Blocks -/

namespace Block

/-- The block is a script component, it repeats no key, and its script has the guid. -/
def UsesScript (block : Block) (guid : Guid) : Prop :=
  block.tag = Tag.script ∧ (block.given.map Prod.fst).Nodup ∧
    ∃ value, (ScalarKey.script, value) ∈ block.given ∧ Reference.guid (some value) = .resolved guid

variable {block : Block} {guid : Guid}

theorem lookup_eq_some_iff_mem {key : ScalarKey} {value : String}
    (hnodup : (block.given.map Prod.fst).Nodup) :
    block.given.lookup key = some value ↔ (key, value) ∈ block.given := by
  rw [List.lookup_eq_some_iff]
  constructor
  · rintro ⟨before, after, hsplit, -⟩
    rw [hsplit]
    exact List.mem_append_right _ List.mem_cons_self
  · intro hmem
    obtain ⟨before, after, hsplit⟩ := List.append_of_mem hmem
    refine ⟨before, after, hsplit, ?_⟩
    intro pair hpair
    -- a pair in front with the same key would give it twice
    rw [hsplit, List.map_append, List.map_cons] at hnodup
    have hapart := (List.nodup_append.mp hnodup).2.2 pair.1 (List.mem_map_of_mem hpair) key
      List.mem_cons_self
    simpa using Ne.symm hapart

theorem guid_scalar?_eq_resolved_iff (hnodup : (block.given.map Prod.fst).Nodup) :
    Reference.guid (block.scalar? .script) = .resolved guid ↔
      ∃ value, (ScalarKey.script, value) ∈ block.given ∧
        Reference.guid (some value) = .resolved guid := by
  rw [scalar?_eq]
  cases hlookup : block.given.lookup .script with
  | none =>
      constructor
      · intro habsent
        exact absurd habsent (by simp [Reference.guid, Reference.read])
      · rintro ⟨value, hmem, -⟩
        rw [(lookup_eq_some_iff_mem hnodup).mpr hmem] at hlookup
        exact absurd hlookup (by simp)
  | some value =>
      constructor
      · intro hguid
        exact ⟨value, (lookup_eq_some_iff_mem hnodup).mp hlookup, hguid⟩
      · rintro ⟨other, hmem, hguid⟩
        rw [(lookup_eq_some_iff_mem hnodup).mpr hmem] at hlookup
        rw [← Option.some.inj hlookup]
        exact hguid

theorem ofDistinct_eq_script_iff {script : Script} :
    Record.ofDistinct block = .ok (.script script) ↔
      block.tag = Tag.script ∧
        script =
          { fileId := block.fileId
            scriptFileId := Reference.fileId (block.scalar? .script)
            guid := Reference.guid (block.scalar? .script)
            gameObject := Reference.fileId (block.scalar? .gameObject) } := by
  have hobject : Tag.script ≠ Tag.gameObject := by decide
  have htransform : Tag.script ≠ Tag.transform := by decide
  unfold Record.ofDistinct
  constructor
  · intro h
    split_ifs at h with hobjectTag htransformTag hscriptTag
    · exact absurd h (by simp)
    · exact absurd h (by simp)
    · exact ⟨hscriptTag, (Record.script.inj (Except.ok.inj h)).symm⟩
  · rintro ⟨htag, rfl⟩
    rw [htag, if_neg hobject, if_neg htransform, if_pos rfl]

theorem exists_ofBlock_eq_script_iff :
    (∃ script : Script, Record.ofBlock block = .ok (.script script) ∧ script.Runs guid) ↔
      block.UsesScript guid := by
  constructor
  · rintro ⟨script, hread, hruns⟩
    have hnodup : (block.given.map Prod.fst).Nodup := by
      rw [← repeatedKey?_occurrences_eq_none_iff]
      unfold Record.ofBlock at hread
      split at hread
      · exact absurd hread (by simp)
      · assumption
    rw [ofBlock_eq_ofDistinct hnodup] at hread
    obtain ⟨htag, rfl⟩ := ofDistinct_eq_script_iff.mp hread
    exact ⟨htag, hnodup, (guid_scalar?_eq_resolved_iff hnodup).mp hruns⟩
  · rintro ⟨htag, hnodup, hvalue⟩
    rw [ofBlock_eq_ofDistinct hnodup]
    exact ⟨_, ofDistinct_eq_script_iff.mpr ⟨htag, rfl⟩,
      (guid_scalar?_eq_resolved_iff hnodup).mpr hvalue⟩

end Block

/-! ## Scenes -/

theorem Scene.BlockOutcome.script?_eq_some_iff {outcome : BlockOutcome} {script : Script} :
    outcome.script? = some script ↔ outcome.record = .ok (.script script) := by
  unfold script?
  split
  · rename_i read heq
    rw [heq]
    constructor
    · intro hsome
      rw [Option.some.inj hsome]
    · intro hok
      rw [Record.script.inj (Except.ok.inj hok)]
  · rename_i hother
    constructor
    · intro hnone
      exact absurd hnone (by simp)
    · intro hscript
      exact absurd hscript (hother script)

theorem Scene.mem_scripts_ofBlocks_iff {blocks : List Block} {script : Script} :
    script ∈ (ofBlocks blocks).scripts ↔
      ∃ block ∈ blocks, Record.ofBlock block = .ok (.script script) := by
  constructor
  · intro hmem
    obtain ⟨outcome, houtcome, hscript⟩ := List.mem_filterMap.mp hmem
    obtain ⟨block, hblock, rfl⟩ := List.mem_map.mp houtcome
    exact ⟨block, hblock, BlockOutcome.script?_eq_some_iff.mp hscript⟩
  · rintro ⟨block, hblock, hread⟩
    refine List.mem_filterMap.mpr ⟨_, List.mem_map_of_mem hblock, ?_⟩
    exact BlockOutcome.script?_eq_some_iff.mpr hread

theorem Scene.exists_mem_scripts_iff (document : String) (guid : Guid) :
    (∃ script ∈ (ofDocument document).scripts, script.Runs guid) ↔
      ∃ block ∈ segment document Tag.ofRecords, block.UsesScript guid := by
  unfold ofDocument
  constructor
  · rintro ⟨script, hmem, hruns⟩
    obtain ⟨block, hblock, hread⟩ := mem_scripts_ofBlocks_iff.mp hmem
    exact ⟨block, hblock, Block.exists_ofBlock_eq_script_iff.mp ⟨script, hread, hruns⟩⟩
  · rintro ⟨block, hblock, huses⟩
    obtain ⟨script, hread, hruns⟩ := Block.exists_ofBlock_eq_script_iff.mpr huses
    exact ⟨script, mem_scripts_ofBlocks_iff.mpr ⟨block, hblock, hread⟩, hruns⟩

/-- A block of one of the scenes uses the script. -/
def IsUsed (scenes : List TextFile) (guid : Guid) : Prop :=
  ∃ scene ∈ scenes, ∃ block ∈ segment scene.text Tag.ofRecords, block.UsesScript guid

/-- The registry of the scripts of all scenes. -/
def Registry.ofScenes (scenes : List TextFile) : Registry :=
  scenes.foldl
    (fun registry scene => (registry.extend scene.path (Scene.ofDocument scene.text).scripts).1) empty

theorem Registry.contains_foldl_extend (scenes : List TextFile) (registry : Registry)
    (guid : Guid) :
    (scenes.foldl (fun registry scene =>
        (registry.extend scene.path (Scene.ofDocument scene.text).scripts).1) registry).Contains guid ↔
      IsUsed scenes guid ∨ registry.Contains guid := by
  induction scenes generalizing registry with
  | nil => simp [IsUsed]
  | cons scene scenes ih =>
      have hused : IsUsed (scene :: scenes) guid ↔
          (∃ block ∈ segment scene.text Tag.ofRecords, block.UsesScript guid) ∨
            IsUsed scenes guid :=
        List.exists_mem_cons_iff ..
      rw [List.foldl_cons, ih, contains_extend, Scene.exists_mem_scripts_iff, hused, or_left_comm,
        or_assoc]

theorem contains_ofScenes (scenes : List TextFile) (guid : Guid) :
    (Registry.ofScenes scenes).freeze.contains guid = true ↔ IsUsed scenes guid := by
  rw [Registry.contains_freeze, Registry.ofScenes, Registry.contains_foldl_extend]
  exact or_iff_left (Registry.not_contains_empty guid)

end SceneAudit
