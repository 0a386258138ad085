import SceneAudit.Proofs.Hierarchy.Render
import SceneAudit.Proofs.Scene.Account

/-!
# Blocks that repeat a file identifier

Two blocks of one tag should not share a file identifier, and where they do, the
hierarchy is to report it: one fault for every block that became a record and has
one of its tag and file identifier before it.

The faults come from rendering, which sees the records of game objects and of
transforms, each kind for itself.  `filter_isDuplicate_faults_hierarchy` says which
faults these are in terms of the blocks of the document.  For the two kinds they are
as they should be, but scripts are never looked through: a script that repeats a
file identifier passes silently, and such scripts are all that is missing.
-/

namespace SceneAudit

/-! ## Blocks that became records -/

/-- The block became a record. -/
def Block.isAccepted (block : Block) : Bool :=
  (Record.ofBlock block).isOk

/-- The blocks of a document that became records, in document order. -/
def acceptedBlocks (document : String) : List Block :=
  (segment document Tag.ofRecords).filter Block.isAccepted

/-- The blocks that have one of the same tag and file identifier before them, in
order. -/
def repeatedBlocks (blocks : List Block) : List Block :=
  blocks.zipIdx.filterMap fun (block, index) =>
    if ∃ earlier ∈ blocks.take index, earlier.tag = block.tag ∧ earlier.fileId = block.fileId then
      some block
    else
      none

theorem repeatedBlocks_append_singleton (blocks : List Block) (block : Block) :
    repeatedBlocks (blocks ++ [block]) =
      repeatedBlocks blocks ++
        if ∃ earlier ∈ blocks, earlier.tag = block.tag ∧ earlier.fileId = block.fileId then [block]
        else [] := by
  unfold repeatedBlocks
  rw [List.zipIdx_append, List.filterMap_append]
  congr 1
  · refine List.filterMap_congr fun ⟨other, index⟩ hother => ?_
    have hindex : index < blocks.length := by
      have := List.snd_lt_of_mem_zipIdx hother
      omega
    dsimp only
    rw [List.take_append_of_le_length hindex.le]
  · simp only [List.zipIdx_singleton, Nat.zero_add, List.filterMap_cons, List.filterMap_nil,
      List.take_left]
    by_cases hshared : ∃ earlier ∈ blocks, earlier.tag = block.tag ∧ earlier.fileId = block.fileId
    · simp only [if_pos hshared]
    · simp only [if_neg hshared]

/-- For one tag, the file identifiers of the blocks say which of them are repeated. -/
theorem map_fileId_filter_repeatedBlocks (tag : String) (blocks : List Block) :
    ((repeatedBlocks blocks).filter (·.tag = tag)).map Block.fileId =
      repeatedRecords (fun key => key) ((blocks.filter (·.tag = tag)).map Block.fileId) := by
  induction blocks using List.reverseRecOn with
  | nil => rfl
  | append_singleton blocks block ih =>
      rw [repeatedBlocks_append_singleton, List.filter_append, List.map_append, ih,
        List.filter_append, List.map_append]
      by_cases htag : block.tag = tag
      · have hshared : (∃ earlier ∈ blocks, earlier.tag = block.tag ∧
            earlier.fileId = block.fileId) ↔
              block.fileId ∈ (blocks.filter (·.tag = tag)).map Block.fileId := by
          simp [htag, and_assoc]
        have hlast : [block].filter (·.tag = tag) = [block] := by simp [htag]
        simp only [hshared]
        rw [hlast, List.map_singleton, repeatedRecords_append_singleton, List.map_id']
        split <;> simp [htag]
      · have hlast : [block].filter (·.tag = tag) = [] := by simp [htag]
        rw [hlast, List.map_nil, List.append_nil]
        split <;> simp [htag]

/-! ## Their records -/

namespace Scene

variable {α : Type} {read? : BlockOutcome → Option α} {id : α → FileId} {tag : String}

/-- Records of one kind have the file identifiers of the accepted blocks with the tag
of the kind. -/
theorem map_filterMap_outcomes (hrejected : ∀ block error, read? ⟨block, .error error⟩ = none)
    (hread : ∀ block record, (read? ⟨block, .ok record⟩).map id =
      if record.tag = tag then some record.fileId else none)
    {blocks : List Block} (htags : ∀ block ∈ blocks, block.tag ∈ Tag.ofRecords) :
    ((blocks.map BlockOutcome.ofBlock).filterMap read?).map id =
      ((blocks.filter Block.isAccepted).filter (·.tag = tag)).map Block.fileId := by
  induction blocks with
  | nil => rfl
  | cons block blocks ih =>
      have hlater := ih fun other hother => htags other (List.mem_cons_of_mem _ hother)
      rw [List.map_cons, List.filterMap_cons, List.filter_cons, BlockOutcome.ofBlock]
      cases hrecord : Record.ofBlock block with
      | error error =>
          have haccepted : block.isAccepted = false := by
            rw [Block.isAccepted, hrecord]
            rfl
          rw [hrejected, haccepted, hlater]
          rfl
      | ok record =>
          have haccepted : block.isAccepted = true := by
            rw [Block.isAccepted, hrecord]
            rfl
          obtain ⟨htag, hfileId⟩ := Record.of_ofBlock_eq_ok (htags block List.mem_cons_self) hrecord
          have hkind := hread block record
          rw [htag, hfileId] at hkind
          rw [haccepted, if_pos rfl, List.filter_cons]
          by_cases hblock : block.tag = tag
          · obtain ⟨own, hown, hid⟩ := Option.map_eq_some_iff.mp (hkind.trans (if_pos hblock))
            simp only [hown, hblock, decide_true, if_true, List.map_cons, hid, hlater]
          · have hnone := Option.map_eq_none_iff.mp (hkind.trans (if_neg hblock))
            simp only [hnone, hblock, decide_false, Bool.false_eq_true, if_false, hlater]

theorem map_fileId_gameObjects (document : String) :
    (ofDocument document).gameObjects.map GameObject.fileId =
      ((acceptedBlocks document).filter (·.tag = Tag.gameObject)).map Block.fileId := by
  apply map_filterMap_outcomes
  · intro block error
    rfl
  · intro block record
    cases record <;> rfl
  · exact fun block hblock => tag_mem_of_mem_segment hblock

theorem map_fileId_transforms (document : String) :
    (ofDocument document).transforms.map Transform.fileId =
      ((acceptedBlocks document).filter (·.tag = Tag.transform)).map Block.fileId := by
  apply map_filterMap_outcomes
  · intro block error
    rfl
  · intro block record
    cases record <;> rfl
  · exact fun block hblock => tag_mem_of_mem_segment hblock

end Scene

/-! ## The faults -/

/-- Whether the fault says that a file identifier is taken. -/
def Fault.isDuplicate : Fault → Bool
  | .duplicateFileId .. => true
  | _ => false

/-- The fault that is due where a block repeats a file identifier. -/
def Block.duplicateFault (block : Block) : Fault :=
  .duplicateFileId block.fileId block.tag

theorem filter_isDuplicate_render (gameObjects : List GameObject) (transforms : List Transform) :
    (render gameObjects transforms).faults.filter Fault.isDuplicate =
      duplicateFaults gameObjects transforms := by
  have hwalk :
      (renderWalk gameObjects transforms).reversedFaults.reverse.filter Fault.isDuplicate = [] := by
    refine List.filter_eq_nil_iff.mpr fun fault hfault => ?_
    have hrevisit := isRevisit_of_mem_renderWalk gameObjects transforms hfault
    cases fault <;> simp_all [Fault.isRevisit, Fault.isDuplicate]
  rw [render_eq, List.filter_append, List.filter_append, hwalk]
  simp [duplicateFaults, List.filter_map, Function.comp_def, Fault.isDuplicate]

/-- Notices are no such faults. -/
theorem filter_isDuplicate_notices (blocks : List Block) :
    (Scene.ofBlocks blocks).notices.filter Fault.isDuplicate = [] := by
  refine List.filter_eq_nil_iff.mpr fun fault hfault => ?_
  obtain ⟨outcome, -, hnotice⟩ := List.mem_filterMap.mp hfault
  unfold Scene.BlockOutcome.notice? at hnotice
  split at hnotice
  · exact absurd hnotice (by simp)
  · rw [← Option.some.inj hnotice]
    simp [Fault.isDuplicate]

/-- The faults of one kind of records, from the blocks that became such records. -/
theorem map_repeatedRecords_eq_map_repeatedBlocks {α : Type} {id : α → FileId} {records : List α}
    {blocks : List Block} {tag : String}
    (hids : records.map id = (blocks.filter (·.tag = tag)).map Block.fileId) :
    (repeatedRecords id records).map (fun record => Fault.duplicateFileId (id record) tag) =
      ((repeatedBlocks blocks).filter (·.tag = tag)).map Block.duplicateFault := by
  calc
    _ = ((repeatedRecords id records).map id).map (Fault.duplicateFileId · tag) := by
      rw [List.map_map]
      rfl
    _ = (((repeatedBlocks blocks).filter (·.tag = tag)).map Block.fileId).map
          (Fault.duplicateFileId · tag) := by
      rw [map_repeatedRecords, hids, map_fileId_filter_repeatedBlocks]
    _ = _ := by
      rw [List.map_map]
      refine List.map_congr_left fun block hblock => ?_
      have htag : block.tag = tag := by simpa using (List.mem_filter.mp hblock).2
      rw [Function.comp_apply, Block.duplicateFault, htag]

theorem filter_isDuplicate_faults (document : String) :
    (Scene.ofDocument document).hierarchy.faults.filter Fault.isDuplicate =
      ((repeatedBlocks (acceptedBlocks document)).filter (·.tag = Tag.gameObject) ++
        (repeatedBlocks (acceptedBlocks document)).filter (·.tag = Tag.transform)).map
          Block.duplicateFault := by
  calc
    _ = (Scene.ofDocument document).notices.filter Fault.isDuplicate ++
          (render (Scene.ofDocument document).gameObjects
            (Scene.ofDocument document).transforms).faults.filter Fault.isDuplicate :=
      List.filter_append _ _
    _ = duplicateFaults (Scene.ofDocument document).gameObjects
          (Scene.ofDocument document).transforms := by
      rw [Scene.ofDocument, filter_isDuplicate_notices, filter_isDuplicate_render, List.nil_append]
    _ = _ := by
      rw [duplicateFaults, List.map_append,
        map_repeatedRecords_eq_map_repeatedBlocks (Scene.map_fileId_gameObjects document),
        map_repeatedRecords_eq_map_repeatedBlocks (Scene.map_fileId_transforms document)]

/-! ## Scripts -/

theorem tag_mem_of_mem_repeatedBlocks {document : String} {block : Block}
    (h : block ∈ repeatedBlocks (acceptedBlocks document)) : block.tag ∈ Tag.ofRecords := by
  obtain ⟨⟨other, index⟩, hother, hsome⟩ := List.mem_filterMap.mp h
  have haccepted : other ∈ acceptedBlocks document := List.fst_mem_of_mem_zipIdx hother
  dsimp only at hsome
  split at hsome
  · exact Option.some.inj hsome ▸ tag_mem_of_mem_segment (List.mem_filter.mp haccepted).1
  · exact absurd hsome (by simp)

/-- Blocks of the three tags, those of game objects and those of transforms brought
together: all of them, if there are no scripts. -/
theorem perm_filter_tags {blocks : List Block} (htags : ∀ block ∈ blocks, block.tag ∈ Tag.ofRecords)
    (hscripts : ∀ block ∈ blocks, block.tag ≠ Tag.script) :
    (blocks.filter (·.tag = Tag.gameObject) ++ blocks.filter (·.tag = Tag.transform)).Perm
      blocks := by
  have hothers : blocks.filter (·.tag = Tag.transform) =
      blocks.filter fun block => !decide (block.tag = Tag.gameObject) := by
    refine List.filter_congr fun block hblock => ?_
    have htag := htags block hblock
    have hscript := hscripts block hblock
    have hapart : Tag.gameObject ≠ Tag.transform := by decide
    simp only [Tag.ofRecords, List.mem_cons, List.not_mem_nil, or_false] at htag
    rcases htag with htag | htag | htag
    · simp [htag, hapart]
    · simp [htag, hapart.symm]
    · exact absurd htag hscript
  rw [hothers]
  exact List.filter_append_perm _ blocks

theorem perm_duplicateFault_iff (document : String) :
    ((Scene.ofDocument document).hierarchy.faults.filter Fault.isDuplicate).Perm
        ((repeatedBlocks (acceptedBlocks document)).map Block.duplicateFault) ↔
      ∀ block ∈ repeatedBlocks (acceptedBlocks document), block.tag ≠ Tag.script := by
  rw [filter_isDuplicate_faults]
  constructor
  · -- the fault of a script would be one of a game object or of a transform
    intro hperm block hblock hscript
    obtain ⟨other, hother, hfault⟩ :=
      List.mem_map.mp (hperm.mem_iff.mpr (List.mem_map_of_mem hblock))
    have htag : other.tag = Tag.script := by
      rw [← hscript]
      exact (Fault.duplicateFileId.inj hfault).2
    simp only [List.mem_append, List.mem_filter, decide_eq_true_eq, htag] at hother
    rcases hother with ⟨-, hobject⟩ | ⟨-, htransform⟩
    · exact absurd hobject (by decide)
    · exact absurd htransform (by decide)
  · intro hscripts
    exact (perm_filter_tags (fun _ => tag_mem_of_mem_repeatedBlocks) hscripts).map _

/-- **Repeated file identifiers are reported, but not those of scripts.**

The faults for repeated file identifiers are one for every accepted block of a game
object and one for every accepted block of a transform that has an accepted block of
its tag and file identifier before it, each kind in document order, and no other.
So they are one for each such block of any kind if and only if no script is among
these blocks. -/
theorem filter_isDuplicate_faults_hierarchy (document : String) :
    (Scene.ofDocument document).hierarchy.faults.filter Fault.isDuplicate =
        ((repeatedBlocks (acceptedBlocks document)).filter (·.tag = Tag.gameObject) ++
          (repeatedBlocks (acceptedBlocks document)).filter (·.tag = Tag.transform)).map
            Block.duplicateFault ∧
      (((Scene.ofDocument document).hierarchy.faults.filter Fault.isDuplicate).Perm
          ((repeatedBlocks (acceptedBlocks document)).map Block.duplicateFault) ↔
        ∀ block ∈ repeatedBlocks (acceptedBlocks document), block.tag ≠ Tag.script) :=
  ⟨filter_isDuplicate_faults document, perm_duplicateFault_iff document⟩

namespace TwoScripts

/-- Two scripts of one file identifier, each closed by a delimiter line. -/
def document : String :=
  "--- !u!114 &30\nMonoBehaviour:\n  m_GameObject: \x7bfileID: 1\x7d\n--- !u!114 &30\nMonoBehaviour:\n  m_GameObject: \x7bfileID: 2\x7d\n--- \n"

/-- The second script passes silently. -/
theorem not_reported :
    ¬ ((Scene.ofDocument document).hierarchy.faults.filter Fault.isDuplicate).Perm
        ((repeatedBlocks (acceptedBlocks document)).map Block.duplicateFault) := by
  rw [perm_duplicateFault_iff]
  decide +kernel

end TwoScripts

end SceneAudit
