import SceneAudit.Proofs.Hierarchy.ChildEntry
import SceneAudit.Proofs.Hierarchy.Links
import SceneAudit.Proofs.Scene.Account
import SceneAudit.Proofs.Text.Unbroken

/-!
# What is printed of a scene

Everything that is printed of a scene takes one line each: the name of a transform has no
line feed in it (`not_mem_name`), so a dump has as many line feeds as lines
(`count_dump`), and the message of a fault or a rejection has no line end in it at all
(`isUnbroken_fault`, `isUnbroken_rejection`).

A name is a piece of a line of the document.  The file identifiers in messages are those of
headers, so they are numerals; references in the document only select among them.
-/

namespace SceneAudit

open Text

/-! ## Values of keys -/

theorem Text.mem_of_mem_trim {cs : List Char} {c : Char} (h : c ∈ trim cs) : c ∈ cs := by
  unfold trim trimEnd at h
  rw [List.mem_reverse] at h
  have hstart := List.mem_reverse.mp ((List.dropWhile_sublist _).subset h)
  exact (List.dropWhile_sublist _).subset hstart

/-- A value is a piece of its line. -/
theorem FieldLine.mem_of_ofLine {line value : String} {key : ScalarKey}
    (h : ofLine line = .scalar key value) {c : Char} (hc : c ∈ value.toList) : c ∈ line.toList := by
  unfold ofLine ofTrimmed at h
  split at h
  · exact absurd h (by simp)
  split at h
  · exact absurd h (by simp)
  split at h
  · exact absurd h (by simp)
  rename_i before after hsplit
  split at h
  · exact absurd h (by simp)
  obtain ⟨-, rfl⟩ := FieldLine.scalar.inj h
  rw [String.toList_ofList] at hc
  have hafter := mem_of_mem_trim hc
  apply mem_of_mem_trim
  rw [(splitAtColon?_eq_some hsplit).1]
  exact List.mem_append_right before (List.mem_cons_of_mem ':' hafter)

namespace Block

variable {document : String} {tags : List String} {block : Block}

theorem mem_lines_of_mem_segment (hblock : block ∈ segment document tags) {line : String}
    (hline : line ∈ block.lines) : line ∈ Text.lines document := by
  obtain ⟨index, hindex⟩ := List.mem_iff_getElem?.mp hline
  obtain ⟨before, following, hlines, -⟩ := lineAt?_eq_some_iff.mp (lineNumber_segment hblock hindex)
  rw [hlines]
  exact List.mem_append_right before List.mem_cons_self

/-- No value has a line feed in it. -/
theorem not_mem_scalar? (hblock : block ∈ segment document tags) {key : ScalarKey} {value : String}
    (hvalue : block.scalar? key = some value) : '\n' ∉ value.toList := by
  obtain ⟨occurrence, hfound, rfl⟩ := Option.map_eq_some_iff.mp hvalue
  obtain ⟨index, line, hline, -, hfield⟩ :=
    mem_fieldLines (mem_fieldLines_of_mem_occurrences (List.mem_of_find?_eq_some hfound))
  have hmem := mem_lines_of_mem_segment hblock (List.mem_of_getElem? hline)
  intro hfeed
  exact not_mem_of_mem_lines hmem (FieldLine.mem_of_ofLine hfield.symm hfeed)

/-- The file identifier of a block is a numeral. -/
theorem isUnbroken_fileId (hblock : block ∈ segment document tags) : IsUnbroken block.fileId.text := by
  obtain ⟨_, _, _, -, header, ⟨_, -, -, hnumeral, -⟩, -, rfl⟩ := mem_segment_iff.mp hblock
  rw [OpenBlock.finish_start]
  exact isUnbroken_of_isNumeral hnumeral

end Block

theorem Tag.isUnbroken_of_mem_ofRecords {tag : String} (h : tag ∈ Tag.ofRecords) : IsUnbroken tag := by
  have hall : ∀ tag ∈ Tag.ofRecords, IsUnbroken tag := by decide
  exact hall tag h

/-! ## Records of a document -/

theorem Record.name_of_ofBlock {block : Block} {object : GameObject}
    (h : ofBlock block = .ok (.gameObject object)) : object.name = block.scalar? .name := by
  unfold ofBlock ofDistinct at h
  split at h
  · exact absurd h (by simp)
  split at h
  · rw [← Record.gameObject.inj (Except.ok.inj h)]
  split at h
  · exact absurd h (by simp)
  split at h
  · exact absurd h (by simp)
  · exact absurd h (by simp)

namespace Scene

variable {document : String}

theorem exists_block_of_mem_gameObjects {object : GameObject}
    (h : object ∈ (ofDocument document).gameObjects) :
    ∃ block ∈ segment document Tag.ofRecords, object.fileId = block.fileId ∧
      object.name = block.scalar? .name := by
  obtain ⟨outcome, houtcome, hobject⟩ := List.mem_filterMap.mp h
  obtain ⟨hblock, htag, hread⟩ := of_mem_outcomes rfl houtcome
  have hrecord : outcome.record = .ok (.gameObject object) := by
    unfold BlockOutcome.gameObject? at hobject
    split at hobject
    · rename_i record hrecord
      rw [hrecord, Option.some.inj hobject]
    · exact absurd hobject (by simp)
  rw [hread] at hrecord
  exact ⟨outcome.block, hblock, (Record.of_ofBlock_eq_ok htag hrecord).2,
    Record.name_of_ofBlock hrecord⟩

theorem exists_block_of_mem_transforms {transform : Transform}
    (h : transform ∈ (ofDocument document).transforms) :
    ∃ block ∈ segment document Tag.ofRecords, transform.fileId = block.fileId := by
  obtain ⟨outcome, houtcome, htransform⟩ := List.mem_filterMap.mp h
  obtain ⟨hblock, htag, hread⟩ := of_mem_outcomes rfl houtcome
  have hrecord : outcome.record = .ok (.transform transform) := by
    unfold BlockOutcome.transform? at htransform
    split at htransform
    · rename_i record hrecord
      rw [hrecord, Option.some.inj htransform]
    · exact absurd htransform (by simp)
  rw [hread] at hrecord
  exact ⟨outcome.block, hblock, (Record.of_ofBlock_eq_ok htag hrecord).2⟩

end Scene

/-! ## Names of lines -/

theorem Forest.exists_node_of_mem_lines_name {nameOf : Transform → Option String} {forest : Forest}
    {depth : Nat} {line : HierarchyLine} (h : line ∈ forest.lines nameOf depth) :
    ∃ node ∈ forest.nodes, line.name = nameOf node := by
  induction forest generalizing depth with
  | empty => exact absurd h List.not_mem_nil
  | tree top below rest ihbelow ihrest =>
      rcases List.mem_cons.mp h with rfl | hlater
      · exact ⟨top, List.mem_cons_self, rfl⟩
      rcases List.mem_append.mp hlater with hbelow | hrest
      · obtain ⟨node, hnode, hname⟩ := ihbelow hbelow
        exact ⟨node, List.mem_cons_of_mem top (List.mem_append_left _ hnode), hname⟩
      · obtain ⟨node, hnode, hname⟩ := ihrest hrest
        exact ⟨node, List.mem_cons_of_mem top (List.mem_append_right _ hnode), hname⟩

section Render

variable {gameObjects : List GameObject} {transforms : List Transform}

/-- A name that is printed is the name of some game object. -/
theorem exists_gameObject_of_mem_lines {line : HierarchyLine}
    (hline : line ∈ (render gameObjects transforms).lines) {name : String}
    (hname : line.name = some name) : ∃ object ∈ gameObjects, object.name = some name := by
  obtain ⟨forest, hforest⟩ := exists_shownForest gameObjects transforms
  rw [hforest.lines_eq] at hline
  obtain ⟨node, -, hnode⟩ := Forest.exists_node_of_mem_lines_name hline
  rw [hnode] at hname
  obtain ⟨owner, -, howner⟩ := Option.bind_eq_some_iff.mp hname
  obtain ⟨object, hfound, hobject⟩ := Option.bind_eq_some_iff.mp howner
  exact ⟨object, mem_of_recordOf? hfound, hobject⟩

/-! ## Identifiers in faults -/

/-- The file identifiers that a fault names. -/
def Fault.fileIds : Fault → List FileId
  | .cycle members => members
  | .revisit parent child => [parent, child]
  | .duplicateFileId fileId _ => [fileId]
  | .unterminatedBlock fileId _ _ => [fileId]

/-- The tag that a fault names. -/
def Fault.tag? : Fault → Option String
  | .duplicateFileId _ tag => some tag
  | .unterminatedBlock _ tag _ => some tag
  | _ => none

theorem mem_of_reachable {id : FileId} (h : Reachable transforms id) :
    id ∈ transforms.map Transform.fileId := by
  cases h with
  | root hroot => exact List.mem_map_of_mem (mem_of_mem_firstRecords (List.mem_filter.mp hroot).1)
  | child _ _ hchild => simpa using (List.mem_filter.mp hchild).2

theorem mem_of_mem_findCycles {members : List FileId} (hmembers : members ∈ findCycles transforms)
    {id : FileId} (hid : id ∈ members) : id ∈ transforms.map Transform.fileId := by
  have hcycle := onReportedCycle_iff.mp ⟨members, hmembers, hid⟩
  obtain ⟨next, ⟨record, hrecord, rfl, -⟩, -⟩ := Relation.TransGen.head'_iff.mp hcycle
  exact List.mem_map_of_mem hrecord

theorem mem_of_mem_repeatedRecords {α : Type} {id : α → FileId} {records : List α} {record : α}
    (h : record ∈ repeatedRecords id records) : record ∈ records := by
  induction records using List.reverseRecOn with
  | nil => exact h
  | append_singleton records last ih =>
      rw [repeatedRecords_append_singleton] at h
      rcases List.mem_append.mp h with hearlier | hlast
      · exact List.mem_append_left _ (ih hearlier)
      · split at hlast
        · exact List.mem_append_right _ hlast
        · exact absurd hlast List.not_mem_nil

/-- A fault names identifiers of records, and of tags only those of records. -/
structure Fault.NamesRecords (gameObjects : List GameObject) (transforms : List Transform)
    (fault : Fault) : Prop where
  fileIds : ∀ id ∈ fault.fileIds,
    id ∈ gameObjects.map GameObject.fileId ∨ id ∈ transforms.map Transform.fileId
  tag : ∀ tag ∈ fault.tag?, tag ∈ Tag.ofRecords

theorem namesRecords_of_mem_duplicateFaults {fault : Fault}
    (h : fault ∈ duplicateFaults gameObjects transforms) :
    fault.NamesRecords gameObjects transforms := by
  rcases List.mem_append.mp h with hobject | htransform
  · obtain ⟨record, hrecord, rfl⟩ := List.mem_map.mp hobject
    constructor
    · intro id hid
      rw [List.mem_singleton.mp hid]
      exact .inl (List.mem_map_of_mem (mem_of_mem_repeatedRecords hrecord))
    · intro tag htag
      rw [← Option.mem_some_iff.mp htag]
      decide
  · obtain ⟨record, hrecord, rfl⟩ := List.mem_map.mp htransform
    constructor
    · intro id hid
      rw [List.mem_singleton.mp hid]
      exact .inr (List.mem_map_of_mem (mem_of_mem_repeatedRecords hrecord))
    · intro tag htag
      rw [← Option.mem_some_iff.mp htag]
      decide

theorem namesRecords_of_mem_faults {fault : Fault}
    (h : fault ∈ (render gameObjects transforms).faults) :
    fault.NamesRecords gameObjects transforms := by
  have hfault := h
  rw [render_eq] at hfault
  rcases List.mem_append.mp hfault with hduplicate | hlater
  · exact namesRecords_of_mem_duplicateFaults hduplicate
  rcases List.mem_append.mp hlater with hcycle | hwalk
  · obtain ⟨members, hmembers, rfl⟩ := List.mem_map.mp hcycle
    constructor
    · intro id hid
      exact .inr (mem_of_mem_findCycles hmembers hid)
    · intro tag htag
      exact absurd htag (Option.not_mem_none tag)
  · have hkind := isRevisit_of_mem_renderWalk gameObjects transforms hwalk
    cases fault with
    | revisit parent child =>
        obtain ⟨hparent, hchild, -⟩ := reachable_of_revisit_mem h
        constructor
        · intro id hid
          rcases List.mem_pair.mp hid with rfl | rfl
          · exact .inr (mem_of_reachable hparent)
          · exact .inr hchild
        · intro tag htag
          exact absurd htag (Option.not_mem_none tag)
    | cycle members => exact absurd hkind (by simp [Fault.isRevisit])
    | duplicateFileId fileId tag => exact absurd hkind (by simp [Fault.isRevisit])
    | unterminatedBlock fileId tag headerLine => exact absurd hkind (by simp [Fault.isRevisit])

end Render

/-! ## Messages -/

theorem Fault.isUnbroken_message {fault : Fault} (hids : ∀ id ∈ fault.fileIds, IsUnbroken id.text)
    (htag : ∀ tag ∈ fault.tag?, IsUnbroken tag) : IsUnbroken fault.message := by
  cases fault with
  | cycle members =>
      have hcomma : IsUnbroken ", " := by decide
      have hmembers : IsUnbroken (String.intercalate ", " (members.map FileId.text)) := by
        apply hcomma.intercalate
        intro text htext
        obtain ⟨id, hid, rfl⟩ := List.mem_map.mp htext
        exact hids id hid
      unfold message
      simp only [isUnbroken_append_iff]
      exact ⟨⟨by decide, hmembers⟩, by decide⟩
  | revisit parent child =>
      have hparent := hids parent List.mem_cons_self
      have hchild := hids child (List.mem_cons_of_mem parent List.mem_cons_self)
      unfold message
      simp only [isUnbroken_append_iff]
      exact ⟨⟨⟨by decide, hchild⟩, by decide⟩, hparent⟩
  | duplicateFileId fileId tag =>
      have hid := hids fileId List.mem_cons_self
      unfold message
      simp only [isUnbroken_append_iff]
      exact ⟨⟨⟨by decide, hid⟩, by decide⟩, htag tag rfl⟩
  | unterminatedBlock fileId tag headerLine =>
      have hid := hids fileId List.mem_cons_self
      unfold message
      simp only [isUnbroken_append_iff]
      exact ⟨⟨⟨⟨⟨⟨by decide, hid⟩, by decide⟩, htag tag rfl⟩, by decide⟩,
        isUnbroken_toString headerLine⟩, by decide⟩

theorem RecordError.isUnbroken_message {error : RecordError} (hid : IsUnbroken error.fileId.text)
    (hkey : ∃ key first second, error = .duplicateKey error.fileId key first second) :
    IsUnbroken error.message := by
  obtain ⟨key, first, second, herror⟩ := hkey
  have htext : IsUnbroken key.text := by cases key <;> decide
  rw [herror]
  unfold message
  simp only [isUnbroken_append_iff]
  exact ⟨⟨⟨⟨⟨⟨⟨by decide, hid⟩, by decide⟩, htext⟩, by decide⟩, isUnbroken_toString first⟩,
    by decide⟩, isUnbroken_toString second⟩

namespace Scene

variable {document : String}

theorem isUnbroken_of_mem_ids {id : FileId}
    (h : id ∈ (ofDocument document).gameObjects.map GameObject.fileId ∨
      id ∈ (ofDocument document).transforms.map Transform.fileId) : IsUnbroken id.text := by
  rcases h with hobject | htransform
  · obtain ⟨object, hmem, rfl⟩ := List.mem_map.mp hobject
    obtain ⟨block, hblock, hid, -⟩ := exists_block_of_mem_gameObjects hmem
    rw [hid]
    exact Block.isUnbroken_fileId hblock
  · obtain ⟨transform, hmem, rfl⟩ := List.mem_map.mp htransform
    obtain ⟨block, hblock, hid⟩ := exists_block_of_mem_transforms hmem
    rw [hid]
    exact Block.isUnbroken_fileId hblock

/-- The message of a fault has no line end in it. -/
theorem isUnbroken_fault {fault : Fault} (h : fault ∈ (ofDocument document).hierarchy.faults) :
    IsUnbroken fault.message := by
  rcases List.mem_append.mp h with hnotice | hrendered
  · obtain ⟨outcome, houtcome, hsome⟩ := List.mem_filterMap.mp hnotice
    obtain ⟨hblock, htag, -⟩ := of_mem_outcomes rfl houtcome
    obtain ⟨-, heq⟩ := Option.ite_none_left_eq_some.mp hsome
    rw [← Option.some.inj heq]
    apply Fault.isUnbroken_message
    · intro id hid
      rw [List.mem_singleton.mp hid]
      exact Block.isUnbroken_fileId hblock
    · intro tag hnamed
      rw [← Option.mem_some_iff.mp hnamed]
      exact Tag.isUnbroken_of_mem_ofRecords htag
  · have hnames := namesRecords_of_mem_faults hrendered
    apply Fault.isUnbroken_message
    · intro id hid
      exact isUnbroken_of_mem_ids (hnames.fileIds id hid)
    · intro tag htag
      exact Tag.isUnbroken_of_mem_ofRecords (hnames.tag tag htag)

/-- The message of a rejection has no line end in it. -/
theorem isUnbroken_rejection {error : RecordError} (h : error ∈ (ofDocument document).rejected) :
    IsUnbroken error.message := by
  obtain ⟨outcome, houtcome, hrejection⟩ := List.mem_filterMap.mp h
  obtain ⟨hblock, -, -⟩ := of_mem_outcomes rfl houtcome
  obtain ⟨key, first, second, rfl, -⟩ :=
    of_record_eq_error rfl houtcome (BlockOutcome.rejection?_eq_some_iff.mp hrejection)
  exact RecordError.isUnbroken_message (Block.isUnbroken_fileId hblock) ⟨key, first, second, rfl⟩

/-- The name of a transform has no line feed in it. -/
theorem not_mem_name {line : HierarchyLine} (hline : line ∈ (ofDocument document).hierarchy.lines) :
    '\n' ∉ (line.name.getD "").toList := by
  cases hname : line.name with
  | none => exact List.not_mem_nil
  | some name =>
      have hrendered : line ∈ (render (ofDocument document).gameObjects
        (ofDocument document).transforms).lines := hline
      obtain ⟨object, hobject, hsame⟩ := exists_gameObject_of_mem_lines hrendered hname
      obtain ⟨block, hblock, -, hscalar⟩ := exists_block_of_mem_gameObjects hobject
      exact Block.not_mem_scalar? hblock (hscalar.symm.trans hsame)

end Scene

/-! ## Dumps -/

theorem Hierarchy.not_mem_indent (depth : Nat) : '\n' ∉ (indent depth).toList := by
  intro hfeed
  rw [indent, String.toList_join] at hfeed
  obtain ⟨marker, hmarker, hmem⟩ := List.mem_flatMap.mp hfeed
  rw [(List.mem_replicate.mp hmarker).2] at hmem
  exact absurd hmem (by decide)

theorem Hierarchy.count_dumpLine {entry : Nat × String} (hname : '\n' ∉ entry.2.toList) :
    (dumpLine entry).toList.count '\n' = 1 := by
  rw [dumpLine, String.toList_append, String.toList_append, List.count_append, List.count_append,
    List.count_eq_zero_of_not_mem (not_mem_indent entry.1), List.count_eq_zero_of_not_mem hname]
  decide

/-- A dump has one line feed for each line. -/
theorem Hierarchy.count_dump {hierarchy : Hierarchy}
    (hnames : ∀ line ∈ hierarchy.lines, '\n' ∉ (line.name.getD "").toList) :
    hierarchy.dump.toList.count '\n' = hierarchy.lines.length := by
  rw [dump, entries, String.toList_join, List.map_map]
  generalize hierarchy.lines = lines at hnames
  induction lines with
  | nil => rfl
  | cons line lines ih =>
      rw [List.forall_mem_cons] at hnames
      have hone : (dumpLine (line.depth, line.name.getD "")).toList.count '\n' = 1 :=
        count_dumpLine hnames.1
      rw [List.map_cons, List.flatMap_cons, List.count_append, ih hnames.2, List.length_cons,
        Nat.add_comm]
      exact congrArg (lines.length + ·) hone

end SceneAudit
