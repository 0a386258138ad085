import SceneAudit.Proofs.Record.LineNumber
import SceneAudit.Proofs.Scene.Layout
import SceneAudit.Scene

/-!
# What becomes of each block

Every block of a document becomes one record or one rejection, in the order of the
document (`Scene.exists_accountsFor`).  Only tags that records have are looked for,
so no block is rejected for its tag; a rejection names two lines, and these lines
of the document stand inside the block and give the same key.

The number of a body line is worked out from the header's number by the reader of
records, and the class line is dropped by the segmenter.  That both agree is
`lineNumber_segment`; that a body ends before the next delimiter line is
`lineNumber_lt_of_delimiter`.
-/

namespace SceneAudit

open Text

/-! ## Records and their blocks -/

namespace Record

variable {block : Block}

theorem ofDistinct_eq_ok (htag : block.tag ∈ Tag.ofRecords) :
    ∃ record, ofDistinct block = .ok record ∧ record.tag = block.tag ∧
      record.fileId = block.fileId := by
  have htags : block.tag = Tag.gameObject ∨ block.tag = Tag.transform ∨ block.tag = Tag.script := by
    simpa [Tag.ofRecords] using htag
  have htransform : Tag.transform ≠ Tag.gameObject := by decide
  have hscript : Tag.script ≠ Tag.gameObject ∧ Tag.script ≠ Tag.transform := by decide
  unfold ofDistinct
  rcases htags with hkind | hkind | hkind
  · rw [if_pos hkind]
    exact ⟨_, rfl, hkind.symm, rfl⟩
  · rw [if_neg (hkind ▸ htransform), if_pos hkind]
    exact ⟨_, rfl, hkind.symm, rfl⟩
  · rw [if_neg (hkind ▸ hscript.1), if_neg (hkind ▸ hscript.2), if_pos hkind]
    exact ⟨_, rfl, hkind.symm, rfl⟩

theorem of_ofBlock_eq_ok (htag : block.tag ∈ Tag.ofRecords) {record : Record}
    (h : ofBlock block = .ok record) : record.tag = block.tag ∧ record.fileId = block.fileId := by
  obtain ⟨read, hread, hreadTag, hreadId⟩ := ofDistinct_eq_ok htag
  unfold ofBlock at h
  split at h
  · exact absurd h (by simp)
  · obtain rfl := Except.ok.inj (hread.symm.trans h)
    exact ⟨hreadTag, hreadId⟩

/-- Only a repeated key rejects a block of a supported tag. -/
theorem of_ofBlock_eq_error (htag : block.tag ∈ Tag.ofRecords) {error : RecordError}
    (h : ofBlock block = .error error) :
    ∃ first second, repeatedKey? [] block.occurrences = some (first, second) ∧
      error = .duplicateKey block.fileId second.key first.line second.line := by
  obtain ⟨read, hread, -⟩ := ofDistinct_eq_ok htag
  unfold ofBlock at h
  split at h
  · rename_i first second hrepeated
    exact ⟨first, second, hrepeated, (Except.error.inj h).symm⟩
  · exact absurd (hread.symm.trans h) (by simp)

end Record

/-! ## Where a body ends -/

section Document

variable {document : String} {tags : List String} {block : Block}

theorem not_delimiter_of_lt_length_reach {following : List String} {index : Nat} {line : String}
    (hindex : index < (OpenBlock.reach following).length) (hline : following[index]? = some line) :
    Header.isDelimiter line = false := by
  obtain ⟨rest, hrest⟩ : OpenBlock.reach following <+: following := List.takeWhile_prefix _
  rw [← hrest, List.getElem?_append_left hindex] at hline
  have hpassed := List.mem_takeWhile_imp (List.mem_of_getElem? hline)
  simpa using hpassed

/-- A body ends before the next delimiter line. -/
theorem lineNumber_lt_of_delimiter (hblock : block ∈ segment document tags) {index : Nat}
    {line : String} (hline : block.lines[index]? = some line) {number : Nat} {delimiter : String}
    (hnumber : lineAt? (Text.lines document) number = some delimiter)
    (hdelimiter : Header.isDelimiter delimiter = true) (hlater : block.headerLine < number) :
    block.lineNumber index < number := by
  obtain ⟨before, opening, following, hlines, header, -, -, rfl⟩ := mem_segment_iff.mp hblock
  rw [OpenBlock.finish_start] at hline hlater ⊢
  change before.length + 1 < number at hlater
  show before.length + 1 + 2 + index < number
  by_contra hle
  -- the delimiter line would be one of those that the block reaches over
  obtain ⟨offset, rfl⟩ := Nat.exists_eq_add_of_lt hlater
  have hfollowing : following[offset]? = some delimiter := by
    have hat : before.length + 1 + offset = before.length + (offset + 1) := by omega
    rw [hlines, lineAt?, hat, List.getElem?_append_right (Nat.le_add_right _ _),
      Nat.add_sub_cancel_left, List.getElem?_cons_succ] at hnumber
    exact hnumber
  have hreach : offset < (OpenBlock.reach following).length := by
    obtain ⟨hlt, -⟩ := List.getElem?_eq_some_iff.mp hline
    rw [List.length_drop] at hlt
    omega
  have hinner := not_delimiter_of_lt_length_reach hreach hfollowing
  rw [hdelimiter] at hinner
  exact Bool.noConfusion hinner

/-! ## Rejections -/

/-- Two lines of the block, the first before the second, give the key. -/
structure RepeatsKey (lines : List String) (block : Block) (key : ScalarKey) (first second : Nat) :
    Prop where
  behindHeader : block.headerLine < first
  ascending : first < second
  /-- No delimiter line stands between the header and the second line. -/
  beforeDelimiter : ∀ number line, lineAt? lines number = some line →
    Header.isDelimiter line = true → block.headerLine < number → second < number
  carriedByFirst : ∃ line, lineAt? lines first = some line ∧ key.CarriedBy line
  carriedBySecond : ∃ line, lineAt? lines second = some line ∧ key.CarriedBy line

theorem repeatsKey_of_repeatedKey? (hblock : block ∈ segment document tags)
    {first second : Occurrence}
    (h : repeatedKey? [] block.occurrences = some (first, second)) :
    RepeatsKey (Text.lines document) block second.key first.line second.line := by
  obtain ⟨hfirst, hsecond, hkey, hlt⟩ := lt_of_repeatedKey? h
  obtain ⟨index, line, hline, hnumber, hcarried⟩ := Block.carriesKey_of_mem_occurrences hfirst
  obtain ⟨later, laterLine, hlaterLine, hlaterNumber, hlaterCarried⟩ :=
    Block.carriesKey_of_mem_occurrences hsecond
  rw [hkey] at hcarried
  have hat := lineNumber_segment hblock hline
  have hlaterAt := lineNumber_segment hblock hlaterLine
  rw [← hnumber] at hat
  rw [← hlaterNumber] at hlaterAt
  refine ⟨?_, hlt, ?_, ⟨line, hat, hcarried⟩, ⟨laterLine, hlaterAt, hlaterCarried⟩⟩
  · rw [hnumber]
    unfold Block.lineNumber
    omega
  · intro number delimiter hdelimiterAt hdelimiter hbehind
    rw [hlaterNumber]
    exact lineNumber_lt_of_delimiter hblock hlaterLine hdelimiterAt hdelimiter hbehind

end Document

/-! ## The account -/

namespace Scene

theorem BlockOutcome.rejection?_eq_some_iff {outcome : BlockOutcome} {error : RecordError} :
    outcome.rejection? = some error ↔ outcome.record = .error error := by
  unfold rejection?
  cases outcome.record <;> simp

theorem length_outcomes (outcomes : List BlockOutcome) :
    (outcomes.filterMap (·.gameObject?)).length + (outcomes.filterMap (·.transform?)).length +
        (outcomes.filterMap (·.script?)).length + (outcomes.filterMap (·.rejection?)).length =
      outcomes.length := by
  induction outcomes with
  | nil => rfl
  | cons outcome outcomes ih =>
      obtain ⟨block, result⟩ := outcome
      rw [List.length_cons, ← ih]
      rcases result with error | ⟨object | transform | script⟩ <;>
        simp only [List.filterMap_cons, BlockOutcome.gameObject?, BlockOutcome.transform?,
          BlockOutcome.script?, BlockOutcome.rejection?, List.length_cons] <;>
        omega

section Outcome

variable {document : String} {blocks : List Block} {outcome : BlockOutcome}

theorem of_mem_outcomes (hblocks : blocks = segment document Tag.ofRecords)
    (h : outcome ∈ blocks.map BlockOutcome.ofBlock) :
    outcome.block ∈ segment document Tag.ofRecords ∧
      outcome.block.tag ∈ Tag.ofRecords ∧ outcome.record = Record.ofBlock outcome.block := by
  obtain ⟨block, hblock, rfl⟩ := List.mem_map.mp h
  rw [hblocks] at hblock
  exact ⟨hblock, tag_mem_of_mem_segment hblock, rfl⟩

theorem of_record_eq_ok (hblocks : blocks = segment document Tag.ofRecords)
    (h : outcome ∈ blocks.map BlockOutcome.ofBlock) {record : Record}
    (hrecord : outcome.record = .ok record) :
    record.tag = outcome.block.tag ∧ record.fileId = outcome.block.fileId := by
  obtain ⟨-, htag, hread⟩ := of_mem_outcomes hblocks h
  exact Record.of_ofBlock_eq_ok htag (hread.symm.trans hrecord)

theorem of_record_eq_error (hblocks : blocks = segment document Tag.ofRecords)
    (h : outcome ∈ blocks.map BlockOutcome.ofBlock) {error : RecordError}
    (herror : outcome.record = .error error) :
    ∃ key first second, error = .duplicateKey outcome.block.fileId key first second ∧
      RepeatsKey (Text.lines document) outcome.block key first second := by
  obtain ⟨hblock, htag, hread⟩ := of_mem_outcomes hblocks h
  obtain ⟨first, second, hrepeated, rfl⟩ :=
    Record.of_ofBlock_eq_error htag (hread.symm.trans herror)
  exact ⟨second.key, first.line, second.line, rfl, repeatsKey_of_repeatedKey? hblock hrepeated⟩

end Outcome

/-- The records and rejections of a scene are what became of the blocks of the
document, one of each block. -/
structure AccountsFor (scene : Scene) (document : String) (outcomes : List BlockOutcome) :
    Prop where
  blocks_eq : outcomes.map BlockOutcome.block = segment document Tag.ofRecords
  ascending : outcomes.Pairwise fun first second =>
    first.block.headerLine < second.block.headerLine
  gameObjects_eq : scene.gameObjects = outcomes.filterMap (·.gameObject?)
  transforms_eq : scene.transforms = outcomes.filterMap (·.transform?)
  scripts_eq : scene.scripts = outcomes.filterMap (·.script?)
  rejected_eq : scene.rejected = outcomes.filterMap (·.rejection?)
  count_eq : scene.recordCount + scene.rejected.length = (segment document Tag.ofRecords).length
  /-- A record has the tag and the file identifier of its block. -/
  of_record : ∀ outcome ∈ outcomes, ∀ record, outcome.record = .ok record →
    record.tag = outcome.block.tag ∧ record.fileId = outcome.block.fileId
  supported : ∀ fileId tag, RecordError.unsupportedTag fileId tag ∉ scene.rejected
  of_duplicateKey : ∀ outcome ∈ outcomes, ∀ fileId key first second,
    outcome.record = .error (.duplicateKey fileId key first second) →
      fileId = outcome.block.fileId ∧
        RepeatsKey (Text.lines document) outcome.block key first second

/-- **No block is lost**, and every rejection points at the two lines that caused it. -/
theorem exists_accountsFor (document : String) :
    ∃ outcomes, (ofDocument document).AccountsFor document outcomes := by
  obtain ⟨blocks, hblocks⟩ : ∃ blocks, blocks = segment document Tag.ofRecords := ⟨_, rfl⟩
  rw [ofDocument, ← hblocks]
  refine ⟨blocks.map BlockOutcome.ofBlock, ?_, ?_, rfl, rfl, rfl, rfl, ?_, ?_, ?_, ?_⟩
  · rw [List.map_map, ← hblocks]
    exact List.map_id _
  · rw [List.pairwise_map, hblocks]
    exact Segmenter.pairwise_headerLine_blocks _ 1
  · rw [← hblocks]
    calc
      _ = (blocks.map BlockOutcome.ofBlock).length := length_outcomes _
      _ = blocks.length := List.length_map _
  · intro outcome houtcome record hrecord
    exact of_record_eq_ok hblocks houtcome hrecord
  · intro fileId tag hrejected
    obtain ⟨outcome, houtcome, hrejection⟩ := List.mem_filterMap.mp hrejected
    have herror := BlockOutcome.rejection?_eq_some_iff.mp hrejection
    obtain ⟨_, _, _, heq, -⟩ := of_record_eq_error hblocks houtcome herror
    exact absurd heq (by simp)
  · intro outcome houtcome fileId key first second herror
    obtain ⟨_, _, _, heq, hrepeats⟩ := of_record_eq_error hblocks houtcome herror
    obtain ⟨rfl, rfl, rfl, rfl⟩ := RecordError.duplicateKey.inj heq
    exact ⟨rfl, hrepeats⟩

end Scene

end SceneAudit
