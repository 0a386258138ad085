import SceneAudit.Proofs.Scene.WrittenBlock
import SceneAudit.Scene

/-!
# Reading a written scene

A written document is cut into one block for each record, since only the header
lines are delimiters; so the scene that is read has the records that were written
(`Scene.ofDocument_document`).
-/

namespace SceneAudit

open Text BodyLine

/-! ## Cutting the document -/

namespace Record

variable {record : Record}

theorem IsPrintable.fileId (h : record.IsPrintable) : record.fileId.IsPlain := by
  cases record with
  | gameObject object => exact GameObject.IsPrintable.fileId h
  | transform transform => exact Transform.IsPrintable.fileId h
  | script script => exact Script.IsPrintable.fileId h

theorem tag_mem_ofRecords (record : Record) : record.tag ∈ Tag.ofRecords := by
  cases record <;> simp [tag, Tag.ofRecords]

theorem starts_headerLine (h : record.IsPrintable) :
    (⟨record.tag, record.fileId⟩ : Header).Starts record.headerLine := by
  have htags : ∀ tag ∈ Tag.ofRecords, IsPlainRun tag.toList := by decide
  have htag := htags record.tag record.tag_mem_ofRecords
  refine ⟨[], ?_, htag.isDigitRun, h.fileId.isNumeral, noDigitFirst_nil⟩
  simp [headerLine]

theorem isDelimiter_headerLine (h : record.IsPrintable) :
    Header.isDelimiter record.headerLine = true :=
  Header.isDelimiter_of_starts (starts_headerLine h)

theorem className_mem (record : Record) :
    record.className ∈ ["GameObject", "Transform", "MonoBehaviour"] := by
  cases record <;> simp [className]

theorem not_delimiter_of_mem_behindHeader (record : Record) :
    ∀ line ∈ record.behindHeader, Header.isDelimiter line = false := by
  have hclasses : ∀ name ∈ ["GameObject", "Transform", "MonoBehaviour"],
      Header.isDelimiter (name ++ ":") = false := by decide
  rw [behindHeader, List.forall_mem_cons, List.forall_mem_map]
  exact ⟨hclasses _ record.className_mem, fun line _ => line.isDelimiter_text⟩

theorem isLine_of_mem_lines (h : record.IsPrintable) : ∀ line ∈ record.lines, IsLine line := by
  have htags : ∀ tag ∈ Tag.ofRecords, IsLine ("--- !u!" ++ tag ++ " &") := by decide
  have hclasses : ∀ name ∈ ["GameObject", "Transform", "MonoBehaviour"], IsLine (name ++ ":") := by
    decide
  rw [lines, behindHeader, List.forall_mem_cons, List.forall_mem_cons, List.forall_mem_map]
  exact ⟨(htags _ record.tag_mem_ofRecords).append h.fileId.isLine,
    hclasses _ record.className_mem, fun line hline => isLine_text (h.body line hline)⟩

/-! ## Records by kind -/

def gameObject? : Record → Option GameObject
  | gameObject record => some record
  | _ => none

def transform? : Record → Option Transform
  | transform record => some record
  | _ => none

def script? : Record → Option Script
  | script record => some record
  | _ => none

end Record

/-- The block that is written for the record, its header standing in the line `number`. -/
def Record.block (record : Record) (number : Nat) (terminated : Bool) : Block where
  tag := record.tag
  fileId := record.fileId
  headerLine := number
  lines := record.body.map text
  terminated := terminated

/-- The blocks that are written for the records, the first header standing in the line
`number`. -/
def blocksOf (number : Nat) : List Record → List Block
  | [] => []
  | record :: later =>
    record.block number (!later.isEmpty) :: blocksOf (number + record.lines.length) later

section Blocks

variable {records : List Record}

theorem reach_flatMap_lines (h : ∀ record ∈ records, record.IsPrintable) :
    OpenBlock.reach (records.flatMap Record.lines) = [] := by
  cases records with
  | nil => rfl
  | cons record later =>
      have hheader := Record.isDelimiter_headerLine (h record List.mem_cons_self)
      simp [OpenBlock.reach, Record.lines, hheader]

theorem any_isDelimiter_flatMap_lines (h : ∀ record ∈ records, record.IsPrintable) :
    (records.flatMap Record.lines).any Header.isDelimiter = !records.isEmpty := by
  cases records with
  | nil => rfl
  | cons record later =>
      have hheader := Record.isDelimiter_headerLine (h record List.mem_cons_self)
      simp [Record.lines, hheader]

/-- A record's block reaches to the header of the next one. -/
theorem finish_record (record : Record) (h : ∀ other ∈ records, other.IsPrintable) (number : Nat) :
    (OpenBlock.start ⟨record.tag, record.fileId⟩ number).finish
        (record.behindHeader ++ records.flatMap Record.lines) =
      record.block number (!records.isEmpty) := by
  have hinner := record.not_delimiter_of_mem_behindHeader
  have hreach : OpenBlock.reach (record.behindHeader ++ records.flatMap Record.lines) =
      record.behindHeader := by
    have hpassed : ∀ line ∈ record.behindHeader, (!Header.isDelimiter line) = true := by
      simpa using hinner
    rw [OpenBlock.reach, List.takeWhile_append_of_pos hpassed, ← OpenBlock.reach,
      reach_flatMap_lines h, List.append_nil]
  have hnone : record.behindHeader.any Header.isDelimiter = false := by
    simpa using hinner
  rw [OpenBlock.finish_start, hreach, List.any_append, hnone, any_isDelimiter_flatMap_lines h,
    Bool.false_or]
  rfl

theorem blocks_flatMap_lines (h : ∀ record ∈ records, record.IsPrintable) (number : Nat) :
    Segmenter.blocks ⟨Tag.ofRecords, records.flatMap Record.lines, number, none⟩ =
      blocksOf number records := by
  induction records generalizing number with
  | nil => exact Segmenter.blocks_nil number none
  | cons record later ih =>
      have hrecord := h record List.mem_cons_self
      have hlater : ∀ other ∈ later, other.IsPrintable :=
        fun other hother => h other (List.mem_cons_of_mem _ hother)
      have hopened : Segmenter.blockAt? Tag.ofRecords number record.headerLine
          (record.behindHeader ++ later.flatMap Record.lines) =
            some (record.block number (!later.isEmpty)) :=
        Segmenter.blockAt?_eq_some_iff.mpr ⟨_, Record.starts_headerLine hrecord,
          record.tag_mem_ofRecords, (finish_record record hlater number).symm⟩
      have hrest : Segmenter.blocks ⟨Tag.ofRecords,
          record.behindHeader ++ later.flatMap Record.lines, number + 1, none⟩ =
            blocksOf (number + record.lines.length) later := by
        have hlength : number + 1 + record.behindHeader.length = number + record.lines.length := by
          rw [Record.lines, List.length_cons]
          omega
        rw [Segmenter.blocks_append_of_not_delimiter record.not_delimiter_of_mem_behindHeader,
          ih hlater, hlength]
      rw [List.flatMap_cons, Record.lines, List.cons_append, Segmenter.blocks_outside_cons, hopened,
        hrest]
      rfl

/-- The preamble has lines of its own and no delimiter. -/
def IsPreamble (lines : List String) : Prop :=
  ∀ line ∈ lines, IsLine line ∧ Header.isDelimiter line = false

theorem isPreamble_editorPreamble : IsPreamble editorPreamble := by
  unfold IsPreamble
  decide

theorem segment_document {preamble : List String} (hpreamble : IsPreamble preamble)
    (h : ∀ record ∈ records, record.IsPrintable) :
    segment (document preamble records) Tag.ofRecords =
      blocksOf (1 + preamble.length) records := by
  have hlines : ∀ line ∈ preamble ++ records.flatMap Record.lines, IsLine line := by
    rw [List.forall_mem_append]
    refine ⟨fun line hline => (hpreamble line hline).1, ?_⟩
    intro line hline
    obtain ⟨record, hrecord, hmem⟩ := List.mem_flatMap.mp hline
    exact Record.isLine_of_mem_lines (h record hrecord) line hmem
  have houtside : ∀ line ∈ preamble, Header.isDelimiter line = false :=
    fun line hline => (hpreamble line hline).2
  rw [segment, Segmenter.ofDocument, document, lines_endedLines hlines,
    Segmenter.blocks_append_of_not_delimiter houtside, blocks_flatMap_lines h]

end Blocks

/-! ## The scene -/

namespace Scene

theorem filterMap_cons_eq {α β : Type} (f : α → Option β) (a : α) (as : List α) :
    (a :: as).filterMap f = (f a).toList ++ as.filterMap f := by
  cases ha : f a <;> simp [ha]

/-- Each block adds to a scene what becomes of it, whatever the other blocks are. -/
theorem ofBlocks_cons (block : Block) (blocks : List Block) :
    ofBlocks (block :: blocks) =
      { gameObjects := (BlockOutcome.ofBlock block).gameObject?.toList ++ (ofBlocks blocks).gameObjects
        transforms := (BlockOutcome.ofBlock block).transform?.toList ++ (ofBlocks blocks).transforms
        scripts := (BlockOutcome.ofBlock block).script?.toList ++ (ofBlocks blocks).scripts
        rejected := (BlockOutcome.ofBlock block).rejection?.toList ++ (ofBlocks blocks).rejected
        notices := (BlockOutcome.ofBlock block).notice?.toList ++ (ofBlocks blocks).notices } := by
  simp only [ofBlocks, List.map_cons, filterMap_cons_eq]

/-- The notice for the last of the written blocks, the first header standing in the
line `number`. -/
def lastNotice? (number : Nat) (records : List Record) : Option Fault :=
  records.getLast?.map fun last =>
    .unterminatedBlock last.fileId last.tag
      (number + (records.dropLast.flatMap Record.lines).length)

theorem lastNotice?_cons (number : Nat) (record next : Record) (later : List Record) :
    lastNotice? number (record :: next :: later) =
      lastNotice? (number + record.lines.length) (next :: later) := by
  simp [lastNotice?, Nat.add_assoc]

theorem ofBlocks_blocksOf {records : List Record} (h : ∀ record ∈ records, record.IsPrintable)
    (number : Nat) :
    ofBlocks (blocksOf number records) =
      { gameObjects := records.filterMap Record.gameObject?
        transforms := records.filterMap Record.transform?
        scripts := records.filterMap Record.script?
        rejected := []
        notices := (lastNotice? number records).toList } := by
  induction records generalizing number with
  | nil => rfl
  | cons record later ih =>
      have hread : BlockOutcome.ofBlock (record.block number (!later.isEmpty)) =
          ⟨record.block number (!later.isEmpty), .ok record⟩ := by
        rw [BlockOutcome.ofBlock, Record.ofBlock_eq_ok (h record List.mem_cons_self) rfl rfl rfl]
      have hlater := ih (fun other hother => h other (List.mem_cons_of_mem _ hother))
        (number + record.lines.length)
      have hnotice : (BlockOutcome.notice?
            ⟨record.block number (!later.isEmpty), .ok record⟩).toList ++
          (lastNotice? (number + record.lines.length) later).toList =
            (lastNotice? number (record :: later)).toList := by
        cases later with
        | nil => rfl
        | cons next later =>
            rw [lastNotice?_cons]
            rfl
      rw [blocksOf, ofBlocks_cons, hread, hlater, hnotice]
      simp only [filterMap_cons_eq]
      cases record <;> rfl

/-- **A written scene is read back**: the records by kind in the order they were
written, no block rejected, and one notice, for the last block. -/
theorem ofDocument_document {preamble : List String} (hpreamble : IsPreamble preamble)
    {records : List Record} (h : ∀ record ∈ records, record.IsPrintable) :
    ofDocument (document preamble records) =
      { gameObjects := records.filterMap Record.gameObject?
        transforms := records.filterMap Record.transform?
        scripts := records.filterMap Record.script?
        rejected := []
        notices := (lastNotice? (1 + preamble.length) records).toList } := by
  rw [ofDocument, segment_document hpreamble h, ofBlocks_blocksOf h]

end Scene

/-! ## A door below the ground -/

namespace Door

/-- The name reads like a header line and like an item of a child list. -/
def ground : GameObject :=
  ⟨⟨"1"⟩, some "--- !u!4 &7: - \x7bfileID: 9\x7d", [.resolved ⟨"10"⟩, .resolved ⟨"-30"⟩]⟩

def groundTransform : Transform :=
  ⟨⟨"10"⟩, .resolved ⟨"1"⟩, [.resolved ⟨"20"⟩, .resolved ⟨"20"⟩], .resolved FileId.root⟩

def opener : Script :=
  ⟨⟨"-30"⟩, .resolved ⟨"11500000"⟩, .resolved ⟨"0fe9"⟩, .resolved ⟨"1"⟩⟩

def door : GameObject :=
  ⟨⟨"2"⟩, none, []⟩

def doorTransform : Transform :=
  ⟨⟨"20"⟩, .resolved ⟨"2"⟩, [], .resolved ⟨"10"⟩⟩

def records : List Record :=
  [.transform doorTransform, .gameObject ground, .script opener, .transform groundTransform,
    .gameObject door]

theorem isPrintable : ∀ record ∈ records, record.IsPrintable := by
  have hplain : ∀ id ∈ ["0", "1", "2", "10", "20", "-30", "11500000"], FileId.IsPlain ⟨id⟩ := by
    decide
  have hresolves : ∀ id ∈ ["0", "1", "2", "10", "20", "-30", "11500000"],
      Reference.ResolvesTo FileId.IsPlain (.resolved ⟨id⟩) := fun id hid => ⟨_, rfl, hplain id hid⟩
  have hground : ground.IsPrintable := by
    refine ⟨hplain _ (by decide), ?_, ?_⟩
    · rintro name hname
      obtain rfl := Option.some.inj hname
      decide
    · simp [ground, hresolves]
  have hgroundTransform : groundTransform.IsPrintable := by
    refine ⟨hplain _ (by decide), hresolves _ (by decide), ?_, hresolves _ (by decide)⟩
    simp [groundTransform, hresolves]
  have hopener : opener.IsPrintable :=
    ⟨hplain _ (by decide), hresolves _ (by decide), ⟨_, rfl, by decide⟩, hresolves _ (by decide)⟩
  have hdoor : door.IsPrintable :=
    ⟨hplain _ (by decide), by simp [door], by simp [door]⟩
  have hdoorTransform : doorTransform.IsPrintable :=
    ⟨hplain _ (by decide), hresolves _ (by decide), by simp [doorTransform], hresolves _ (by decide)⟩
  intro record hrecord
  simp only [records, List.mem_cons, List.not_mem_nil, or_false] at hrecord
  rcases hrecord with rfl | rfl | rfl | rfl | rfl
  · exact hdoorTransform
  · exact hground
  · exact hopener
  · exact hgroundTransform
  · exact hdoor

theorem ofDocument_eq :
    Scene.ofDocument (document editorPreamble records) =
      { gameObjects := [ground, door]
        transforms := [doorTransform, groundTransform]
        scripts := [opener]
        rejected := []
        notices := [.unterminatedBlock ⟨"2"⟩ Tag.gameObject 41] } :=
  Scene.ofDocument_document isPreamble_editorPreamble isPrintable

end Door

end SceneAudit
