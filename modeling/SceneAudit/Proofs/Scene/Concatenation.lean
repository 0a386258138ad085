import SceneAudit.Proofs.Record.LineNumber
import SceneAudit.Proofs.Text.Line
import SceneAudit.Scene

/-!
# One document behind another

A document can be cut in front of any delimiter line and read in two parts
(`Scene.ofDocument_append`).  The block that is open at the cut is closed by the
delimiter and so loses its notice; the second part keeps everything but its line
numbers, which go up by the lines of the first part.

A scene is a list of what became of each block, so it is enough to know what the
two changes to a block do to it: `ofBlocks_closed` and `ofBlocks_movedDown`.
-/

namespace SceneAudit

open Text

/-- The fault with `count` more lines in front of the document. -/
def Fault.movedDown (count : Nat) : Fault → Fault
  | unterminatedBlock fileId tag headerLine => unterminatedBlock fileId tag (headerLine + count)
  | cycle members => cycle members
  | revisit parent child => revisit parent child
  | duplicateFileId fileId tag => duplicateFileId fileId tag

namespace Scene

/-! ## What becomes of one block -/

namespace BlockOutcome

variable (count : Nat) (block : Block)

theorem record_movedDown : (ofBlock (block.movedDown count)).record =
    (ofBlock block).record.mapError (RecordError.movedDown count) :=
  Record.ofBlock_movedDown count block

theorem gameObject?_movedDown :
    (ofBlock (block.movedDown count)).gameObject? = (ofBlock block).gameObject? := by
  unfold gameObject?
  rw [record_movedDown]
  cases (ofBlock block).record <;> rfl

theorem transform?_movedDown :
    (ofBlock (block.movedDown count)).transform? = (ofBlock block).transform? := by
  unfold transform?
  rw [record_movedDown]
  cases (ofBlock block).record <;> rfl

theorem script?_movedDown :
    (ofBlock (block.movedDown count)).script? = (ofBlock block).script? := by
  unfold script?
  rw [record_movedDown]
  cases (ofBlock block).record <;> rfl

theorem rejection?_movedDown : (ofBlock (block.movedDown count)).rejection? =
    (ofBlock block).rejection?.map (RecordError.movedDown count) := by
  unfold rejection?
  rw [record_movedDown]
  cases (ofBlock block).record <;> rfl

theorem notice?_movedDown : (ofBlock (block.movedDown count)).notice? =
    (ofBlock block).notice?.map (Fault.movedDown count) := by
  show (if block.terminated then none else some (Fault.unterminatedBlock _ _ _)) =
    (if block.terminated then none else some (Fault.unterminatedBlock _ _ _)).map _
  cases block.terminated <;> rfl

theorem notice?_closed : (ofBlock block.closed).notice? = none :=
  rfl

end BlockOutcome

/-! ## Lists of blocks -/

theorem ofBlocks_append (front back : List Block) :
    ofBlocks (front ++ back) =
      { gameObjects := (ofBlocks front).gameObjects ++ (ofBlocks back).gameObjects
        transforms := (ofBlocks front).transforms ++ (ofBlocks back).transforms
        scripts := (ofBlocks front).scripts ++ (ofBlocks back).scripts
        rejected := (ofBlocks front).rejected ++ (ofBlocks back).rejected
        notices := (ofBlocks front).notices ++ (ofBlocks back).notices } := by
  simp only [ofBlocks, List.map_append, List.filterMap_append]

theorem ofBlocks_closed (blocks : List Block) :
    ofBlocks (blocks.map Block.closed) = { ofBlocks blocks with notices := [] } := by
  have hnotices : (blocks.map Block.closed).filterMap
      (fun block => (BlockOutcome.ofBlock block).notice?) = [] := by
    rw [List.filterMap_map, List.filterMap_eq_nil_iff]
    intro block _
    exact BlockOutcome.notice?_closed block
  unfold ofBlocks
  simp only [List.filterMap_map, Function.comp_def] at hnotices ⊢
  rw [hnotices]
  rfl

theorem ofBlocks_movedDown (count : Nat) (blocks : List Block) :
    ofBlocks (blocks.map (Block.movedDown count)) =
      { ofBlocks blocks with
        rejected := (ofBlocks blocks).rejected.map (RecordError.movedDown count)
        notices := (ofBlocks blocks).notices.map (Fault.movedDown count) } := by
  unfold ofBlocks
  simp only [List.filterMap_map, List.map_filterMap, Function.comp_def,
    BlockOutcome.gameObject?_movedDown, BlockOutcome.transform?_movedDown,
    BlockOutcome.script?_movedDown, BlockOutcome.rejection?_movedDown,
    BlockOutcome.notice?_movedDown]

/-! ## Documents -/

/-- The document is empty, or a delimiter line is its first. -/
def IsCutPoint (document : String) : Prop :=
  document = "" ∨ Header.delimiter <+: document.toList

instance (document : String) : Decidable (IsCutPoint document) :=
  inferInstanceAs (Decidable (_ ∨ _))

theorem startsDelimited_lines {document : String} (h : Header.delimiter <+: document.toList) :
    Segmenter.StartsDelimited (lines document) := by
  obtain ⟨line, more, hlines, hline⟩ :=
    exists_lines_cons_of_prefix h (by decide) (by decide) (by decide)
  exact ⟨line, more, hlines, List.isPrefixOf_iff_prefix.mpr hline⟩

theorem segment_append {front back : String} (hfront : EndsLine front)
    (hback : Header.delimiter <+: back.toList) (tags : List String) :
    segment (front ++ back) tags =
      (segment front tags).map Block.closed ++
        (segment back tags).map (Block.movedDown (lines front).length) := by
  have hstart := startsDelimited_lines hback
  unfold segment Segmenter.ofDocument
  rw [lines_append hfront, Segmenter.blocks_append hstart, Segmenter.blocks_add]

/-- **A document is read part by part.** -/
theorem ofDocument_append {front back : String} (hfront : EndsLine front)
    (hback : IsCutPoint back) :
    ofDocument (front ++ back) =
      { gameObjects := (ofDocument front).gameObjects ++ (ofDocument back).gameObjects
        transforms := (ofDocument front).transforms ++ (ofDocument back).transforms
        scripts := (ofDocument front).scripts ++ (ofDocument back).scripts
        rejected := (ofDocument front).rejected ++
          (ofDocument back).rejected.map (RecordError.movedDown (lines front).length)
        notices :=
          if back = "" then (ofDocument front).notices
          else (ofDocument back).notices.map (Fault.movedDown (lines front).length) } := by
  rcases hback with rfl | hdelimiter
  · have hempty : ofDocument "" = ⟨[], [], [], [], []⟩ := rfl
    rw [String.append_empty, hempty, if_pos rfl]
    simp only [List.append_nil, List.map_nil]
  · have hne : back ≠ "" := by
      rintro rfl
      exact absurd hdelimiter (by decide)
    rw [if_neg hne]
    unfold ofDocument
    rw [segment_append hfront hdelimiter, ofBlocks_append, ofBlocks_closed, ofBlocks_movedDown]
    simp only [List.nil_append]

end Scene

/-! ## A hall and a cellar -/

namespace HallAndCellar

/-- The hall's block is rejected, and open at the end of its document. -/
def hall : String :=
  "--- !u!1 &1\nGameObject:\n  m_Name: Hall\n  m_Name: Room\n"

def cellar : String :=
  "--- !u!4 &2\nTransform:\n  m_Father: \n  m_Father: \n--- !u!1 &3\nGameObject:\n  m_Name: Cellar"

theorem scene_eq :
    (EndsLine hall ∧ Scene.IsCutPoint cellar) ∧
      Scene.ofDocument (hall ++ cellar) =
        { gameObjects := [⟨⟨"3"⟩, some "Cellar", []⟩]
          transforms := []
          scripts := []
          rejected := [.duplicateKey ⟨"1"⟩ .name 3 4, .duplicateKey ⟨"2"⟩ .father 7 8]
          notices := [.unterminatedBlock ⟨"3"⟩ Tag.gameObject 9] } := by
  have hhall : EndsLine hall := by decide +kernel
  have hcellar : Scene.IsCutPoint cellar := by decide +kernel
  refine ⟨⟨hhall, hcellar⟩, ?_⟩
  rw [Scene.ofDocument_append hhall hcellar]
  decide +kernel

end HallAndCellar

end SceneAudit
