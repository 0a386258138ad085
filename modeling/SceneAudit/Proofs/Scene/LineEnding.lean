import SceneAudit.Proofs.Block.Comparison
import SceneAudit.Proofs.Record.Fields
import SceneAudit.Proofs.Sidecar.TopLevel
import SceneAudit.Proofs.Text.LineEnding
import SceneAudit.Scene

/-!
# Scenes and sidecars with other line ends

A text is read as the same scene and as the same sidecar when its lines end in a carriage
return and a line feed, and when its last line is ended (`sameReading_of_lineEndings`).

The first change leaves all lines as they are.  The second one takes a carriage return
from the last line at most, and in every part of the text that this line can be, what it
says is decided by what stands in front of its trailing blanks (`saysAlike_dropReturn`):
a header and its file identifier are over before, keys, values and items are trimmed.
Only a line of nothing but blanks is indented differently, and such a line says nothing.
-/

namespace SceneAudit

open Text

/-! ## One line -/

/-- The lines say the same at every place of a scene document. -/
structure SaysAlike (line other : String) : Prop where
  delimiter : Header.SameDelimiter line other
  field_eq : FieldLine.ofLine line = FieldLine.ofLine other
  allBlank_eq : allBlank line.toList = allBlank other.toList
  /-- Lines of nothing but blanks may be indented differently. -/
  indentation_eq : allBlank other.toList = false → indentation line.toList = indentation other.toList

theorem SaysAlike.refl (line : String) : SaysAlike line line :=
  ⟨⟨rfl, fun _ => rfl⟩, rfl, rfl, fun _ => rfl⟩

section Return

variable {line returned : String} (hreturned : returned.toList = line.toList ++ ['\r'])

include hreturned

theorem Header.isDelimiter_of_returned : isDelimiter returned = isDelimiter line := by
  rw [Bool.eq_iff_iff, isDelimiter, isDelimiter, List.isPrefixOf_iff_prefix,
    List.isPrefixOf_iff_prefix, hreturned, List.prefix_concat_iff]
  refine or_iff_right fun heq => ?_
  -- a delimiter has no carriage return at its end
  have hlast := congrArg List.getLast? heq
  rw [List.getLast?_concat] at hlast
  exact absurd hlast (by decide)

theorem Header.starts_iff_of_returned {header : Header} :
    header.Starts returned ↔ header.Starts line := by
  have hdigit : isDecimalDigit '\r' = false := by decide
  constructor
  · rintro ⟨after, hline, htag, hfileId, hafter⟩
    rw [hreturned] at hline
    rcases List.eq_nil_or_concat after with rfl | ⟨front, last, rfl⟩
    · -- the file identifier ends in a digit
      obtain ⟨digits, last, hlast, hdecimal⟩ := hfileId.exists_last
      rw [List.append_nil, hlast, ← List.append_assoc] at hline
      obtain rfl := List.singleton_inj.mp (List.append_inj' hline rfl).2
      rw [hdigit] at hdecimal
      exact absurd hdecimal Bool.false_ne_true
    · rw [List.concat_eq_append, ← List.append_assoc] at hline
      refine ⟨front, (List.append_inj' hline rfl).1, htag, hfileId, ?_⟩
      intro c hc
      exact hafter c (by rw [List.concat_eq_append, List.head?_append, hc]; rfl)
  · rintro ⟨after, hline, htag, hfileId, hafter⟩
    refine ⟨after ++ ['\r'], by rw [hreturned, hline, List.append_assoc], htag, hfileId, ?_⟩
    cases after with
    | nil => exact noDigitFirst_cons hdigit []
    | cons c after => exact noDigitFirst_cons (hafter c rfl) _

theorem saysAlike_of_returned : SaysAlike returned line := by
  constructor
  · refine ⟨Header.isDelimiter_of_returned hreturned, fun _ => Option.ext fun header => ?_⟩
    rw [Header.read?_eq_some_iff, Header.read?_eq_some_iff, Header.starts_iff_of_returned hreturned]
  · rw [FieldLine.ofLine, hreturned, trim_concat_of_blank isBlank_return, FieldLine.ofLine]
  · rw [hreturned, allBlank_concat_of_blank isBlank_return]
  · intro hsolid
    rw [hreturned, indentation_append hsolid]

end Return

theorem SaysAlike.symm {line other : String} (h : SaysAlike line other) : SaysAlike other line where
  delimiter := ⟨h.delimiter.isDelimiter_eq.symm, fun hother =>
    (h.delimiter.read?_eq (h.delimiter.isDelimiter_eq.trans hother)).symm⟩
  field_eq := h.field_eq.symm
  allBlank_eq := h.allBlank_eq.symm
  indentation_eq hsolid := (h.indentation_eq (h.allBlank_eq ▸ hsolid)).symm

theorem eq_or_concat_of_dropReturn (line : List Char) :
    dropReturn line = line ∨ line = dropReturn line ++ ['\r'] := by
  by_cases hlast : line.getLast? = some '\r'
  · obtain ⟨front, rfl⟩ := List.getLast?_eq_some_iff.mp hlast
    rw [dropReturn_concat]
    exact .inr rfl
  · exact .inl (dropReturn_eq hlast)

/-- A carriage return at its end makes no difference to what a line says. -/
theorem saysAlike_dropReturn (line : String) :
    SaysAlike (String.ofList (dropReturn line.toList)) line := by
  rcases eq_or_concat_of_dropReturn line.toList with hsame | hreturned
  · rw [hsame, String.ofList_toList]
    exact .refl line
  · apply SaysAlike.symm
    apply saysAlike_of_returned
    rw [String.toList_ofList]
    exact hreturned

/-! ## One block -/

namespace Block.Related

variable {block other : Block}

theorem indent?_eq (h : Related SaysAlike block other) : block.indent? = other.indent? :=
  indent?_eq_of_forall₂ (h.lines.imp fun _ _ hline => ⟨hline.allBlank_eq, hline.indentation_eq⟩)

/-- Whatever is taken of the top level, and nothing of lines that say nothing, is the same. -/
theorem filterMap_fieldLines_eq {γ : Type} (h : Related SaysAlike block other)
    {take : Nat × FieldLine → Option γ} (htake : ∀ number, take (number, .other) = none) :
    block.fieldLines.filterMap take = other.fieldLines.filterMap take := by
  have hnumber : ∀ index, block.lineNumber index = other.lineNumber index := by
    intro index
    rw [lineNumber, h.headerLine_eq, lineNumber]
  unfold fieldLines
  rw [h.indent?_eq]
  cases other.indent? with
  | none => rfl
  | some indent =>
      rw [List.filterMap_filterMap, List.filterMap_filterMap]
      apply filterMap_eq_of_forall₂ (forall₂_zipIdx h.lines 0)
      rintro ⟨line, index⟩ ⟨otherLine, _⟩ ⟨hline, rfl⟩
      simp only [hnumber]
      change (if _ then some (_, FieldLine.ofLine line) else none).bind take =
        (if _ then some (_, FieldLine.ofLine otherLine) else none).bind take
      rw [hline.field_eq]
      cases hblank : allBlank otherLine.toList with
      | true =>
          rw [FieldLine.ofLine_of_allBlank hblank]
          split_ifs <;> simp [htake]
      | false => rw [hline.indentation_eq hblank]

theorem occurrences_eq (h : Related SaysAlike block other) : block.occurrences = other.occurrences :=
  h.filterMap_fieldLines_eq fun _ => rfl

theorem componentItems_eq (h : Related SaysAlike block other) :
    block.componentItems = other.componentItems :=
  h.filterMap_fieldLines_eq fun _ => rfl

theorem childItems_eq (h : Related SaysAlike block other) : block.childItems = other.childItems :=
  h.filterMap_fieldLines_eq fun _ => rfl

theorem ofBlock_eq (h : Related SaysAlike block other) : Record.ofBlock block = Record.ofBlock other := by
  unfold Record.ofBlock Record.ofDistinct Block.scalar?
  rw [h.occurrences_eq, h.componentItems_eq, h.childItems_eq, h.tag_eq, h.fileId_eq]

theorem notice?_eq (h : Related SaysAlike block other) :
    (Scene.BlockOutcome.ofBlock block).notice? = (Scene.BlockOutcome.ofBlock other).notice? := by
  unfold Scene.BlockOutcome.notice? Scene.BlockOutcome.ofBlock
  rw [h.terminated_eq, h.tag_eq, h.fileId_eq, h.headerLine_eq]

end Block.Related

/-! ## Scenes -/

namespace Scene

/-- Blocks whose lines say the same give the same scene. -/
theorem ofBlocks_eq_of_related {blocks others : List Block}
    (h : List.Forall₂ (Block.Related SaysAlike) blocks others) : ofBlocks blocks = ofBlocks others := by
  have hrecord : ∀ {γ : Type} {take : BlockOutcome → Option γ},
      (∀ block other, Record.ofBlock block = Record.ofBlock other →
        take (.ofBlock block) = take (.ofBlock other)) →
        (blocks.map BlockOutcome.ofBlock).filterMap take =
          (others.map BlockOutcome.ofBlock).filterMap take := by
    intro γ take htake
    rw [List.filterMap_map, List.filterMap_map]
    exact filterMap_eq_of_forall₂ h fun block other halike => htake block other halike.ofBlock_eq
  have hnotices : (blocks.map BlockOutcome.ofBlock).filterMap BlockOutcome.notice? =
      (others.map BlockOutcome.ofBlock).filterMap BlockOutcome.notice? := by
    rw [List.filterMap_map, List.filterMap_map]
    exact filterMap_eq_of_forall₂ h fun _ _ halike => halike.notice?_eq
  unfold ofBlocks
  simp only [hnotices]
  congr 1
  all_goals
    apply hrecord
    intro block other hsame
    simp only [BlockOutcome.gameObject?, BlockOutcome.transform?, BlockOutcome.script?,
      BlockOutcome.rejection?, BlockOutcome.ofBlock, hsame]

theorem ofDocument_eq_of_saysAlike {document other : String}
    (h : List.Forall₂ SaysAlike (lines document) (lines other)) :
    ofDocument document = ofDocument other :=
  ofBlocks_eq_of_related (Segmenter.blocks_related (fun _ _ halike => halike.delimiter) h 1)

theorem ofDocument_append_lineFeed {document : String} (h : document.toList.getLast? ≠ some '\n') :
    ofDocument (document ++ "\n") = ofDocument document := by
  rcases lines_append_lineFeed h with rfl | ⟨front, last, hlines, hended⟩
  · rfl
  · apply ofDocument_eq_of_saysAlike
    rw [hlines, hended]
    exact List.rel_append (List.forall₂_same.mpr fun line _ => .refl line)
      (.cons (saysAlike_dropReturn last) .nil)

end Scene

/-! ## Sidecars -/

namespace Sidecar

/-- A carriage return at the end of a line is no text of the top level, and where it is all of the
line it is a blank in front. -/
theorem topLevel?_dropReturn (line : String) :
    topLevel? (String.ofList (dropReturn line.toList)) = topLevel? line ∨
      topLevel? line = none ∧ topLevel? (String.ofList (dropReturn line.toList)) = some "" := by
  rcases eq_or_concat_of_dropReturn line.toList with hsame | hreturned
  · rw [hsame, String.ofList_toList]
    exact .inl rfl
  · generalize dropReturn line.toList = kept at hreturned
    unfold topLevel?
    rw [hreturned, String.toList_ofList, trimEnd_concat_of_blank isBlank_return]
    cases kept with
    | nil => exact .inr ⟨rfl, rfl⟩
    | cons c kept => exact .inl rfl

theorem topLevel_append_lineFeed {text : String} (h : text.toList.getLast? ≠ some '\n') :
    topLevel (text ++ "\n") = topLevel text ∨ topLevel (text ++ "\n") = topLevel text ++ [""] := by
  rcases lines_append_lineFeed h with rfl | ⟨front, last, hlines, hended⟩
  · exact .inr rfl
  · have hone : ∀ line, [line].filterMap topLevel? = (topLevel? line).toList := by
      intro line
      cases hline : topLevel? line <;> simp [hline]
    rw [topLevel, topLevel, hlines, hended, List.filterMap_append, List.filterMap_append, hone, hone]
    rcases topLevel?_dropReturn last with hsame | ⟨hnone, hempty⟩
    · exact .inl (by rw [hsame])
    · right
      rw [hnone, hempty, Option.toList_none, List.append_nil]
      rfl

/-- An empty line at the top level is neither a `guid:` line nor the importer's. -/
theorem ofText_eq_of_topLevel_append (path : Path) {text other : String}
    (h : topLevel other = topLevel text ++ [""]) : ofText path other = ofText path text := by
  have hguid : guidLine? other = guidLine? text := by
    have hempty : [""].find? (fun line => guidKey.toList.isPrefixOf line.toList) = none := by decide
    rw [guidLine?, h, List.find?_append, hempty, Option.or_none, guidLine?]
  have hasset : (topLevel other).contains scriptImporter = (topLevel text).contains scriptImporter := by
    have hempty : [""].contains scriptImporter = false := by decide
    rw [h, List.contains_append, hempty, Bool.or_false]
  rw [ofText_eq, ofText_eq, hguid, hasset]

theorem ofText_append_lineFeed (path : Path) {text : String} (h : text.toList.getLast? ≠ some '\n') :
    ofText path (text ++ "\n") = ofText path text := by
  rcases topLevel_append_lineFeed h with hsame | hmore
  · rw [ofText_eq, ofText_eq, guidLine?, guidLine?, hsame]
  · exact ofText_eq_of_topLevel_append path hmore

end Sidecar

/-! ## Texts -/

/-- The texts are read as the same scene, and beside the same asset as the same sidecar. -/
structure SameReading (text other : String) : Prop where
  scene : Scene.ofDocument text = Scene.ofDocument other
  hierarchy : (Scene.ofDocument text).hierarchy = (Scene.ofDocument other).hierarchy
  dump : (Scene.ofDocument text).hierarchy.dump = (Scene.ofDocument other).hierarchy.dump
  sidecar : ∀ path, Sidecar.ofText path text = Sidecar.ofText path other

theorem SameReading.of_scene_sidecar {text other : String}
    (hscene : Scene.ofDocument text = Scene.ofDocument other)
    (hsidecar : ∀ path, Sidecar.ofText path text = Sidecar.ofText path other) :
    SameReading text other :=
  ⟨hscene, by rw [hscene], by rw [hscene], hsidecar⟩

theorem SameReading.of_lines_eq {text other : String} (h : lines text = lines other) :
    SameReading text other := by
  apply of_scene_sidecar
  · rw [Scene.ofDocument, Scene.ofDocument, segment, segment, Segmenter.ofDocument,
      Segmenter.ofDocument, h]
  · intro path
    rw [Sidecar.ofText, Sidecar.ofText, h]

/-- **Line ends make no difference.**  A text without carriage returns is read as it is with one
before every line feed, and a text whose last line is not ended as it is with a line feed behind
that line. -/
theorem sameReading_of_lineEndings (text : String) :
    ('\r' ∉ text.toList → SameReading (withReturns text) text) ∧
      (text.toList.getLast? ≠ some '\n' → SameReading (text ++ "\n") text) := by
  refine ⟨fun hreturn => .of_lines_eq (lines_withReturns hreturn), fun hlast => ?_⟩
  apply SameReading.of_scene_sidecar
  · exact Scene.ofDocument_append_lineFeed hlast
  · exact fun path => Sidecar.ofText_append_lineFeed path hlast

/-! ## A gate with two names, and a header that a carriage return ends -/

namespace TwiceNamedGate

/-- The block is rejected with the numbers of two lines. -/
def gate : String :=
  "--- !u!1 &1\nGameObject:\n  m_Name: Gate\n  m_Name: Door\n"

/-- The last line is a header, and the carriage return behind it ends no line. -/
def gateBeforeHeader : String :=
  "--- !u!1 &1\r\nGameObject:\r\n  m_Name: Gate\r\n--- !u!4 &2\r"

theorem sameReading :
    ('\r' ∉ gate.toList ∧ SameReading (withReturns gate) gate) ∧
      gateBeforeHeader.toList.getLast? ≠ some '\n' ∧
        SameReading (gateBeforeHeader ++ "\n") gateBeforeHeader := by
  have hreturn : '\r' ∉ gate.toList := by decide
  have hlast : gateBeforeHeader.toList.getLast? ≠ some '\n' := by decide
  exact ⟨⟨hreturn, (sameReading_of_lineEndings gate).1 hreturn⟩, hlast,
    (sameReading_of_lineEndings gateBeforeHeader).2 hlast⟩

end TwiceNamedGate

end SceneAudit
