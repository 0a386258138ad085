import SceneAudit.Block.Segmenter
import SceneAudit.Proofs.Text.Numeral
import Mathlib.Data.List.Infix

/-!
# A document is cut at its delimiter lines

The segmenter keeps the block that it is in, and closes it at the next delimiter
line or at the end of the document.  Seen from a header line nothing has to be
kept: the block of the header is the lines from there to the next delimiter.

* `blocks_inside`: a scan inside a block gives that block first and then what it
  would give outside.
* `blocks_outside_cons`: a scan outside looks at one line after the other, and
  `blockAt?` says what it gives at each.
* `segment_isSegmentation`: the blocks of a document, in terms of its lines only.

`Header.Starts` says what a header line is without reading it.
-/

namespace SceneAudit

open Text

/-! ## Header lines -/

namespace Header

/-- The line starts with the header, and its file identifier ends there. -/
def Starts (header : Header) (line : String) : Prop :=
  ∃ after, line.toList = "--- !u!".toList ++ header.tag.toList ++ " &".toList ++
      header.fileId.text.toList ++ after ∧
    IsDigitRun header.tag.toList ∧ IsNumeral header.fileId.text.toList ∧ NoDigitFirst after

theorem read?_eq_some_iff {line : String} {header : Header} :
    read? line = some header ↔ header.Starts line := by
  simp only [read?, Option.bind_eq_bind, Option.bind_eq_some_iff, Prod.exists,
    List.isPrefixOf?_eq_some_iff_append_eq, digits?_eq_some_iff, numeral?_eq_some_iff]
  constructor
  · rintro ⟨_, hline, tag, _, ⟨rfl, htag, -⟩, _, hafterTag, fileId, after, ⟨rfl, hfileId, hafter⟩,
      hheader⟩
    obtain rfl := Option.some.inj hheader
    refine ⟨after, ?_, ?_, ?_, hafter⟩
    · rw [← hline, ← hafterTag]
      simp
    · simpa using htag
    · simpa using hfileId
  · rintro ⟨after, hline, htag, hfileId, hafter⟩
    refine ⟨header.tag.toList ++ (" &".toList ++ (header.fileId.text.toList ++ after)), ?_,
      header.tag.toList, _, ⟨rfl, htag, ?_⟩, header.fileId.text.toList ++ after, rfl,
      header.fileId.text.toList, after, ⟨rfl, hfileId, hafter⟩, ?_⟩
    · simp [hline]
    · exact noDigitFirst_cons (by decide) _
    · simp [pure]

theorem isDelimiter_of_starts {header : Header} {line : String} (h : header.Starts line) :
    isDelimiter line = true := by
  obtain ⟨after, hline, -⟩ := h
  rw [isDelimiter, hline, List.isPrefixOf_iff_prefix]
  exact ⟨"!u!".toList ++ header.tag.toList ++ " &".toList ++ header.fileId.text.toList ++ after,
    by simp [delimiter]⟩

end Header

/-! ## The block of a header -/

namespace OpenBlock

/-- The lines up to the next delimiter line. -/
def reach (following : List String) : List String :=
  following.takeWhile fun line => !Header.isDelimiter line

/-- The block after all lines up to the next delimiter line. -/
def finish (block : OpenBlock) (following : List String) : Block :=
  ((reach following).foldl push block).close (following.any Header.isDelimiter)

theorem finish_nil (block : OpenBlock) : block.finish [] = block.close false :=
  rfl

theorem finish_cons_of_delimiter {line : String} (hline : Header.isDelimiter line = true)
    (block : OpenBlock) (following : List String) :
    block.finish (line :: following) = block.close true := by
  simp [finish, reach, hline]

theorem finish_cons_of_not_delimiter {line : String} (hline : Header.isDelimiter line = false)
    (block : OpenBlock) (following : List String) :
    block.finish (line :: following) = (block.push line).finish following := by
  simp [finish, reach, hline]

theorem foldl_push_of_passed {block : OpenBlock} (hpassed : block.classLinePassed = true)
    (lines : List String) :
    lines.foldl push block = { block with reversedLines := lines.reverse ++ block.reversedLines } := by
  induction lines generalizing block with
  | nil => rfl
  | cons line lines ih =>
      have hpush : block.push line = { block with reversedLines := line :: block.reversedLines } := by
        rw [push, if_pos hpassed]
      have hlater := @ih { block with reversedLines := line :: block.reversedLines } hpassed
      rw [List.foldl_cons, hpush, hlater]
      simp

/-- The class line is left out and all other lines are kept. -/
theorem finish_start (header : Header) (number : Nat) (following : List String) :
    (start header number).finish following =
      { tag := header.tag
        fileId := header.fileId
        headerLine := number
        lines := (reach following).drop 1
        terminated := following.any Header.isDelimiter } := by
  rw [finish]
  cases reach following with
  | nil => rfl
  | cons classLine body =>
      have hpush : (start header number).push classLine =
          { start header number with classLinePassed := true } := rfl
      rw [List.foldl_cons, hpush, foldl_push_of_passed rfl]
      simp [close, start]

end OpenBlock

namespace Segmenter

/-! ## One line after the other -/

variable {tags : List String}

theorem foldl_step (lines : List String) (closed : List Block) (number : Nat)
    (inside : Option OpenBlock) :
    lines.foldl (step tags) (closed, number, inside) =
      ((lines.foldl (step tags) ([], number, inside)).1 ++ closed,
        (lines.foldl (step tags) ([], number, inside)).2) := by
  induction lines generalizing closed number inside with
  | nil => rfl
  | cons line lines ih =>
      rw [List.foldl_cons, List.foldl_cons]
      simp only [step]
      rw [ih, ih ((closedBy inside line).toList ++ [])]
      simp

theorem blocks_nil (number : Nat) (inside : Option OpenBlock) :
    blocks ⟨tags, [], number, inside⟩ = (inside.map (·.close false)).toList := by
  cases inside <;> rfl

theorem blocks_cons (line : String) (lines : List String) (number : Nat)
    (inside : Option OpenBlock) :
    blocks ⟨tags, line :: lines, number, inside⟩ =
      (closedBy inside line).toList ++
        blocks ⟨tags, lines, number + 1, insideAfter tags inside line number⟩ := by
  simp only [blocks, List.foldl_cons]
  rw [show step tags ([], number, inside) line =
    ((closedBy inside line).toList ++ [], number + 1, insideAfter tags inside line number) from rfl,
    foldl_step]
  cases closedBy inside line <;> simp

theorem insideAfter_of_delimiter {line : String} (hline : Header.isDelimiter line = true)
    (inside : Option OpenBlock) (number : Nat) :
    insideAfter tags inside line number = opened tags line number := by
  rw [insideAfter, if_pos hline]

theorem insideAfter_of_not_delimiter {line : String} (hline : Header.isDelimiter line = false)
    (inside : Option OpenBlock) (number : Nat) :
    insideAfter tags inside line number = inside.map (·.push line) := by
  rw [insideAfter, if_neg (by simp [hline])]

theorem closedBy_of_delimiter {line : String} (hline : Header.isDelimiter line = true)
    (inside : Option OpenBlock) : closedBy inside line = inside.map (·.close true) := by
  rw [closedBy, if_pos hline]

theorem closedBy_of_not_delimiter {line : String} (hline : Header.isDelimiter line = false)
    (inside : Option OpenBlock) : closedBy inside line = none := by
  rw [closedBy, if_neg (by simp [hline])]

/-- A scan inside a block gives that block first and then what it would give outside. -/
theorem blocks_inside (block : OpenBlock) (lines : List String) (number : Nat) :
    blocks ⟨tags, lines, number, some block⟩ =
      block.finish lines :: blocks ⟨tags, lines, number, none⟩ := by
  induction lines generalizing block number with
  | nil => rw [blocks_nil, blocks_nil, OpenBlock.finish_nil]; rfl
  | cons line lines ih =>
      rw [blocks_cons, blocks_cons]
      cases hline : Header.isDelimiter line with
      | true =>
          -- both go on from the delimiter in the same way
          rw [closedBy_of_delimiter hline, closedBy_of_delimiter hline,
            insideAfter_of_delimiter hline, insideAfter_of_delimiter hline,
            OpenBlock.finish_cons_of_delimiter hline]
          rfl
      | false =>
          rw [closedBy_of_not_delimiter hline, closedBy_of_not_delimiter hline,
            insideAfter_of_not_delimiter hline, insideAfter_of_not_delimiter hline,
            OpenBlock.finish_cons_of_not_delimiter hline]
          exact ih (block.push line) (number + 1)

/-- The block that a line opens, where other lines follow. -/
def blockAt? (tags : List String) (number : Nat) (line : String) (following : List String) :
    Option Block :=
  (insideAfter tags none line number).map (·.finish following)

/-- A scan outside a block gives what its next line opens, and goes on outside. -/
theorem blocks_outside_cons (line : String) (lines : List String) (number : Nat) :
    blocks ⟨tags, line :: lines, number, none⟩ =
      (blockAt? tags number line lines).toList ++ blocks ⟨tags, lines, number + 1, none⟩ := by
  have hclosed : closedBy none line = none := by simp [closedBy]
  rw [blocks_cons, hclosed, blockAt?]
  cases insideAfter tags none line number with
  | none => rfl
  | some block => exact blocks_inside block lines (number + 1)

/-- Outside a block nothing comes of lines that are no delimiters. -/
theorem blocks_append_of_not_delimiter {front : List String}
    (hfront : ∀ line ∈ front, Header.isDelimiter line = false) (lines : List String)
    (number : Nat) :
    blocks ⟨tags, front ++ lines, number, none⟩ =
      blocks ⟨tags, lines, number + front.length, none⟩ := by
  induction front generalizing number with
  | nil => rfl
  | cons line front ih =>
      have hnone : blockAt? tags number line (front ++ lines) = none := by
        rw [blockAt?, insideAfter_of_not_delimiter (hfront line List.mem_cons_self)]
        rfl
      rw [List.cons_append, blocks_outside_cons, hnone,
        ih (fun other hother => hfront other (List.mem_cons_of_mem _ hother)), List.length_cons,
        Nat.add_assoc, Nat.add_comm 1]
      rfl

theorem insideAfter_none_eq_some_iff {number : Nat} {line : String} {block : OpenBlock} :
    insideAfter tags none line number = some block ↔
      ∃ header : Header, header.Starts line ∧ header.tag ∈ tags ∧ block = .start header number := by
  constructor
  · intro hopening
    cases hline : Header.isDelimiter line with
    | false => simp [insideAfter_of_not_delimiter hline] at hopening
    | true =>
        rw [insideAfter_of_delimiter hline, opened] at hopening
        split at hopening
        · rename_i header hread
          obtain ⟨htag, hopening⟩ := Option.ite_none_right_eq_some.mp hopening
          exact ⟨header, Header.read?_eq_some_iff.mp hread, htag, (Option.some.inj hopening).symm⟩
        · simp at hopening
  · rintro ⟨header, hstarts, htag, rfl⟩
    rw [insideAfter_of_delimiter (Header.isDelimiter_of_starts hstarts), opened,
      Header.read?_eq_some_iff.mpr hstarts]
    simp [htag]

theorem blockAt?_eq_some_iff {number : Nat} {line : String} {following : List String}
    {block : Block} :
    blockAt? tags number line following = some block ↔
      ∃ header : Header, header.Starts line ∧ header.tag ∈ tags ∧
        block = (OpenBlock.start header number).finish following := by
  simp only [blockAt?, Option.map_eq_some_iff, insideAfter_none_eq_some_iff]
  constructor
  · rintro ⟨_, ⟨header, hstarts, htag, rfl⟩, rfl⟩
    exact ⟨header, hstarts, htag, rfl⟩
  · rintro ⟨header, hstarts, htag, rfl⟩
    exact ⟨_, ⟨header, hstarts, htag, rfl⟩, rfl⟩

theorem headerLine_of_blockAt? {number : Nat} {line : String} {following : List String}
    {block : Block} (h : blockAt? tags number line following = some block) :
    block.headerLine = number := by
  obtain ⟨header, -, -, rfl⟩ := blockAt?_eq_some_iff.mp h
  rw [OpenBlock.finish_start]

/-- The blocks of a scan are those that its lines open. -/
theorem mem_blocks_iff {lines : List String} {number : Nat} {block : Block} :
    block ∈ blocks ⟨tags, lines, number, none⟩ ↔
      ∃ before line following, lines = before ++ line :: following ∧
        blockAt? tags (number + before.length) line following = some block := by
  induction lines generalizing number with
  | nil => simp [blocks_nil]
  | cons line lines ih =>
      rw [blocks_outside_cons, List.mem_append, Option.mem_toList, ih]
      constructor
      · rintro (hhere | ⟨before, later, following, rfl, hlater⟩)
        · exact ⟨[], line, lines, rfl, hhere⟩
        · refine ⟨line :: before, later, following, rfl, ?_⟩
          rw [List.length_cons, Nat.add_comm before.length, ← Nat.add_assoc]
          exact hlater
      · rintro ⟨before, later, following, hlines, hlater⟩
        cases before with
        | nil =>
            obtain ⟨rfl, rfl⟩ := List.cons.inj hlines
            exact .inl hlater
        | cons first before =>
            obtain ⟨rfl, rfl⟩ := List.cons.inj hlines
            refine .inr ⟨before, later, following, rfl, ?_⟩
            rw [List.length_cons, Nat.add_comm before.length, ← Nat.add_assoc] at hlater
            exact hlater

theorem pairwise_headerLine_blocks (lines : List String) (number : Nat) :
    (blocks ⟨tags, lines, number, none⟩).Pairwise
      fun first second => first.headerLine < second.headerLine := by
  induction lines generalizing number with
  | nil => simp [blocks_nil]
  | cons line lines ih =>
      rw [blocks_outside_cons]
      cases hhere : blockAt? tags number line lines with
      | none => exact ih (number + 1)
      | some block =>
          refine List.pairwise_cons.mpr ⟨fun later hlater => ?_, ih (number + 1)⟩
          obtain ⟨before, _, _, -, hat⟩ := mem_blocks_iff.mp hlater
          rw [headerLine_of_blockAt? hhere, headerLine_of_blockAt? hat]
          omega

/-! ## Asking for one block after the other -/

/-- Asked for blocks until there are no more, the scan gives these. -/
inductive Gives : Segmenter → List Block → Prop
  | done {scan : Segmenter} (hnone : scan.next? = none) : Gives scan []
  | block {scan later : Segmenter} {block : Block} {blocks : List Block}
      (hnext : scan.next? = some (block, later)) (hlater : Gives later blocks) :
      Gives scan (block :: blocks)

theorem Gives.congr {scan other : Segmenter} {blocks : List Block} (h : Gives scan blocks)
    (hsame : other.next? = scan.next?) : Gives other blocks := by
  cases h with
  | done hnone => exact .done (hsame.trans hnone)
  | block hnext hlater => exact .block (hsame.trans hnext) hlater

/-- The blocks of a scan are those that it gives one after the other. -/
theorem gives_blocks (lines : List String) (number : Nat) (inside : Option OpenBlock) :
    Gives ⟨tags, lines, number, inside⟩ (blocks ⟨tags, lines, number, inside⟩) := by
  induction lines generalizing number inside with
  | nil =>
      cases inside with
      | none => exact .done rfl
      | some block => exact .block rfl (.done rfl)
  | cons line lines ih =>
      have hlater := ih (number + 1) (insideAfter tags inside line number)
      rw [blocks_cons]
      cases hclosed : closedBy inside line with
      | none =>
          refine hlater.congr ?_
          simp only [next?, next?.go, hclosed]
      | some block =>
          refine .block ?_ hlater
          simp only [next?, next?.go, hclosed]

end Segmenter

/-! ## The blocks of a document -/

/-- The line with a number, counted from one. -/
def lineAt? (lines : List String) : Nat → Option String
  | 0 => none
  | number + 1 => lines[number]?

theorem lineAt?_eq_some_iff {lines : List String} {number : Nat} {line : String} :
    lineAt? lines number = some line ↔
      ∃ before following, lines = before ++ line :: following ∧ number = before.length + 1 := by
  cases number with
  | zero => simp [lineAt?]
  | succ number =>
      rw [lineAt?]
      constructor
      · intro h
        obtain ⟨hlt, rfl⟩ := List.getElem?_eq_some_iff.mp h
        refine ⟨lines.take number, lines.drop (number + 1), ?_, ?_⟩
        · rw [← List.drop_eq_getElem_cons hlt, List.take_append_drop]
        · rw [List.length_take, Nat.min_eq_left hlt.le]
      · rintro ⟨before, following, rfl, hnumber⟩
        obtain rfl : number = before.length := by omega
        simp

/-- The blocks are those that the lines of a document hold under the tags. -/
structure IsSegmentation (lines : List String) (tags : List String) (blocks : List Block) :
    Prop where
  /-- The blocks stand in the order of their headers, one for each. -/
  ascending : blocks.Pairwise fun first second => first.headerLine < second.headerLine
  /-- Their headers are those of the lines that start with a header of one of the tags. -/
  header_iff : ∀ (number : Nat) (header : Header),
    (∃ block ∈ blocks, block.headerLine = number ∧ block.tag = header.tag ∧
        block.fileId = header.fileId) ↔
      ∃ line, lineAt? lines number = some line ∧ header.Starts line ∧ header.tag ∈ tags
  /-- The body is what stands from the header to the next delimiter line, but for the line that
  names the class. -/
  lines_eq : ∀ block ∈ blocks, block.lines =
    ((lines.drop block.headerLine).takeWhile fun line => !Header.isDelimiter line).drop 1
  /-- The numbers of the body lines are those that they have in the document. -/
  lineNumber_eq : ∀ block ∈ blocks, ∀ index line, block.lines[index]? = some line →
    lineAt? lines (block.lineNumber index) = some line
  /-- Only a block whose header is the last delimiter line is not terminated. -/
  terminated_iff : ∀ block ∈ blocks, block.terminated = false ↔
    ∀ number line, lineAt? lines number = some line → Header.isDelimiter line = true →
      number ≤ block.headerLine
  /-- This can only be the last block. -/
  terminated_dropLast : ∀ block ∈ blocks.dropLast, block.terminated = true

section Document

variable {document : String} {tags : List String}

/-- A block of a document is its header with the lines up to the next delimiter line. -/
theorem mem_segment_iff {block : Block} :
    block ∈ segment document tags ↔
      ∃ before line following, Text.lines document = before ++ line :: following ∧
        ∃ header : Header, header.Starts line ∧ header.tag ∈ tags ∧
          block = (OpenBlock.start header (before.length + 1)).finish following := by
  rw [segment, Segmenter.ofDocument, Segmenter.mem_blocks_iff]
  simp only [Segmenter.blockAt?_eq_some_iff, Nat.add_comm 1]

theorem header_iff_segment (number : Nat) (header : Header) :
    (∃ block ∈ segment document tags, block.headerLine = number ∧ block.tag = header.tag ∧
        block.fileId = header.fileId) ↔
      ∃ line, lineAt? (Text.lines document) number = some line ∧ header.Starts line ∧
        header.tag ∈ tags := by
  constructor
  · rintro ⟨block, hblock, hnumber, htag, hfileId⟩
    obtain ⟨before, line, following, hlines, other, hstarts, hwanted, rfl⟩ :=
      mem_segment_iff.mp hblock
    rw [OpenBlock.finish_start] at hnumber htag hfileId
    obtain rfl : other = header := by
      cases other
      cases header
      simp_all
    exact ⟨line, lineAt?_eq_some_iff.mpr ⟨before, following, hlines, hnumber.symm⟩, hstarts, hwanted⟩
  · rintro ⟨line, hline, hstarts, hwanted⟩
    obtain ⟨before, following, hlines, rfl⟩ := lineAt?_eq_some_iff.mp hline
    refine ⟨_, mem_segment_iff.mpr ⟨before, line, following, hlines, header, hstarts, hwanted, rfl⟩,
      ?_⟩
    rw [OpenBlock.finish_start]
    exact ⟨rfl, rfl, rfl⟩

/-- A body line has its number. -/
theorem lineNumber_segment {block : Block} (hblock : block ∈ segment document tags) {index : Nat}
    {line : String} (hline : block.lines[index]? = some line) :
    lineAt? (Text.lines document) (block.lineNumber index) = some line := by
  obtain ⟨before, opening, following, hlines, header, -, -, rfl⟩ := mem_segment_iff.mp hblock
  rw [OpenBlock.finish_start] at hline ⊢
  simp only [List.getElem?_drop] at hline
  have hfollowing : following[1 + index]? = some line := by
    obtain ⟨rest, hrest⟩ : OpenBlock.reach following <+: following := List.takeWhile_prefix _
    obtain ⟨hlt, -⟩ := List.getElem?_eq_some_iff.mp hline
    rw [← hrest, List.getElem?_append_left hlt, hline]
  have hnumber : before.length + 1 + 2 + index = before.length + (1 + (1 + index)) + 1 := by
    omega
  rw [Block.lineNumber, hnumber, lineAt?, hlines, List.getElem?_append_right (by omega),
    Nat.add_sub_cancel_left, Nat.add_comm 1, List.getElem?_cons_succ, hfollowing]

theorem terminated_segment_iff {block : Block} (hblock : block ∈ segment document tags) :
    block.terminated = false ↔
      ∀ number line, lineAt? (Text.lines document) number = some line →
        Header.isDelimiter line = true → number ≤ block.headerLine := by
  obtain ⟨before, opening, following, hlines, header, -, -, rfl⟩ := mem_segment_iff.mp hblock
  rw [OpenBlock.finish_start, List.any_eq_false]
  constructor
  · intro hnone number line hline hdelimiter
    obtain ⟨front, back, hsplit, rfl⟩ := lineAt?_eq_some_iff.mp hline
    -- a delimiter line with a greater number would be among those that follow
    by_contra hlate
    have hmem : line ∈ following := by
      rw [hlines] at hsplit
      have hget : (before ++ opening :: following)[front.length]? = some line := by
        rw [hsplit]
        simp
      have hnumber : front.length = before.length + ((front.length - before.length - 1) + 1) := by
        simp only at hlate
        omega
      rw [hnumber, List.getElem?_append_right (by omega), Nat.add_sub_cancel_left,
        List.getElem?_cons_succ] at hget
      exact List.mem_of_getElem? hget
    exact hnone line hmem hdelimiter
  · intro hlast line hmem hdelimiter
    obtain ⟨front, back, rfl⟩ := List.append_of_mem hmem
    have hnumber := hlast ((before ++ opening :: front).length + 1) line
      (lineAt?_eq_some_iff.mpr ⟨before ++ opening :: front, back, by rw [hlines]; simp, rfl⟩)
      hdelimiter
    simp only [List.length_append, List.length_cons] at hnumber
    omega

theorem delimiter_at_headerLine {block : Block} (hblock : block ∈ segment document tags) :
    ∃ line, lineAt? (Text.lines document) block.headerLine = some line ∧
      Header.isDelimiter line = true := by
  obtain ⟨line, hline, hstarts, -⟩ := (header_iff_segment block.headerLine
    ⟨block.tag, block.fileId⟩).mp ⟨block, hblock, rfl, rfl, rfl⟩
  exact ⟨line, hline, Header.isDelimiter_of_starts hstarts⟩

/-- Before the last block stand only blocks that a later header closes. -/
theorem terminated_of_mem_dropLast {block : Block}
    (hblock : block ∈ (segment document tags).dropLast) : block.terminated = true := by
  have hmem := List.mem_of_mem_dropLast hblock
  have hne : segment document tags ≠ [] := List.ne_nil_of_mem hmem
  have hascending : (segment document tags).Pairwise
      fun first second => first.headerLine < second.headerLine :=
    Segmenter.pairwise_headerLine_blocks _ 1
  rw [← List.dropLast_append_getLast hne, List.pairwise_append] at hascending
  have hlater := hascending.2.2 block hblock _ (List.mem_singleton_self _)
  obtain ⟨line, hline, hdelimiter⟩ := delimiter_at_headerLine (List.getLast_mem hne)
  by_contra hopen
  have hearly := (terminated_segment_iff hmem).mp (by simpa using hopen) _ line hline hdelimiter
  omega

/-- **A document is cut at its delimiter lines**, and asking for one block after the
other gives the same blocks. -/
theorem segment_isSegmentation (document : String) (tags : List String) :
    IsSegmentation (Text.lines document) tags (segment document tags) ∧
      Segmenter.Gives (.ofDocument document tags) (segment document tags) := by
  refine ⟨⟨?_, header_iff_segment, ?_, ?_, ?_, ?_⟩, Segmenter.gives_blocks _ 1 none⟩
  · exact Segmenter.pairwise_headerLine_blocks _ 1
  · intro block hblock
    obtain ⟨before, line, following, hlines, header, -, -, rfl⟩ := mem_segment_iff.mp hblock
    rw [OpenBlock.finish_start, hlines, OpenBlock.reach]
    simp
  · exact fun block hblock index line => lineNumber_segment hblock
  · exact fun block hblock => terminated_segment_iff hblock
  · exact fun block hblock => terminated_of_mem_dropLast hblock

end Document

end SceneAudit
