import SceneAudit.Proofs.Block.Segmentation
import Mathlib.Data.List.Forall2

/-!
# Comparing two scans

What a scan makes of a line does not depend on what it made of the lines before.
So two scans whose states differ on most lines still give the same blocks where
they are asked for the same.

* `segment_filter_tag`: among the blocks of many tags, those of one tag are the
  blocks that a scan for this tag alone gives.
* `blocks_append`: a scan over two lists of lines, the second of which starts with
  a delimiter line, gives the blocks of both; only the last block of the first
  list learns that it has ended (`Block.closed`).
* `blocks_add`: where the count of lines starts is where the header lines are
  counted from (`Block.movedDown`), and nothing else.
* `blocks_related`: lines that are related one by one give blocks that are, as long
  as related lines are alike where they are delimiters (`Header.SameDelimiter`).
-/

namespace SceneAudit

/-- The block with a delimiter line behind it. -/
def Block.closed (block : Block) : Block :=
  { block with terminated := true }

/-- The block with `count` more lines in front of its header. -/
def Block.movedDown (count : Nat) (block : Block) : Block :=
  { block with headerLine := block.headerLine + count }

namespace Segmenter

variable {tags : List String}

/-! ## One tag among many -/

theorem blockAt?_filter_tag {tag : String} (hwanted : tag ∈ tags) (number : Nat) (line : String)
    (following : List String) :
    (blockAt? tags number line following).filter (fun block => block.tag = tag) =
      blockAt? [tag] number line following := by
  apply Option.ext
  intro block
  rw [Option.filter_eq_some_iff, blockAt?_eq_some_iff, blockAt?_eq_some_iff, decide_eq_true_eq]
  constructor
  · rintro ⟨⟨header, hstarts, -, rfl⟩, htag⟩
    rw [OpenBlock.finish_start] at htag
    exact ⟨header, hstarts, List.mem_singleton.mpr htag, rfl⟩
  · rintro ⟨header, hstarts, htag, rfl⟩
    obtain rfl := List.mem_singleton.mp htag
    refine ⟨⟨header, hstarts, hwanted, rfl⟩, ?_⟩
    rw [OpenBlock.finish_start]

theorem blocks_filter_tag {tag : String} (hwanted : tag ∈ tags) (lines : List String)
    (number : Nat) :
    (blocks ⟨tags, lines, number, none⟩).filter (fun block => block.tag = tag) =
      blocks ⟨[tag], lines, number, none⟩ := by
  induction lines generalizing number with
  | nil => rfl
  | cons line lines ih =>
      rw [blocks_outside_cons, blocks_outside_cons, List.filter_append, ih, ← Option.toList_filter,
        blockAt?_filter_tag hwanted]

/-! ## One list of lines behind another -/

/-- No block of lines in front reaches into these lines. -/
def StartsDelimited (lines : List String) : Prop :=
  ∃ line more, lines = line :: more ∧ Header.isDelimiter line = true

theorem reach_append {back : List String} (hback : StartsDelimited back) (front : List String) :
    OpenBlock.reach (front ++ back) = OpenBlock.reach front := by
  obtain ⟨delimiter, more, rfl, hdelimiter⟩ := hback
  unfold OpenBlock.reach
  induction front with
  | nil => simp [hdelimiter]
  | cons line front ih =>
      rw [List.cons_append, List.takeWhile_cons, List.takeWhile_cons, ih]

theorem blockAt?_append {back : List String} (hback : StartsDelimited back) (number : Nat)
    (line : String) (front : List String) :
    blockAt? tags number line (front ++ back) =
      (blockAt? tags number line front).map Block.closed := by
  have hany : (front ++ back).any Header.isDelimiter = true := by
    obtain ⟨delimiter, more, rfl, hdelimiter⟩ := hback
    simp [hdelimiter]
  unfold blockAt?
  rw [Option.map_map]
  congr 1
  funext block
  show block.finish (front ++ back) = (block.finish front).closed
  unfold OpenBlock.finish
  rw [reach_append hback, hany]
  rfl

theorem blocks_append {back : List String} (hback : StartsDelimited back) (front : List String)
    (number : Nat) :
    blocks ⟨tags, front ++ back, number, none⟩ =
      (blocks ⟨tags, front, number, none⟩).map Block.closed ++
        blocks ⟨tags, back, number + front.length, none⟩ := by
  induction front generalizing number with
  | nil => rfl
  | cons line front ih =>
      have hlength : number + 1 + front.length = number + (line :: front).length := by
        rw [List.length_cons]
        omega
      rw [List.cons_append, blocks_outside_cons, blocks_outside_cons, blockAt?_append hback, ih,
        hlength, List.map_append, Option.toList_map, List.append_assoc]

/-! ## Lines counted from elsewhere -/

theorem blockAt?_add (number count : Nat) (line : String) (following : List String) :
    blockAt? tags (number + count) line following =
      (blockAt? tags number line following).map (Block.movedDown count) := by
  apply Option.ext
  intro block
  rw [Option.map_eq_some_iff, blockAt?_eq_some_iff]
  constructor
  · rintro ⟨header, hstarts, hwanted, rfl⟩
    refine ⟨_, blockAt?_eq_some_iff.mpr ⟨header, hstarts, hwanted, rfl⟩, ?_⟩
    rw [OpenBlock.finish_start, OpenBlock.finish_start]
    rfl
  · rintro ⟨higher, hhigher, rfl⟩
    obtain ⟨header, hstarts, hwanted, rfl⟩ := blockAt?_eq_some_iff.mp hhigher
    refine ⟨header, hstarts, hwanted, ?_⟩
    rw [OpenBlock.finish_start, OpenBlock.finish_start]
    rfl

theorem blocks_add (lines : List String) (number count : Nat) :
    blocks ⟨tags, lines, number + count, none⟩ =
      (blocks ⟨tags, lines, number, none⟩).map (Block.movedDown count) := by
  induction lines generalizing number with
  | nil => rfl
  | cons line lines ih =>
      have hnext : number + count + 1 = number + 1 + count := by omega
      rw [blocks_outside_cons, blocks_outside_cons, blockAt?_add, hnext, ih, List.map_append,
        Option.toList_map]

end Segmenter

theorem tag_mem_of_mem_segment {document : String} {tags : List String} {block : Block}
    (hblock : block ∈ segment document tags) : block.tag ∈ tags := by
  obtain ⟨_, _, _, -, header, -, hwanted, rfl⟩ := mem_segment_iff.mp hblock
  rw [OpenBlock.finish_start]
  exact hwanted

/-- **Looking for many tags at once is looking for each alone**, and a tag that is
not looked for gives nothing. -/
theorem segment_filter_tag (document : String) (tags : List String) (tag : String) :
    (segment document tags).filter (fun block => block.tag = tag) =
      if tag ∈ tags then segment document [tag] else [] := by
  by_cases hwanted : tag ∈ tags
  · rw [if_pos hwanted]
    exact Segmenter.blocks_filter_tag hwanted _ 1
  · rw [if_neg hwanted, List.filter_eq_nil_iff]
    intro block hblock htag
    have htagIn := tag_mem_of_mem_segment hblock
    rw [of_decide_eq_true htag] at htagIn
    exact hwanted htagIn

/-! ## Lines related one by one -/

theorem filterMap_eq_of_forall₂ {α β γ : Type} {r : α → β → Prop} {f : α → Option γ}
    {g : β → Option γ} {as : List α} {bs : List β} (h : List.Forall₂ r as bs)
    (hfg : ∀ a b, r a b → f a = g b) : as.filterMap f = bs.filterMap g := by
  induction h with
  | nil => rfl
  | cons hab _ ih => rw [List.filterMap_cons, List.filterMap_cons, hfg _ _ hab, ih]

/-- Searches for what related items agree on find related items, or nothing in either list. -/
theorem find?_of_forall₂ {α β : Type} {r : α → β → Prop} {p : α → Bool} {q : β → Bool}
    {as : List α} {bs : List β} (h : List.Forall₂ r as bs) (hpq : ∀ a b, r a b → p a = q b) :
    (as.find? p = none ∧ bs.find? q = none) ∨
      ∃ a b, as.find? p = some a ∧ bs.find? q = some b ∧ r a b := by
  induction h with
  | nil => exact .inl ⟨rfl, rfl⟩
  | @cons a b as bs hab _ ih =>
      rw [List.find?_cons, List.find?_cons, hpq _ _ hab]
      cases q b with
      | true => exact .inr ⟨a, b, rfl, rfl, hab⟩
      | false => exact ih

theorem forall₂_zipIdx {α β : Type} {r : α → β → Prop} {as : List α} {bs : List β}
    (h : List.Forall₂ r as bs) (start : Nat) :
    List.Forall₂ (fun a b => r a.1 b.1 ∧ a.2 = b.2) (as.zipIdx start) (bs.zipIdx start) := by
  induction h generalizing start with
  | nil => exact .nil
  | cons hab _ ih => exact .cons ⟨hab, rfl⟩ (ih (start + 1))

/-- Neither line is a delimiter, or both are and start the same header or none. -/
structure Header.SameDelimiter (line other : String) : Prop where
  isDelimiter_eq : isDelimiter line = isDelimiter other
  read?_eq : isDelimiter line = true → read? line = read? other

/-- The blocks have the same header and end alike, and their lines are related. -/
structure Block.Related (r : String → String → Prop) (block other : Block) : Prop where
  tag_eq : block.tag = other.tag
  fileId_eq : block.fileId = other.fileId
  headerLine_eq : block.headerLine = other.headerLine
  terminated_eq : block.terminated = other.terminated
  lines : List.Forall₂ r block.lines other.lines

namespace Segmenter

variable {tags lines others : List String} {r : String → String → Prop}
  (hr : ∀ line other, r line other → Header.SameDelimiter line other)

include hr

theorem reach_related (h : List.Forall₂ r lines others) :
    List.Forall₂ r (OpenBlock.reach lines) (OpenBlock.reach others) := by
  unfold OpenBlock.reach
  induction h with
  | nil => exact .nil
  | @cons line other lines others hline _ ih =>
      rw [List.takeWhile_cons, List.takeWhile_cons, (hr _ _ hline).isDelimiter_eq]
      cases Header.isDelimiter other with
      | true => exact .nil
      | false => exact .cons hline ih

theorem any_isDelimiter_eq (h : List.Forall₂ r lines others) :
    lines.any Header.isDelimiter = others.any Header.isDelimiter := by
  induction h with
  | nil => rfl
  | cons hline _ ih => rw [List.any_cons, List.any_cons, ih, (hr _ _ hline).isDelimiter_eq]

theorem insideAfter_eq_of_related {line other : String} (h : r line other) (number : Nat) :
    insideAfter tags none line number = insideAfter tags none other number := by
  obtain ⟨hsame, hread⟩ := hr _ _ h
  cases hline : Header.isDelimiter line with
  | true =>
      rw [insideAfter_of_delimiter hline, insideAfter_of_delimiter (hsame ▸ hline), opened, opened,
        hread hline]
  | false =>
      rw [insideAfter_of_not_delimiter hline, insideAfter_of_not_delimiter (hsame ▸ hline)]
      rfl

theorem finish_related (h : List.Forall₂ r lines others) (header : Header) (number : Nat) :
    Block.Related r ((OpenBlock.start header number).finish lines)
      ((OpenBlock.start header number).finish others) := by
  rw [OpenBlock.finish_start, OpenBlock.finish_start]
  exact ⟨rfl, rfl, rfl, any_isDelimiter_eq hr h, List.forall₂_drop 1 (reach_related hr h)⟩

theorem blockAt?_related {line other : String} (hline : r line other)
    (h : List.Forall₂ r lines others) (number : Nat) :
    List.Forall₂ (Block.Related r) (blockAt? tags number line lines).toList
      (blockAt? tags number other others).toList := by
  unfold blockAt?
  rw [insideAfter_eq_of_related hr hline]
  cases hopen : insideAfter tags none other number with
  | none => exact .nil
  | some block =>
      obtain ⟨header, -, -, rfl⟩ := insideAfter_none_eq_some_iff.mp hopen
      exact .cons (finish_related hr h header number) .nil

theorem blocks_related (h : List.Forall₂ r lines others) (number : Nat) :
    List.Forall₂ (Block.Related r) (blocks ⟨tags, lines, number, none⟩)
      (blocks ⟨tags, others, number, none⟩) := by
  -- a scan outside a block looks at one line after the other, and each opens what it opens
  induction h generalizing number with
  | nil => exact .nil
  | cons hline hlines ih =>
      rw [blocks_outside_cons, blocks_outside_cons]
      exact List.rel_append (blockAt?_related hr hline hlines number) (ih (number + 1))

end Segmenter

end SceneAudit
