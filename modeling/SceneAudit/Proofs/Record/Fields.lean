import SceneAudit.Record.Reader
import Mathlib.Data.List.Forall2
import Mathlib.Data.List.TakeWhile

/-!
# What the top level of a block says

A record is read off the list of what the top-level lines say (`Block.topLevel`):
the items of each kind in order, and for each key the first value.  Line numbers
matter only to the error for a repeated key, and there is such an error exactly
if two lines give the same key (`repeatedKey?_occurrences_eq_none_iff`).

Where all lines are indented alike, each of them is a top-level line
(`topLevel_of_indented`).
-/

namespace SceneAudit

open Text

namespace FieldLine

/-- What a line says, given as it stands. -/
def ofLine (line : String) : FieldLine :=
  ofTrimmed (trim line.toList)

theorem ofLine_of_allBlank {line : String} (h : allBlank line.toList = true) :
    ofLine line = other := by
  have hnothing : trimStart line.toList = [] := by
    rw [trimStart, List.dropWhile_eq_nil_iff]
    simpa [allBlank] using h
  rw [ofLine, trim, hnothing]
  decide

def component? : FieldLine → Option String
  | component item => some item
  | _ => none

def child? : FieldLine → Option String
  | child item => some item
  | _ => none

/-- The key that the line gives a value, and the value. -/
def given? : FieldLine → Option (ScalarKey × String)
  | scalar key value => some (key, value)
  | _ => none

end FieldLine

/-! ## Repeated keys -/

theorem repeatedKey?_eq_none_iff {seen occurrences : List Occurrence} :
    repeatedKey? seen occurrences = none ↔
      (occurrences.map Occurrence.key).Nodup ∧
        ∀ first ∈ seen, ∀ later ∈ occurrences, first.key ≠ later.key := by
  induction occurrences generalizing seen with
  | nil => simp [repeatedKey?]
  | cons occurrence later ih =>
      rw [repeatedKey?]
      split
      · rename_i first hfind
        have hkey : first.key = occurrence.key := by simpa using List.find?_some hfind
        have hmem := List.mem_of_find?_eq_some hfind
        simp only [reduceCtorEq, false_iff, not_and]
        intro _ hapart
        exact hapart first hmem occurrence List.mem_cons_self hkey
      · rename_i hfind
        have hnew : ∀ first ∈ seen, first.key ≠ occurrence.key := by simpa using hfind
        rw [ih]
        simp only [List.map_cons, List.nodup_cons, List.mem_map, List.mem_cons]
        constructor
        · rintro ⟨hnodup, hapart⟩
          refine ⟨⟨?_, hnodup⟩, ?_⟩
          · rintro ⟨other, hother, hkey⟩
            exact hapart occurrence (.inl rfl) other hother hkey.symm
          · rintro first hfirst other (rfl | hother)
            · exact hnew first hfirst
            · exact hapart first (.inr hfirst) other hother
        · rintro ⟨⟨hfresh, hnodup⟩, hapart⟩
          refine ⟨hnodup, ?_⟩
          rintro first (rfl | hfirst) other hother hkey
          · exact hfresh ⟨other, hother, hkey.symm⟩
          · exact hapart first hfirst other (.inr hother) hkey

namespace Block

variable {block : Block}

/-- What the top-level lines say, in order. -/
def topLevel (block : Block) : List FieldLine :=
  block.fieldLines.map Prod.snd

/-! ## What a record takes -/

theorem componentItems_eq : block.componentItems = block.topLevel.filterMap FieldLine.component? := by
  rw [topLevel, List.filterMap_map, componentItems]
  congr 1
  funext ⟨_, line⟩
  cases line <;> rfl

theorem childItems_eq : block.childItems = block.topLevel.filterMap FieldLine.child? := by
  rw [topLevel, List.filterMap_map, childItems]
  congr 1
  funext ⟨_, line⟩
  cases line <;> rfl

/-- The keys that the top level gives a value, with the values, in order. -/
def given (block : Block) : List (ScalarKey × String) :=
  block.topLevel.filterMap FieldLine.given?

theorem given_eq :
    block.given = block.occurrences.map fun occurrence => (occurrence.key, occurrence.value) := by
  rw [given, topLevel, List.filterMap_map, occurrences, List.map_filterMap]
  congr 1
  funext ⟨_, line⟩
  cases line <;> rfl

theorem scalar?_eq (key : ScalarKey) : block.scalar? key = block.given.lookup key := by
  rw [scalar?, given_eq]
  induction block.occurrences with
  | nil => rfl
  | cons occurrence later ih =>
      by_cases hkey : occurrence.key = key
      · simp [hkey]
      · have hother : (key == occurrence.key) = false := by simpa using Ne.symm hkey
        rw [List.map_cons, List.lookup_cons, hother, ← ih]
        simp [hkey]

/-- Apart from the header, a record depends on what the top level says of keys and items. -/
theorem ofDistinct_congr {other : Block} (htag : other.tag = block.tag)
    (hfileId : other.fileId = block.fileId)
    (htopLevel : ∀ {β : Type} {take : FieldLine → Option β}, take .other = none →
      other.topLevel.filterMap take = block.topLevel.filterMap take) :
    Record.ofDistinct other = Record.ofDistinct block := by
  have hscalars : ∀ key, other.scalar? key = block.scalar? key := by
    intro key
    rw [scalar?_eq, scalar?_eq, given, given, htopLevel rfl]
  have hcomponents : other.componentItems = block.componentItems := by
    rw [componentItems_eq, componentItems_eq, htopLevel rfl]
  have hchildren : other.childItems = block.childItems := by
    rw [childItems_eq, childItems_eq, htopLevel rfl]
  unfold Record.ofDistinct
  simp only [hscalars, hcomponents, hchildren, htag, hfileId]

/-- Only its tag keeps a block with distinct keys from becoming a record. -/
theorem ofDistinct_cases (block : Block) :
    (∃ record, Record.ofDistinct block = .ok record) ∨
      Record.ofDistinct block = .error (.unsupportedTag block.fileId block.tag) := by
  unfold Record.ofDistinct
  split_ifs
  · exact .inl ⟨_, rfl⟩
  · exact .inl ⟨_, rfl⟩
  · exact .inl ⟨_, rfl⟩
  · exact .inr rfl

/-- Only two lines that give the same key reject a block. -/
theorem repeatedKey?_occurrences_eq_none_iff :
    repeatedKey? [] block.occurrences = none ↔ (block.given.map Prod.fst).Nodup := by
  rw [repeatedKey?_eq_none_iff, given_eq, List.map_map]
  simp [Function.comp_def]

theorem ofBlock_eq_ofDistinct (hnodup : (block.given.map Prod.fst).Nodup) :
    Record.ofBlock block = Record.ofDistinct block := by
  rw [Record.ofBlock, repeatedKey?_occurrences_eq_none_iff.mpr hnodup]

/-! ## The top level -/

/-- How far the top level is indented is told by the lines that are not blank. -/
theorem indent?_eq_of_forall₂ {other : Block}
    (h : List.Forall₂ (fun line other : String => allBlank line.toList = allBlank other.toList ∧
      (allBlank other.toList = false → indentation line.toList = indentation other.toList))
      block.lines other.lines) :
    block.indent? = other.indent? := by
  unfold indent?
  generalize block.lines = lines at h
  generalize other.lines = others at h
  induction h with
  | nil => rfl
  | @cons line other lines others hline _ ih =>
      rw [List.find?_cons, List.find?_cons, hline.1]
      cases hblank : allBlank other.toList with
      | true => exact ih
      | false => exact congrArg some (hline.2 hblank)

/-! ## Blocks without nested lines -/

/-- The line is not blank, and indented by `width`. -/
def IsIndented (width : Nat) (line : String) : Prop :=
  indentation line.toList = width ∧ allBlank line.toList = false

theorem indent?_of_indented {width : Nat} (hne : block.lines ≠ [])
    (h : ∀ line ∈ block.lines, IsIndented width line) : block.indent? = some width := by
  rw [indent?]
  cases hlines : block.lines with
  | nil => exact absurd hlines hne
  | cons line lines =>
      obtain ⟨hwidth, hblank⟩ := h line (by simp [hlines])
      simp [hwidth, hblank]

/-- Where all lines are indented alike, each says something at the top level. -/
theorem topLevel_of_indented {width : Nat} (h : ∀ line ∈ block.lines, IsIndented width line) :
    block.topLevel = block.lines.map FieldLine.ofLine := by
  by_cases hne : block.lines = []
  · simp [topLevel, fieldLines, indent?, hne]
  · rw [topLevel, fieldLines, indent?_of_indented hne h]
    have htop : ∀ numbered ∈ block.lines.zipIdx,
        (if indentation numbered.1.toList = width then
            some (block.lineNumber numbered.2, FieldLine.ofTrimmed (trim numbered.1.toList))
          else none) =
          some (block.lineNumber numbered.2, FieldLine.ofLine numbered.1) := by
      intro numbered hmem
      rw [if_pos (h _ (List.fst_mem_of_mem_zipIdx hmem)).1]
      rfl
    have hfields := List.filterMap_eq_map_iff_forall_eq_some.mpr htop
    calc
      _ = (block.lines.zipIdx.map fun numbered =>
          (block.lineNumber numbered.2, FieldLine.ofLine numbered.1)).map Prod.snd := by
        rw [← hfields]
      _ = (block.lines.zipIdx.map Prod.fst).map FieldLine.ofLine := by
        rw [List.map_map, List.map_map]
        rfl
      _ = block.lines.map FieldLine.ofLine := by rw [List.zipIdx_map_fst]

end Block

end SceneAudit
