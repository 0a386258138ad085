import SceneAudit.Proofs.Block.Comparison
import SceneAudit.Proofs.Record.Fields
import Mathlib.Data.List.TakeWhile

/-!
# Line numbers of the keys of a block

Line numbers get into the answer about a block only where a key is repeated: the
error names the two lines that give it.

* `carriesKey_of_mem_occurrences`: the line with the number of an occurrence is a
  body line that carries the key before its first colon.
* `pairwise_line_occurrences`: the numbers ascend, so the first of the two lines
  stands before the second (`lt_of_repeatedKey?`).
* `Record.ofBlock_movedDown`: lines put in front of a block change these two
  numbers and nothing else.
-/

namespace SceneAudit

open Text

/-! ## Lines that carry a key -/

namespace ScalarKey

theorem eq_of_ofText? {text : String} {key : ScalarKey} (h : ofText? text = some key) :
    key.text = text := by
  unfold ofText? at h
  simpa using List.find?_some h

/-- Without the blanks around it, the key is what the line has before its first colon. -/
def CarriedBy (key : ScalarKey) (line : String) : Prop :=
  ∃ before after, trim line.toList = before ++ ':' :: after ∧ ':' ∉ before ∧
    trim before = key.text.toList

end ScalarKey

namespace FieldLine

theorem splitAtColon?_eq_some {cs before after : List Char}
    (h : splitAtColon? cs = some (before, after)) : cs = before ++ ':' :: after ∧ ':' ∉ before := by
  unfold splitAtColon? at h
  split at h
  · exact absurd h (by simp)
  · rename_i c rest hdrop
    obtain ⟨rfl, rfl⟩ := Prod.mk.inj (Option.some.inj h)
    have hcolon : c = ':' := by
      have hstop := List.head?_dropWhile_not (· != ':') cs
      rw [hdrop] at hstop
      simpa using hstop
    subst hcolon
    constructor
    · rw [← hdrop, List.takeWhile_append_dropWhile]
    · intro hmem
      exact absurd (List.mem_takeWhile_imp hmem) (by simp)

theorem splitAtColon?_append {before : List Char} (hbefore : ':' ∉ before) (after : List Char) :
    splitAtColon? (before ++ ':' :: after) = some (before, after) := by
  have hrun : ∀ c ∈ before, (c != ':') = true := by
    intro c hc
    simpa using ne_of_mem_of_not_mem hc hbefore
  have hcolon : ∀ c ∈ (':' :: after).head?, (c != ':') = false := by simp
  rw [splitAtColon?, takeWhile_append_eq hrun hcolon, dropWhile_append_eq hrun hcolon]

theorem carriedBy_of_ofLine {line value : String} {key : ScalarKey}
    (h : ofLine line = .scalar key value) : key.CarriedBy line := by
  unfold ofLine ofTrimmed at h
  split at h
  · exact absurd h (by simp)
  split at h
  · exact absurd h (by simp)
  split at h
  · exact absurd h (by simp)
  rename_i before after hsplit
  split at h
  · exact absurd h (by simp)
  rename_i found hfound
  obtain ⟨rfl, -⟩ := FieldLine.scalar.inj h
  obtain ⟨hline, hbefore⟩ := splitAtColon?_eq_some hsplit
  refine ⟨before, after, hline, hbefore, ?_⟩
  rw [ScalarKey.eq_of_ofText? hfound, String.toList_ofList]

end FieldLine

/-! ## Numbers of top-level lines -/

theorem pairwise_snd_zipIdx {α : Type} (as : List α) (start : Nat) :
    (as.zipIdx start).Pairwise fun first second => first.2 < second.2 := by
  have hnumbers : ((as.zipIdx start).map Prod.snd).Pairwise (· < ·) := by
    rw [List.zipIdx_map_snd]
    exact List.pairwise_lt_range'
  exact List.pairwise_map.mp hnumbers

namespace Block

variable {block : Block}

theorem lineNumber_lt {first second : Nat} (h : first < second) :
    block.lineNumber first < block.lineNumber second := by
  unfold lineNumber
  omega

theorem mem_fieldLines {number : Nat} {field : FieldLine} (h : (number, field) ∈ block.fieldLines) :
    ∃ index line, block.lines[index]? = some line ∧ number = block.lineNumber index ∧
      field = FieldLine.ofLine line := by
  unfold fieldLines at h
  split at h
  · exact absurd h List.not_mem_nil
  · obtain ⟨⟨line, index⟩, hmem, hfield⟩ := List.mem_filterMap.mp h
    obtain ⟨-, heq⟩ := Option.ite_none_right_eq_some.mp hfield
    obtain ⟨rfl, rfl⟩ := Prod.mk.inj (Option.some.inj heq)
    exact ⟨index, line, List.mk_mem_zipIdx_iff_getElem?.mp hmem, rfl, rfl⟩

theorem pairwise_fst_fieldLines (block : Block) :
    block.fieldLines.Pairwise fun first second => first.1 < second.1 := by
  unfold fieldLines
  split
  · exact .nil
  · apply (pairwise_snd_zipIdx block.lines 0).filterMap
    rintro ⟨line, index⟩ ⟨other, later⟩ hlt first hfirst second hsecond
    obtain ⟨-, hfirst⟩ := Option.ite_none_right_eq_some.mp hfirst
    obtain ⟨-, hsecond⟩ := Option.ite_none_right_eq_some.mp hsecond
    obtain rfl := Option.some.inj hfirst
    obtain rfl := Option.some.inj hsecond
    exact lineNumber_lt hlt

theorem mem_fieldLines_of_mem_occurrences {occurrence : Occurrence}
    (h : occurrence ∈ block.occurrences) :
    (occurrence.line, .scalar occurrence.key occurrence.value) ∈ block.fieldLines := by
  unfold occurrences at h
  obtain ⟨⟨number, field⟩, hmem, heq⟩ := List.mem_filterMap.mp h
  cases field with
  | scalar key value =>
      obtain rfl := Option.some.inj heq
      exact hmem
  | component item => exact absurd heq (by simp)
  | child item => exact absurd heq (by simp)
  | other => exact absurd heq (by simp)

/-- A line of the body carries the key under the number of the occurrence. -/
theorem carriesKey_of_mem_occurrences {occurrence : Occurrence}
    (h : occurrence ∈ block.occurrences) :
    ∃ index line, block.lines[index]? = some line ∧ occurrence.line = block.lineNumber index ∧
      occurrence.key.CarriedBy line := by
  obtain ⟨index, line, hline, hnumber, hfield⟩ :=
    mem_fieldLines (mem_fieldLines_of_mem_occurrences h)
  exact ⟨index, line, hline, hnumber, FieldLine.carriedBy_of_ofLine hfield.symm⟩

theorem pairwise_line_occurrences (block : Block) :
    block.occurrences.Pairwise fun first second => first.line < second.line := by
  unfold occurrences
  apply (pairwise_fst_fieldLines block).filterMap
  rintro ⟨number, field⟩ ⟨later, laterField⟩ hlt first hfirst second hsecond
  cases field <;> cases laterField <;> simp only [reduceCtorEq, Option.some.injEq] at hfirst hsecond
  subst hfirst hsecond
  exact hlt

end Block

/-! ## The error for a repeated key -/

theorem exists_split_of_repeatedKey? {seen occurrences : List Occurrence} {first second : Occurrence}
    (h : repeatedKey? seen occurrences = some (first, second)) :
    ∃ before after, occurrences = before ++ second :: after ∧ (first ∈ seen ∨ first ∈ before) ∧
      first.key = second.key := by
  induction occurrences generalizing seen with
  | nil => exact absurd h (by simp [repeatedKey?])
  | cons occurrence later ih =>
      rw [repeatedKey?] at h
      split at h
      · rename_i found hfind
        obtain ⟨rfl, rfl⟩ := Prod.mk.inj (Option.some.inj h)
        have hkey : found.key = occurrence.key := by simpa using List.find?_some hfind
        exact ⟨[], later, rfl, .inl (List.mem_of_find?_eq_some hfind), hkey⟩
      · obtain ⟨before, after, rfl, hfirst, hkey⟩ := ih h
        refine ⟨occurrence :: before, after, rfl, ?_, hkey⟩
        rcases hfirst with hseen | hbefore
        · rcases List.mem_cons.mp hseen with rfl | hearlier
          · exact .inr List.mem_cons_self
          · exact .inl hearlier
        · exact .inr (List.mem_cons_of_mem _ hbefore)

theorem lt_of_repeatedKey? {block : Block} {first second : Occurrence}
    (h : repeatedKey? [] block.occurrences = some (first, second)) :
    first ∈ block.occurrences ∧ second ∈ block.occurrences ∧ first.key = second.key ∧
      first.line < second.line := by
  obtain ⟨before, after, hsplit, hfirst, hkey⟩ := exists_split_of_repeatedKey? h
  have hbefore : first ∈ before := hfirst.resolve_left List.not_mem_nil
  have hascending := block.pairwise_line_occurrences
  rw [hsplit] at hascending ⊢
  refine ⟨List.mem_append_left _ hbefore, List.mem_append_right _ List.mem_cons_self, hkey, ?_⟩
  exact (List.pairwise_append.mp hascending).2.2 first hbefore second List.mem_cons_self

/-! ## Lines in front of a block -/

/-- The error with `count` more lines in front of the block. -/
def RecordError.movedDown (count : Nat) : RecordError → RecordError
  | duplicateKey fileId key firstLine secondLine =>
    duplicateKey fileId key (firstLine + count) (secondLine + count)
  | unsupportedTag fileId tag => unsupportedTag fileId tag

/-- The occurrence with `count` more lines in front of the block. -/
def Occurrence.movedDown (count : Nat) (occurrence : Occurrence) : Occurrence :=
  { occurrence with line := occurrence.line + count }

/-- What keeps the keys of the occurrences keeps the ones that are repeated. -/
theorem repeatedKey?_map {f : Occurrence → Occurrence}
    (hkey : ∀ occurrence, (f occurrence).key = occurrence.key) (seen occurrences : List Occurrence) :
    repeatedKey? (seen.map f) (occurrences.map f) =
      (repeatedKey? seen occurrences).map (Prod.map f f) := by
  induction occurrences generalizing seen with
  | nil => rfl
  | cons occurrence later ih =>
      have hfind : (seen.map f).find? (·.key = (f occurrence).key) =
          (seen.find? (·.key = occurrence.key)).map f := by
        rw [List.find?_map]
        simp only [Function.comp_def, hkey]
      rw [List.map_cons, repeatedKey?, repeatedKey?, hfind]
      cases seen.find? (·.key = occurrence.key) with
      | none => exact ih (occurrence :: seen)
      | some first => rfl

namespace Block

variable {block : Block}

theorem fieldLines_movedDown (count : Nat) (block : Block) :
    (block.movedDown count).fieldLines =
      block.fieldLines.map fun (number, field) => (number + count, field) := by
  have hindent : (block.movedDown count).indent? = block.indent? := rfl
  have hlines : (block.movedDown count).lines = block.lines := rfl
  have hnumber : ∀ index, (block.movedDown count).lineNumber index =
      block.lineNumber index + count := by
    intro index
    show block.headerLine + count + 2 + index = block.headerLine + 2 + index + count
    omega
  unfold fieldLines
  rw [hindent, hlines]
  cases block.indent? with
  | none => rfl
  | some indent =>
      rw [List.map_filterMap]
      apply List.filterMap_congr
      rintro ⟨line, index⟩ -
      by_cases htop : indentation line.toList = indent
      · simp [htop, hnumber]
      · simp [htop]

theorem topLevel_movedDown (count : Nat) (block : Block) :
    (block.movedDown count).topLevel = block.topLevel := by
  rw [topLevel, fieldLines_movedDown, List.map_map]
  rfl

theorem occurrences_movedDown (count : Nat) (block : Block) :
    (block.movedDown count).occurrences = block.occurrences.map (Occurrence.movedDown count) := by
  unfold occurrences
  rw [fieldLines_movedDown, List.filterMap_map, List.map_filterMap]
  apply List.filterMap_congr
  rintro ⟨number, field⟩ -
  cases field <;> rfl

end Block

namespace Record

theorem ofDistinct_movedDown (count : Nat) (block : Block) :
    ofDistinct (block.movedDown count) =
      (ofDistinct block).mapError (RecordError.movedDown count) := by
  have hsame : ofDistinct (block.movedDown count) = ofDistinct block :=
    Block.ofDistinct_congr rfl rfl fun _ => by rw [Block.topLevel_movedDown]
  rw [hsame]
  rcases block.ofDistinct_cases with ⟨record, hrecord⟩ | herror
  · rw [hrecord]
    rfl
  · rw [herror]
    rfl

/-- With more lines in front of it a block becomes the same record, or is rejected for
the same two lines. -/
theorem ofBlock_movedDown (count : Nat) (block : Block) :
    ofBlock (block.movedDown count) = (ofBlock block).mapError (RecordError.movedDown count) := by
  have hkey : ∀ occurrence, (Occurrence.movedDown count occurrence).key = occurrence.key :=
    fun _ => rfl
  have hrepeated := repeatedKey?_map hkey [] block.occurrences
  rw [List.map_nil] at hrepeated
  unfold ofBlock
  rw [Block.occurrences_movedDown, hrepeated]
  cases repeatedKey? [] block.occurrences with
  | none => exact ofDistinct_movedDown count block
  | some pair => rfl

end Record

end SceneAudit
