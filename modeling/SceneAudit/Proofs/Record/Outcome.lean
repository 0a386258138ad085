import SceneAudit.Proofs.Record.LineNumber
import Mathlib.Data.List.Nodup
import Mathlib.Data.List.Sort

/-!
# What becomes of a block

A block is decided by the lines of its top level (`Block.AtTopLevel`): those that start a list
item, and those that give one of four keys a value.  The latter form the key sequence of the
block (`Block.IsKeySequence`), and `ofBlock_isOutcome` says what follows from it.

* A key that is given twice rejects the block, and the error names the first occurrence that
  repeats an earlier one, and that earlier one (`repeatedKey?_eq_some_iff`).
* Otherwise the tag decides whether there is a record, and each field of the record is read
  from the only occurrence of its key or from the list items of one kind.
-/

namespace SceneAudit

open Text

/-! ## Lines -/

/-- What the items of a component list start with. -/
def componentMarker : String := "- component"

/-- What the items of a child list start with. -/
def childMarker : String := "- \x7bfileID"

/-- Without the blanks around it, the line starts with the marker. -/
def IsItem (marker line : String) : Prop :=
  marker.toList <+: trim line.toList

instance (marker line : String) : Decidable (IsItem marker line) :=
  inferInstanceAs (Decidable (_ <+: _))

/-- Without the blanks around it, the line has the key before its first colon and the value
after it, each with blanks around it or none. -/
def Gives (line : String) (key : ScalarKey) (value : String) : Prop :=
  ∃ before after, trim line.toList = before ++ ':' :: after ∧ ':' ∉ before ∧
    trim before = key.text.toList ∧ value = String.ofList (trim after)

namespace FieldLine

/-- No line is an item of both lists. -/
theorem not_isItem_component {line : String} (h : IsItem childMarker line) :
    ¬ IsItem componentMarker line := by
  intro hcomponent
  have hboth := List.prefix_or_prefix_of_prefix h hcomponent
  exact absurd hboth (by decide)

/-- What a line says, by what it starts with. -/
theorem ofLine_eq (line : String) :
    ofLine line =
      if IsItem componentMarker line then component (String.ofList (trim line.toList))
      else if IsItem childMarker line then child (String.ofList (trim line.toList))
      else
        match splitAtColon? (trim line.toList) with
        | none => other
        | some (key, value) =>
          match ScalarKey.ofText? (String.ofList (trim key)) with
          | none => other
          | some key => scalar key (String.ofList (trim value)) := by
  unfold ofLine ofTrimmed
  simp only [List.isPrefixOf_iff_prefix]
  rfl

theorem ofLine_eq_scalar_iff {line value : String} {key : ScalarKey} :
    ofLine line = .scalar key value ↔
      ¬ IsItem componentMarker line ∧ ¬ IsItem childMarker line ∧ Gives line key value := by
  rw [ofLine_eq]
  split_ifs with hcomponent hchild
  · simp [hcomponent]
  · simp [hchild]
  · simp only [hcomponent, hchild, not_false_eq_true, true_and]
    constructor
    · intro h
      split at h
      · exact absurd h (by simp)
      rename_i before after hsplit
      split at h
      · exact absurd h (by simp)
      rename_i found hfound
      obtain ⟨rfl, rfl⟩ := FieldLine.scalar.inj h
      obtain ⟨hline, hbefore⟩ := splitAtColon?_eq_some hsplit
      refine ⟨before, after, hline, hbefore, ?_, rfl⟩
      rw [ScalarKey.eq_of_ofText? hfound, String.toList_ofList]
    · rintro ⟨before, after, hline, hbefore, hkey, rfl⟩
      rw [hline, splitAtColon?_append hbefore]
      simp only [hkey, String.ofList_toList, ScalarKey.ofText?_text]

theorem component?_ofLine (line : String) :
    (ofLine line).component? =
      if IsItem componentMarker line then some (String.ofList (trim line.toList)) else none := by
  rw [ofLine_eq]
  split_ifs with hcomponent hchild
  · rfl
  · rfl
  · split
    · rfl
    · split <;> rfl

theorem child?_ofLine (line : String) :
    (ofLine line).child? =
      if IsItem childMarker line then some (String.ofList (trim line.toList)) else none := by
  rw [ofLine_eq]
  split_ifs with hcomponent hchild hchild
  · exact absurd hcomponent (not_isItem_component hchild)
  · rfl
  · rfl
  · split
    · rfl
    · split <;> rfl

end FieldLine

/-! ## The top level -/

namespace Block

/-- The line is indented as far as the first line of the block that is not blank. -/
def AtTopLevel (block : Block) (line : String) : Prop :=
  ∃ first ∈ block.lines.find? (fun line => !allBlank line.toList),
    indentation line.toList = indentation first.toList

theorem atTopLevel_iff {block : Block} {line : String} :
    block.AtTopLevel line ↔ block.indent? = some (indentation line.toList) := by
  rw [AtTopLevel, indent?, Option.map_eq_some_iff]
  simp only [Option.mem_def, eq_comm (a := indentation line.toList)]

instance (block : Block) (line : String) : Decidable (block.AtTopLevel line) :=
  decidable_of_iff _ atTopLevel_iff.symm

/-- The entries are what the lines of the top level that are no list items give, in order. -/
structure IsKeySequence (block : Block) (entries : List Occurrence) : Prop where
  ascending : entries.Pairwise fun first second => first.line < second.line
  mem_iff : ∀ entry, entry ∈ entries ↔
    ∃ index line, block.lines[index]? = some line ∧ entry.line = block.lineNumber index ∧
      block.AtTopLevel line ∧ ¬ IsItem componentMarker line ∧ ¬ IsItem childMarker line ∧
        Gives line entry.key entry.value

/-- The references in the list items of the top level that start with the marker. -/
def itemReferences (block : Block) (marker : String) : List (Reference FileId) :=
  (block.lines.filter fun line => block.AtTopLevel line ∧ IsItem marker line).map fun line =>
    Reference.fileId (some (String.ofList (trim line.toList)))

end Block

/-! ### The lines that the reader keeps -/

theorem map_filter_eq_filterMap {α β : Type} (p : α → Prop) [DecidablePred p] (f : α → β)
    (as : List α) :
    (as.filter fun a => p a).map f = as.filterMap fun a => if p a then some (f a) else none := by
  rw [← List.filterMap_eq_map, List.filterMap_filter]
  simp only [decide_eq_true_eq, Function.comp_apply]

namespace Block

variable (block : Block)

theorem fieldLines_eq :
    block.fieldLines = block.lines.zipIdx.filterMap fun (line, index) =>
      if block.AtTopLevel line then some (block.lineNumber index, FieldLine.ofLine line) else none := by
  unfold fieldLines
  simp only [atTopLevel_iff]
  cases block.indent? with
  | none => simp
  | some width => simp only [Option.some.injEq, eq_comm (a := width), FieldLine.ofLine]

theorem mem_fieldLines_iff {number : Nat} {field : FieldLine} :
    (number, field) ∈ block.fieldLines ↔
      ∃ index line, block.lines[index]? = some line ∧ number = block.lineNumber index ∧
        block.AtTopLevel line ∧ FieldLine.ofLine line = field := by
  rw [fieldLines_eq, List.mem_filterMap]
  simp only [Prod.exists, List.mk_mem_zipIdx_iff_getElem?, Option.ite_none_right_eq_some,
    Option.some.injEq, Prod.mk.injEq]
  constructor
  · rintro ⟨line, index, hline, htop, hnumber, hfield⟩
    exact ⟨index, line, hline, hnumber.symm, htop, hfield⟩
  · rintro ⟨index, line, hline, hnumber, htop, hfield⟩
    exact ⟨line, index, hline, htop, hnumber.symm, hfield⟩

theorem topLevel_eq :
    block.topLevel = (block.lines.filter fun line => block.AtTopLevel line).map FieldLine.ofLine := by
  rw [map_filter_eq_filterMap, topLevel, fieldLines_eq, List.map_filterMap]
  conv_rhs => rw [← List.zipIdx_map_fst 0 block.lines, List.filterMap_map]
  apply List.filterMap_congr
  rintro ⟨line, index⟩ -
  by_cases htop : block.AtTopLevel line <;> simp [htop]

/-- The items of one kind are the lines of the top level that start with its marker. -/
theorem map_fileId_items {marker : String} {item? : FieldLine → Option String}
    (hitem : ∀ line, item? (FieldLine.ofLine line) =
      if IsItem marker line then some (String.ofList (trim line.toList)) else none) :
    ((block.topLevel.filterMap item?).map fun item => Reference.fileId (some item)) =
      block.itemReferences marker := by
  have hfilter : (block.lines.filter fun line => block.AtTopLevel line ∧ IsItem marker line) =
      (block.lines.filter fun line => block.AtTopLevel line).filter fun line => IsItem marker line := by
    rw [List.filter_filter]
    simp only [Bool.decide_and, Bool.and_comm]
  rw [itemReferences, hfilter, map_filter_eq_filterMap, topLevel_eq, List.filterMap_map,
    List.map_filterMap]
  apply List.filterMap_congr
  intro line _
  rw [Function.comp_apply, hitem]
  by_cases hline : IsItem marker line <;> simp [hline]

end Block

/-! ## What is expected of a block -/

/-- The second occurrence gives the key of the first one again, and the keys that come before
it are all different; so it comes before the second occurrence of any other key. -/
def IsFirstRepeat (entries : List Occurrence) (first second : Occurrence) : Prop :=
  ∃ before after, entries = before ++ second :: after ∧ first ∈ before ∧ first.key = second.key ∧
    (before.map Occurrence.key).Nodup

/-- The name is the value of its key, and there is none if and only if the key is not given. -/
structure IsNameIn (entries : List Occurrence) (name : Option String) : Prop where
  of_mem : ∀ entry ∈ entries, entry.key = .name → name = some entry.value
  none_iff : name = none ↔ .name ∉ entries.map Occurrence.key

/-- The reference is read from the value of its key, and it is absent if and only if the key
is not given. -/
structure IsReferenceIn {α : Type} (entries : List Occurrence) (key : ScalarKey)
    (read : Option String → Reference α) (reference : Reference α) : Prop where
  of_mem : ∀ entry ∈ entries, entry.key = key → reference = read (some entry.value)
  absent_iff : reference = .unresolved .absent ↔ key ∉ entries.map Occurrence.key

/-- The record is the one of the block's tag, with the fields that the block gives. -/
def IsRecordOf (block : Block) (entries : List Occurrence) : Record → Prop
  | .gameObject record => block.tag = "1" ∧ record.fileId = block.fileId ∧
      IsNameIn entries record.name ∧ record.components = block.itemReferences componentMarker
  | .transform record => block.tag = "4" ∧ record.fileId = block.fileId ∧
      IsReferenceIn entries .gameObject Reference.fileId record.gameObject ∧
        IsReferenceIn entries .father Reference.fileId record.father ∧
          record.children = block.itemReferences childMarker
  | .script record => block.tag = "114" ∧ record.fileId = block.fileId ∧
      IsReferenceIn entries .script Reference.fileId record.scriptFileId ∧
        IsReferenceIn entries .script Reference.guid record.guid ∧
          IsReferenceIn entries .gameObject Reference.fileId record.gameObject

/-- The outcome is the one that the key sequence and the tag of the block call for. -/
structure IsOutcome (block : Block) (entries : List Occurrence) (outcome : Except RecordError Record) :
    Prop where
  /-- Some key is given twice exactly if the block is rejected for that. -/
  repeated_iff : (∃ fileId key firstLine secondLine,
      outcome = .error (.duplicateKey fileId key firstLine secondLine)) ↔
    ¬ (entries.map Occurrence.key).Nodup
  duplicateKey : ∀ fileId key firstLine secondLine,
    outcome = .error (.duplicateKey fileId key firstLine secondLine) →
      fileId = block.fileId ∧ ∃ first second, IsFirstRepeat entries first second ∧
        key = second.key ∧ firstLine = first.line ∧ secondLine = second.line
  unsupportedTag_iff : (entries.map Occurrence.key).Nodup →
    (outcome = .error (.unsupportedTag block.fileId block.tag) ↔ block.tag ∉ ["1", "4", "114"])
  record : (entries.map Occurrence.key).Nodup → block.tag ∈ ["1", "4", "114"] →
    ∃ record, outcome = .ok record ∧ IsRecordOf block entries record

/-! ## The key sequence -/

namespace Block

theorem mem_occurrences_iff {block : Block} {entry : Occurrence} :
    entry ∈ block.occurrences ↔ (entry.line, .scalar entry.key entry.value) ∈ block.fieldLines := by
  constructor
  · exact mem_fieldLines_of_mem_occurrences
  · intro hmem
    rw [occurrences, List.mem_filterMap]
    exact ⟨_, hmem, rfl⟩

theorem isKeySequence_occurrences (block : Block) : block.IsKeySequence block.occurrences where
  ascending := block.pairwise_line_occurrences
  mem_iff entry := by
    rw [mem_occurrences_iff, mem_fieldLines_iff]
    simp only [FieldLine.ofLine_eq_scalar_iff]

/-- There is only one key sequence. -/
theorem IsKeySequence.eq {block : Block} {entries others : List Occurrence}
    (h : block.IsKeySequence entries) (hothers : block.IsKeySequence others) : entries = others := by
  have hirrefl : Std.Irrefl fun first second : Occurrence => first.line < second.line :=
    ⟨fun _ => Nat.lt_irrefl _⟩
  have hantisymm : Std.Antisymm fun first second : Occurrence => first.line < second.line :=
    ⟨fun _ _ hlt hgt => absurd hgt (Nat.lt_asymm hlt)⟩
  apply List.Pairwise.eq_of_mem_iff h.ascending hothers.ascending
  intro entry
  rw [h.mem_iff, hothers.mem_iff]

end Block

/-! ## Repeated keys -/

theorem eq_of_mem_of_key_eq {entries : List Occurrence} (h : (entries.map Occurrence.key).Nodup)
    {first second : Occurrence} (hfirst : first ∈ entries) (hsecond : second ∈ entries)
    (hkey : first.key = second.key) : first = second :=
  List.inj_on_of_nodup_map h hfirst hsecond hkey

/-- Looking for a key among occurrences of different keys finds the one that has it. -/
theorem find?_key_eq_some_iff {entries : List Occurrence} (h : (entries.map Occurrence.key).Nodup)
    {key : ScalarKey} {entry : Occurrence} :
    entries.find? (·.key = key) = some entry ↔ entry ∈ entries ∧ entry.key = key := by
  constructor
  · intro hfind
    exact ⟨List.mem_of_find?_eq_some hfind, by simpa using List.find?_some hfind⟩
  · rintro ⟨hmem, hkey⟩
    cases hfind : entries.find? (·.key = key) with
    | none => exact absurd hkey (by simpa using List.find?_eq_none.mp hfind entry hmem)
    | some found =>
        have hfound : found.key = key := by simpa using List.find?_some hfind
        rw [eq_of_mem_of_key_eq h (List.mem_of_find?_eq_some hfind) hmem (hfound.trans hkey.symm)]

/-- The search stops at the first occurrence whose key stands among those before it. -/
theorem repeatedKey?_eq_some_iff {seen entries : List Occurrence} {first second : Occurrence}
    (hseen : (seen.map Occurrence.key).Nodup) :
    repeatedKey? seen entries = some (first, second) ↔
      ∃ before after, entries = before ++ second :: after ∧ first ∈ before.reverse ++ seen ∧
        first.key = second.key ∧ ((before.reverse ++ seen).map Occurrence.key).Nodup := by
  induction entries generalizing seen with
  | nil => simp [repeatedKey?]
  | cons entry entries ih =>
      rw [repeatedKey?]
      cases hfind : seen.find? (·.key = entry.key) with
      | some found =>
          obtain ⟨hfound, hkey⟩ := (find?_key_eq_some_iff hseen).mp hfind
          constructor
          · intro h
            obtain ⟨rfl, rfl⟩ := Prod.mk.inj (Option.some.inj h)
            exact ⟨[], entries, rfl, hfound, hkey, hseen⟩
          · rintro ⟨before, after, hsplit, hfirst, hsame, hnodup⟩
            cases before with
            | nil =>
                obtain ⟨rfl, rfl⟩ := List.cons.inj hsplit
                rw [eq_of_mem_of_key_eq hseen hfound hfirst (hkey.trans hsame.symm)]
            | cons other before =>
                -- the entry repeats a key, so it cannot stand among different keys
                obtain ⟨rfl, rfl⟩ := List.cons.inj hsplit
                rw [List.reverse_cons, List.append_assoc, List.map_append, List.nodup_append] at hnodup
                have htail : ((entry :: seen).map Occurrence.key).Nodup := hnodup.2.1
                rw [List.map_cons, List.nodup_cons] at htail
                exact absurd (hkey ▸ List.mem_map_of_mem hfound) htail.1
      | none =>
          have hfresh : entry.key ∉ seen.map Occurrence.key := by
            simpa using hfind
          have hnext : ((entry :: seen).map Occurrence.key).Nodup :=
            List.nodup_cons.mpr ⟨hfresh, hseen⟩
          show repeatedKey? (entry :: seen) entries = some (first, second) ↔ _
          rw [ih hnext]
          constructor
          · rintro ⟨before, after, rfl, hfirst, hsame, hnodup⟩
            refine ⟨entry :: before, after, rfl, ?_, hsame, ?_⟩
            · simpa using hfirst
            · simpa using hnodup
          · rintro ⟨before, after, hsplit, hfirst, hsame, hnodup⟩
            cases before with
            | nil =>
                obtain ⟨rfl, rfl⟩ := List.cons.inj hsplit
                exact absurd (hsame ▸ List.mem_map_of_mem hfirst) hfresh
            | cons other before =>
                obtain ⟨rfl, rfl⟩ := List.cons.inj hsplit
                refine ⟨before, after, rfl, ?_, hsame, ?_⟩
                · simpa using hfirst
                · simpa using hnodup

theorem repeatedKey?_nil_eq_some_iff {entries : List Occurrence} {first second : Occurrence} :
    repeatedKey? [] entries = some (first, second) ↔ IsFirstRepeat entries first second := by
  rw [repeatedKey?_eq_some_iff (by simp), IsFirstRepeat]
  simp only [List.append_nil, List.mem_reverse, List.map_reverse, List.nodup_reverse]

theorem repeatedKey?_nil_eq_none_iff {entries : List Occurrence} :
    repeatedKey? [] entries = none ↔ (entries.map Occurrence.key).Nodup := by
  rw [repeatedKey?_eq_none_iff]
  simp

/-! ## Different keys -/

section Distinct

variable {block : Block} (h : (block.occurrences.map Occurrence.key).Nodup)

include h

theorem scalar?_eq_some {entry : Occurrence} (hmem : entry ∈ block.occurrences) :
    block.scalar? entry.key = some entry.value := by
  rw [Block.scalar?, (find?_key_eq_some_iff h).mpr ⟨hmem, rfl⟩]
  rfl

omit h in
theorem scalar?_eq_none_iff {key : ScalarKey} :
    block.scalar? key = none ↔ key ∉ block.occurrences.map Occurrence.key := by
  rw [Block.scalar?, Option.map_eq_none_iff, List.find?_eq_none]
  simp

theorem isNameIn_scalar? : IsNameIn block.occurrences (block.scalar? .name) where
  of_mem _ hmem hkey := hkey ▸ scalar?_eq_some h hmem
  none_iff := scalar?_eq_none_iff

/-- A reader that finds nothing absent in a value finds it absent where there is no value. -/
theorem isReferenceIn_read {α : Type} (key : ScalarKey) (find? : List Char → Option (List Char))
    (make : String → α) :
    IsReferenceIn block.occurrences key (Reference.read find? make)
      (Reference.read find? make (block.scalar? key)) where
  of_mem _ hmem hkey := by
    rw [← hkey, scalar?_eq_some h hmem]
  absent_iff := by
    rw [← scalar?_eq_none_iff]
    cases block.scalar? key with
    | none => simp [Reference.read]
    | some value =>
        rw [Reference.read]
        split <;> simp

theorem exists_isRecordOf (htag : block.tag ∈ ["1", "4", "114"]) :
    ∃ record, Record.ofDistinct block = .ok record ∧ IsRecordOf block block.occurrences record := by
  have hcomponents := block.map_fileId_items FieldLine.component?_ofLine
  have hchildren := block.map_fileId_items FieldLine.child?_ofLine
  rw [← Block.componentItems_eq] at hcomponents
  rw [← Block.childItems_eq] at hchildren
  unfold Record.ofDistinct
  split_ifs with hobject htransform hscript
  · exact ⟨_, rfl, hobject, rfl, isNameIn_scalar? h, hcomponents⟩
  · exact ⟨_, rfl, htransform, rfl, isReferenceIn_read h _ _ _, isReferenceIn_read h _ _ _, hchildren⟩
  · exact ⟨_, rfl, hscript, rfl, isReferenceIn_read h _ _ _, isReferenceIn_read h _ _ _,
      isReferenceIn_read h _ _ _⟩
  · have hnone : block.tag ∉ ["1", "4", "114"] := by
      simpa using ⟨hobject, htransform, hscript⟩
    exact absurd htag hnone

end Distinct

theorem ofDistinct_eq_error_iff {block : Block} :
    Record.ofDistinct block = .error (.unsupportedTag block.fileId block.tag) ↔
      block.tag ∉ ["1", "4", "114"] := by
  unfold Record.ofDistinct
  have htags : block.tag ∉ ["1", "4", "114"] ↔
      block.tag ≠ Tag.gameObject ∧ block.tag ≠ Tag.transform ∧ block.tag ≠ Tag.script := by
    simp [Tag.gameObject, Tag.transform, Tag.script]
  rw [htags]
  split_ifs with hobject htransform hscript <;> simp [*]

/-! ## The outcome -/

theorem ofBlock_eq_ofDistinct_of_nodup {block : Block}
    (h : (block.occurrences.map Occurrence.key).Nodup) :
    Record.ofBlock block = Record.ofDistinct block := by
  rw [Record.ofBlock, repeatedKey?_nil_eq_none_iff.mpr h]

section DuplicateKey

variable {block : Block} {fileId : FileId} {key : ScalarKey} {firstLine secondLine : Nat}

theorem ofDistinct_ne_duplicateKey :
    Record.ofDistinct block ≠ .error (.duplicateKey fileId key firstLine secondLine) := by
  rcases block.ofDistinct_cases with ⟨record, h⟩ | h
  all_goals simp [h]

/-- A block that is rejected for a key is rejected for the first that is repeated. -/
theorem ofBlock_eq_duplicateKey_iff :
    Record.ofBlock block = .error (.duplicateKey fileId key firstLine secondLine) ↔
      fileId = block.fileId ∧ ∃ first second, IsFirstRepeat block.occurrences first second ∧
        key = second.key ∧ firstLine = first.line ∧ secondLine = second.line := by
  simp only [← repeatedKey?_nil_eq_some_iff]
  rw [Record.ofBlock]
  cases hrepeated : repeatedKey? [] block.occurrences with
  | none => simp [ofDistinct_ne_duplicateKey]
  | some pair =>
      obtain ⟨first, second⟩ := pair
      constructor
      · intro h
        obtain ⟨rfl, rfl, rfl, rfl⟩ := RecordError.duplicateKey.inj (Except.error.inj h)
        exact ⟨rfl, first, second, rfl, rfl, rfl, rfl⟩
      · rintro ⟨rfl, _, _, hpair, rfl, rfl, rfl⟩
        obtain ⟨rfl, rfl⟩ := Prod.mk.inj (Option.some.inj hpair)
        rfl

end DuplicateKey

/-- **What becomes of a block** is decided by its tag and its one key sequence. -/
theorem ofBlock_isOutcome (block : Block) :
    ∃ entries, (∀ others, block.IsKeySequence others ↔ others = entries) ∧
      IsOutcome block entries (Record.ofBlock block) := by
  have hsequence := block.isKeySequence_occurrences
  refine ⟨block.occurrences, fun others => ⟨fun h => h.eq hsequence, fun h => h ▸ hsequence⟩, ?_⟩
  constructor
  case repeated_iff =>
    constructor
    · rintro ⟨fileId, key, firstLine, secondLine, h⟩ hdistinct
      rw [ofBlock_eq_ofDistinct_of_nodup hdistinct] at h
      exact ofDistinct_ne_duplicateKey h
    · intro hrepeated
      obtain ⟨⟨first, second⟩, hpair⟩ :=
        Option.ne_none_iff_exists'.mp (mt repeatedKey?_nil_eq_none_iff.mp hrepeated)
      have hfirst := repeatedKey?_nil_eq_some_iff.mp hpair
      exact ⟨_, _, _, _,
        ofBlock_eq_duplicateKey_iff.mpr ⟨rfl, first, second, hfirst, rfl, rfl, rfl⟩⟩
  case duplicateKey => exact fun _ _ _ _ => ofBlock_eq_duplicateKey_iff.mp
  case unsupportedTag_iff =>
    intro hdistinct
    rw [ofBlock_eq_ofDistinct_of_nodup hdistinct]
    exact ofDistinct_eq_error_iff
  case record =>
    intro hdistinct htag
    rw [ofBlock_eq_ofDistinct_of_nodup hdistinct]
    exact exists_isRecordOf hdistinct htag

end SceneAudit
