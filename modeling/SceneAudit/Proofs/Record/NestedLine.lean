import SceneAudit.Proofs.Record.Outcome

/-!
# Nested lines do not disturb a record

A line of a block that is blank, or not indented as far as the first line that is not, says
nothing that a record keeps (`Block.IsNested`).  Such lines can be deleted, and inserted behind
that first line: the block becomes the same record, or is rejected for the same two lines,
wherever these stand now (`ofBlock_edited`).

The two versions of the body are compared line by line (`Change`).  The first line that is not
blank is a kept one, so the top level is indented alike in both (`NestedEdit.indent?_edited`),
and every line of it that says something is a kept one.  So what is taken from one version and
what is taken from the other are both taken from the kept lines, and differ in the line numbers
only (`NestedEdit.forall₂_taken`).
-/

namespace SceneAudit

open Text

/-! ## Two versions of a text -/

/-- A line in the comparison of two versions of a text. -/
inductive Change where
  | kept (line : String)
  | deleted (line : String)
  | inserted (line : String)
deriving DecidableEq

namespace Change

def old? : Change → Option String
  | kept line | deleted line => some line
  | inserted _ => none

def new? : Change → Option String
  | kept line | inserted line => some line
  | deleted _ => none

def oldLines (changes : List Change) : List String :=
  changes.filterMap old?

def newLines (changes : List Change) : List String :=
  changes.filterMap new?

/-- One kept line stands at these places in the two versions. -/
def StandsAt (changes : List Change) (old new : Nat) : Prop :=
  ∃ before line after, changes = before ++ kept line :: after ∧
    (oldLines before).length = old ∧ (newLines before).length = new

/-- Some line in front of every inserted one has the property in the old version. -/
def InsertsBehind (property : String → Prop) (changes : List Change) : Prop :=
  ∀ before line after, changes = before ++ inserted line :: after →
    ∃ first ∈ oldLines before, property first

/-- The kept lines with their places in the two versions, counted from `old` and `new`. -/
def common (old new : Nat) : List Change → List (String × Nat × Nat)
  | [] => []
  | kept line :: later => (line, old, new) :: common (old + 1) (new + 1) later
  | deleted _ :: later => common (old + 1) new later
  | inserted _ :: later => common old (new + 1) later

theorem oldLines_cons (change : Change) (later : List Change) :
    oldLines (change :: later) = oldLines [change] ++ oldLines later :=
  List.filterMap_append (l := [change])

theorem newLines_cons (change : Change) (later : List Change) :
    newLines (change :: later) = newLines [change] ++ newLines later :=
  List.filterMap_append (l := [change])

variable {changes : List Change}

/-! ### The kept lines -/

theorem exists_split_of_mem_common {old new place newPlace : Nat} {line : String}
    (h : (line, place, newPlace) ∈ common old new changes) :
    ∃ before after, changes = before ++ kept line :: after ∧
      old + (oldLines before).length = place ∧ new + (newLines before).length = newPlace := by
  induction changes generalizing old new with
  | nil => exact absurd h List.not_mem_nil
  | cons change later ih =>
      -- the changes behind this one give the split, this one moves it by the lines it has
      have hbehind : ∀ {nextOld nextNew}, (line, place, newPlace) ∈ common nextOld nextNew later →
          old + (oldLines [change]).length = nextOld → new + (newLines [change]).length = nextNew →
          ∃ before after, change :: later = before ++ kept line :: after ∧
            old + (oldLines before).length = place ∧ new + (newLines before).length = newPlace := by
        rintro _ _ hmem rfl rfl
        obtain ⟨before, after, rfl, hplace, hnewPlace⟩ := ih hmem
        refine ⟨change :: before, after, rfl, ?_, ?_⟩
        · rw [oldLines_cons, List.length_append, ← Nat.add_assoc, hplace]
        · rw [newLines_cons, List.length_append, ← Nat.add_assoc, hnewPlace]
      cases change with
      | kept first =>
          rcases List.mem_cons.mp h with heq | hmem
          · obtain ⟨rfl, rfl, rfl⟩ : line = first ∧ place = old ∧ newPlace = new := by
              simpa using heq
            exact ⟨[], later, rfl, rfl, rfl⟩
          · exact hbehind hmem rfl rfl
      | deleted => exact hbehind h rfl rfl
      | inserted => exact hbehind h rfl rfl

theorem standsAt_of_mem_common {line : String} {place newPlace : Nat}
    (h : (line, place, newPlace) ∈ common 0 0 changes) : StandsAt changes place newPlace := by
  obtain ⟨before, after, hsplit, hplace, hnewPlace⟩ := exists_split_of_mem_common h
  rw [Nat.zero_add] at hplace hnewPlace
  exact ⟨before, line, after, hsplit, hplace, hnewPlace⟩

/-- What takes nothing from the deleted lines takes from the old version what it takes from the
kept lines. -/
theorem filterMap_zipIdx_oldLines {β : Type} {take : String × Nat → Option β}
    (hdeleted : ∀ line, deleted line ∈ changes → ∀ place, take (line, place) = none) (old new : Nat) :
    ((oldLines changes).zipIdx old).filterMap take =
      (common old new changes).filterMap fun (line, place, _) => take (line, place) := by
  induction changes generalizing old new with
  | nil => rfl
  | cons change later ih =>
      have hlater := ih fun line hline => hdeleted line (List.mem_cons_of_mem _ hline)
      cases change with
      | kept line =>
          show ((line, old) :: (oldLines later).zipIdx (old + 1)).filterMap take = _
          rw [common, List.filterMap_cons, List.filterMap_cons, hlater (old + 1) (new + 1)]
      | deleted line =>
          show ((line, old) :: (oldLines later).zipIdx (old + 1)).filterMap take = _
          rw [common, List.filterMap_cons, hdeleted line List.mem_cons_self, hlater (old + 1) new]
      | inserted line => exact hlater old (new + 1)

/-- What takes nothing from the inserted lines takes from the new version what it takes from the
kept lines. -/
theorem filterMap_zipIdx_newLines {β : Type} {take : String × Nat → Option β}
    (hinserted : ∀ line, inserted line ∈ changes → ∀ place, take (line, place) = none)
    (old new : Nat) :
    ((newLines changes).zipIdx new).filterMap take =
      (common old new changes).filterMap fun (line, _, place) => take (line, place) := by
  induction changes generalizing old new with
  | nil => rfl
  | cons change later ih =>
      have hlater := ih fun line hline => hinserted line (List.mem_cons_of_mem _ hline)
      cases change with
      | kept line =>
          show ((line, new) :: (newLines later).zipIdx (new + 1)).filterMap take = _
          rw [common, List.filterMap_cons, List.filterMap_cons, hlater (old + 1) (new + 1)]
      | deleted line => exact hlater (old + 1) new
      | inserted line =>
          show ((line, new) :: (newLines later).zipIdx (new + 1)).filterMap take = _
          rw [common, List.filterMap_cons, hinserted line List.mem_cons_self, hlater old (new + 1)]

/-- A search finds the same line if that line is not deleted and nothing is inserted before it. -/
theorem find?_newLines {p : String → Bool}
    (hdeleted : ∀ line, deleted line ∈ changes → (oldLines changes).find? p ≠ some line)
    (hinserted : InsertsBehind (p · = true) changes) :
    (newLines changes).find? p = (oldLines changes).find? p := by
  induction changes with
  | nil => rfl
  | cons change later ih =>
      -- a change in front whose line is not searched for can be left out of both conditions
      have hbehind : (∀ line ∈ oldLines [change], p line = false) →
          (newLines later).find? p = (oldLines later).find? p := by
        intro hpassed
        have hnone : (oldLines [change]).find? p = none := by simpa using hpassed
        apply ih
        · intro line hline
          have hfound := hdeleted line (List.mem_cons_of_mem _ hline)
          rwa [oldLines_cons, List.find?_append, hnone, Option.none_or] at hfound
        · intro before line after hsplit
          obtain ⟨first, hfirst, hp⟩ := hinserted (change :: before) line after (by rw [hsplit]; rfl)
          rw [oldLines_cons, List.mem_append] at hfirst
          refine ⟨first, hfirst.resolve_left fun hmem => ?_, hp⟩
          rw [hpassed first hmem] at hp
          exact absurd hp (by simp)
      cases change with
      | kept line =>
          show (line :: newLines later).find? p = (line :: oldLines later).find? p
          cases hp : p line with
          | true => rw [List.find?_cons_of_pos hp, List.find?_cons_of_pos hp]
          | false =>
              rw [List.find?_cons_of_neg (by simp [hp]), List.find?_cons_of_neg (by simp [hp])]
              exact hbehind fun other hother => List.mem_singleton.mp hother ▸ hp
      | deleted line =>
          show (newLines later).find? p = (line :: oldLines later).find? p
          cases hp : p line with
          | true => exact absurd (List.find?_cons_of_pos hp) (hdeleted line List.mem_cons_self)
          | false =>
              rw [List.find?_cons_of_neg (by simp [hp])]
              exact hbehind fun other hother => List.mem_singleton.mp hother ▸ hp
      | inserted line =>
          obtain ⟨first, hfirst, -⟩ := hinserted [] line later rfl
          exact absurd hfirst List.not_mem_nil

end Change

/-! ## Editing nested lines -/

namespace Block

/-- The line is blank, or not indented as far as the first line that is not. -/
def IsNested (block : Block) (line : String) : Prop :=
  allBlank line.toList = true ∨ ¬ block.AtTopLevel line

instance (block : Block) (line : String) : Decidable (block.IsNested line) :=
  inferInstanceAs (Decidable (_ ∨ _))

/-- The changes are made to the body of the block, to nested lines only, and lines are inserted
only behind the first one that is not blank. -/
structure NestedEdit (block : Block) (changes : List Change) : Prop where
  oldLines_eq : Change.oldLines changes = block.lines
  deleted : ∀ line, .deleted line ∈ changes → block.IsNested line
  inserted : ∀ line, .inserted line ∈ changes → block.IsNested line
  behind : Change.InsertsBehind (fun line => (!allBlank line.toList) = true) changes

/-- The block with the new version of its body. -/
def edited (block : Block) (changes : List Change) : Block :=
  { block with lines := Change.newLines changes }

/-- What is taken from what a line says, if it stands at the top level of the block. -/
def taken {β : Type} (block : Block) (take : Nat × FieldLine → Option β) (line : String)
    (place : Nat) : Option β :=
  if block.AtTopLevel line then take (block.lineNumber place, .ofLine line) else none

section Taken

variable {β : Type} {block : Block} {take : Nat × FieldLine → Option β}

theorem filterMap_fieldLines_eq (block : Block) (take : Nat × FieldLine → Option β) :
    block.fieldLines.filterMap take =
      block.lines.zipIdx.filterMap fun (line, place) => block.taken take line place := by
  rw [fieldLines_eq, List.filterMap_filterMap]
  apply List.filterMap_congr
  rintro ⟨line, place⟩ -
  by_cases htop : block.AtTopLevel line <;> simp [taken, htop]

theorem taken_of_isNested (hother : ∀ number, take (number, .other) = none) {line : String}
    (h : block.IsNested line) (place : Nat) : block.taken take line place = none := by
  rw [taken]
  rcases h with hblank | hdeep
  · rw [FieldLine.ofLine_of_allBlank hblank, hother, ite_self]
  · rw [if_neg hdeep]

end Taken

namespace NestedEdit

variable {block : Block} {changes : List Change} (h : block.NestedEdit changes)

include h

theorem indent?_edited : (block.edited changes).indent? = block.indent? := by
  have hfind : (Change.newLines changes).find? (fun line => !allBlank line.toList) =
      (Change.oldLines changes).find? fun line => !allBlank line.toList := by
    apply Change.find?_newLines _ h.behind
    intro line hline hfound
    rw [h.oldLines_eq] at hfound
    -- the line that sets the width of the top level is not nested
    have hsolid : allBlank line.toList = false := by simpa using List.find?_some hfound
    rcases h.deleted line hline with hblank | hdeep
    · exact absurd hblank (by simp [hsolid])
    · exact hdeep ⟨line, hfound, rfl⟩
  show (List.find? _ (Change.newLines changes)).map _ = _
  rw [hfind, h.oldLines_eq]
  rfl

theorem atTopLevel_edited (line : String) :
    (block.edited changes).AtTopLevel line ↔ block.AtTopLevel line := by
  rw [atTopLevel_iff, atTopLevel_iff, h.indent?_edited]

/-- What is taken from the two versions of a block differs in the places of the lines only. -/
theorem forall₂_taken {β : Type} {take : Nat × FieldLine → Option β} {r : β → β → Prop}
    (hother : ∀ number, take (number, .other) = none)
    (hmoved : ∀ field place newPlace, Change.StandsAt changes place newPlace →
      Option.Rel r (take (block.lineNumber place, field)) (take (block.lineNumber newPlace, field))) :
    List.Forall₂ r (block.fieldLines.filterMap take)
      ((block.edited changes).fieldLines.filterMap take) := by
  have hedited : ∀ line place,
      (block.edited changes).taken take line place = block.taken take line place := by
    intro line place
    simp only [taken, h.atTopLevel_edited]
    rfl
  rw [filterMap_fieldLines_eq, filterMap_fieldLines_eq]
  simp only [hedited]
  show List.Forall₂ r _ ((Change.newLines changes).zipIdx.filterMap _)
  rw [← h.oldLines_eq,
    Change.filterMap_zipIdx_oldLines (fun line hline => taken_of_isNested hother (h.deleted line hline)) 0 0,
    Change.filterMap_zipIdx_newLines (fun line hline => taken_of_isNested hother (h.inserted line hline)) 0 0]
  apply List.rel_filterMap (R := fun entry other => entry = other ∧ entry ∈ Change.common 0 0 changes)
  · rintro ⟨line, place, newPlace⟩ _ ⟨rfl, hmem⟩
    simp only [taken]
    split_ifs
    · exact hmoved _ _ _ (Change.standsAt_of_mem_common hmem)
    · exact .none
  · exact List.forall₂_same.mpr fun entry hmem => ⟨rfl, hmem⟩

/-- What does not depend on the line number is taken alike. -/
theorem filterMap_topLevel_edited {β : Type} {take : FieldLine → Option β} (hother : take .other = none) :
    (block.edited changes).topLevel.filterMap take = block.topLevel.filterMap take := by
  rw [topLevel, topLevel, List.filterMap_map, List.filterMap_map, eq_comm, ← List.forall₂_eq_eq_eq]
  apply h.forall₂_taken fun _ => hother
  intro field place newPlace _
  show Option.Rel (· = ·) (take field) (take field)
  cases take field with
  | none => exact .none
  | some taken => exact .some rfl

theorem ofDistinct_edited : Record.ofDistinct (block.edited changes) = Record.ofDistinct block :=
  ofDistinct_congr rfl rfl h.filterMap_topLevel_edited

end NestedEdit

end Block

/-! ## The outcome -/

/-- The two occurrences are the same line, which stands at different places now. -/
structure Occurrence.Moved (block : Block) (changes : List Change) (occurrence moved : Occurrence) :
    Prop where
  key_eq : occurrence.key = moved.key
  places : ∃ place newPlace, Change.StandsAt changes place newPlace ∧
    occurrence.line = block.lineNumber place ∧ moved.line = block.lineNumber newPlace

theorem Block.NestedEdit.forall₂_occurrences {block : Block} {changes : List Change}
    (h : block.NestedEdit changes) :
    List.Forall₂ (Occurrence.Moved block changes) block.occurrences
      (block.edited changes).occurrences := by
  apply h.forall₂_taken fun _ => rfl
  intro field place newPlace hstands
  cases field with
  | scalar key value => exact .some ⟨rfl, place, newPlace, hstands, rfl, rfl⟩
  | component item => exact .none
  | child item => exact .none
  | other => exact .none

/-- Where the keys are the same, the same two occurrences are found to be repeated. -/
theorem repeatedKey?_of_forall₂ {r : Occurrence → Occurrence → Prop}
    (hkey : ∀ occurrence other, r occurrence other → occurrence.key = other.key)
    {seen others occurrences later : List Occurrence} (hseen : List.Forall₂ r seen others)
    (h : List.Forall₂ r occurrences later) :
    Option.Rel (fun pair other => r pair.1 other.1 ∧ r pair.2 other.2)
      (repeatedKey? seen occurrences) (repeatedKey? others later) := by
  induction h generalizing seen others with
  | nil => exact .none
  | @cons occurrence other _ _ hoccurrence _ ih =>
      have hsame : ∀ first otherFirst, r first otherFirst →
          decide (first.key = occurrence.key) = decide (otherFirst.key = other.key) := by
        intro first otherFirst hfirst
        rw [hkey _ _ hfirst, hkey _ _ hoccurrence]
      rw [repeatedKey?, repeatedKey?]
      obtain ⟨hnone, hnone'⟩ | ⟨first, otherFirst, hfound, hfound', hfirst⟩ :=
        find?_of_forall₂ hseen hsame
      · rw [hnone, hnone']
        exact ih (.cons hoccurrence hseen)
      · rw [hfound, hfound']
        exact .some ⟨hfirst, hoccurrence⟩

/-- The outcomes are the same, or a key is repeated in the same two lines, which stand at other
places now. -/
inductive SameOutcome (block : Block) (changes : List Change) :
    Except RecordError Record → Except RecordError Record → Prop
  | record (record : Record) : SameOutcome block changes (.ok record) (.ok record)
  | unsupportedTag (fileId : FileId) (tag : String) :
      SameOutcome block changes (.error (.unsupportedTag fileId tag)) (.error (.unsupportedTag fileId tag))
  | duplicateKey (fileId : FileId) (key : ScalarKey) {first newFirst second newSecond : Nat}
      (hfirst : Change.StandsAt changes first newFirst)
      (hsecond : Change.StandsAt changes second newSecond) :
      SameOutcome block changes
        (.error (.duplicateKey fileId key (block.lineNumber first) (block.lineNumber second)))
        (.error (.duplicateKey fileId key (block.lineNumber newFirst) (block.lineNumber newSecond)))

/-- **Nested lines do not disturb a record**: with nested lines deleted, and others inserted behind
the first line that is not blank, a block becomes the same record or is rejected for the same. -/
theorem ofBlock_edited {block : Block} {changes : List Change} (h : block.NestedEdit changes) :
    SameOutcome block changes (Record.ofBlock block) (Record.ofBlock (block.edited changes)) := by
  have hrepeated := repeatedKey?_of_forall₂ (fun _ _ hmoved => hmoved.key_eq) .nil h.forall₂_occurrences
  rw [Record.ofBlock, Record.ofBlock]
  generalize repeatedKey? [] block.occurrences = repeated at hrepeated ⊢
  generalize repeatedKey? [] (block.edited changes).occurrences = moved at hrepeated ⊢
  cases hrepeated with
  | none =>
      show SameOutcome block changes (Record.ofDistinct block) (Record.ofDistinct (block.edited changes))
      rw [h.ofDistinct_edited]
      rcases block.ofDistinct_cases with ⟨record, hrecord⟩ | herror
      · rw [hrecord]
        exact .record record
      · rw [herror]
        exact .unsupportedTag _ _
  | @some pair moved hpair =>
      obtain ⟨⟨-, first, newFirst, hfirst, hline, hnewLine⟩, hkey, second, newSecond, hsecond,
        hsecondLine, hnewSecondLine⟩ := hpair
      show SameOutcome block changes (.error (.duplicateKey block.fileId pair.2.key pair.1.line pair.2.line))
        (.error (.duplicateKey block.fileId moved.2.key moved.1.line moved.2.line))
      rw [hkey, hline, hnewLine, hsecondLine, hnewSecondLine]
      exact .duplicateKey _ _ hfirst hsecond

/-! ## A lamp with two names -/

namespace TwiceNamedLamp

def lamp : Block where
  tag := Tag.gameObject
  fileId := ⟨"7"⟩
  headerLine := 3
  lines := ["", "  m_Name: Lamp", "    m_Name: Bulb", "  m_Name: Lantern"]
  terminated := true

/-- Each version has another nested line that looks like a name. -/
def changes : List Change :=
  [.deleted "", .kept "  m_Name: Lamp", .inserted "m_Name: Base", .deleted "    m_Name: Bulb",
    .kept "  m_Name: Lantern"]

theorem nestedEdit : lamp.NestedEdit changes where
  oldLines_eq := rfl
  deleted line hline := by
    simp only [changes, List.mem_cons, Change.deleted.injEq, reduceCtorEq, List.not_mem_nil, false_or,
      or_false] at hline
    rcases hline with rfl | rfl <;> decide
  inserted line hline := by
    simp only [changes, List.mem_cons, Change.inserted.injEq, reduceCtorEq, List.not_mem_nil, false_or,
      or_false] at hline
    subst hline
    decide
  behind := by
    rintro (_ | ⟨first, _ | ⟨second, before⟩⟩) line after hsplit
    · simp [changes] at hsplit
    · simp [changes] at hsplit
    · simp only [changes, List.cons_append, List.cons.injEq] at hsplit
      obtain ⟨rfl, rfl, -⟩ := hsplit
      exact ⟨"  m_Name: Lamp", by simp [Change.oldLines, Change.old?], by decide⟩

theorem sameOutcome :
    lamp.NestedEdit changes ∧
      Record.ofBlock lamp = .error (.duplicateKey ⟨"7"⟩ .name 6 8) ∧
      Record.ofBlock (lamp.edited changes) = .error (.duplicateKey ⟨"7"⟩ .name 5 7) ∧
      SameOutcome lamp changes (Record.ofBlock lamp) (Record.ofBlock (lamp.edited changes)) :=
  ⟨nestedEdit, by decide, by decide, ofBlock_edited nestedEdit⟩

end TwiceNamedLamp

end SceneAudit
