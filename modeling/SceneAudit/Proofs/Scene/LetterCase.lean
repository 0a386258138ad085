import SceneAudit.Proofs.Reference.LetterCase
import SceneAudit.Proofs.Scene.Lines
import SceneAudit.Scene
import Mathlib.Data.List.Forall2

/-!
# Scenes in other letter case

The value of `m_Script` may be written in any letter case: the scene has the same scripts, but
for the letters in what an unresolved reference quotes (`Scene.scripts_recased`).

Nothing on the way from the text to the scripts depends on these letters.

* Which lines there are, which of them are delimiters and how far they are indented: the key
  stands in front of the value (`Scene.RecasedLine.readAlike`).
* Which blocks there are and which lines they have (`blocks_alike`), and which keys these
  lines give, so also which blocks are rejected (`Record.lowered_ofBlock`).
* What the value refers to (`Reference.lowered_fileId`, `Reference.lowered_guid`).
-/

namespace SceneAudit

open Text

/-! ## What a line says -/

/-- The value of a key, of the script's in lower case. -/
def ScalarKey.lowered : ScalarKey → String → String
  | script, value => lower value
  | _, value => value

/-- What the line says, with the value of the script's key in lower case. -/
def FieldLine.lowered : FieldLine → FieldLine
  | scalar key value => scalar key (key.lowered value)
  | field => field

/-- Two lines are told apart only by the letter case of a value of the script's key. -/
structure ReadAlike (line other : String) : Prop where
  /-- A delimiter line is the same in both texts. -/
  delimiter : line = other ∨ Header.isDelimiter line = false ∧ Header.isDelimiter other = false
  indentation_eq : indentation line.toList = indentation other.toList
  allBlank_eq : allBlank line.toList = allBlank other.toList
  field_eq : (FieldLine.ofLine line).lowered = (FieldLine.ofLine other).lowered

namespace Scene

/-- The lines are equal, or they give the script's key values that are equal but for the case of
letters.  So the letters of the guid may differ in case, and all others of the value. -/
inductive RecasedLine : String → String → Prop
  | same (line : String) : RecasedLine line line
  | script {before value other : List Char} (hcolon : ':' ∉ before)
      (hkey : trim before = ScalarKey.script.text.toList) (hvalue : SameLetters value other) :
      RecasedLine (String.ofList (before ++ ':' :: value)) (String.ofList (before ++ ':' :: other))

end Scene

/-! ## One line in other letter case -/

section Line

variable {before : List Char}

theorem FieldLine.ofLine_of_trim_eq {key : ScalarKey} (hcolon : ':' ∉ before)
    (hkey : trim before = key.text.toList) (value : List Char) :
    ofLine (String.ofList (before ++ ':' :: value)) =
      scalar key (String.ofList (trim (trimEnd value))) := by
  have hblank : isBlank ':' = false := by decide
  have hstart : ':' ∉ trimStart before := fun hmem =>
    hcolon ((List.dropWhile_sublist _).subset hmem)
  rw [ofLine, String.toList_ofList, trim, trimStart_append_cons hblank, trimEnd_append_cons hblank]
  exact ofTrimmed_of_trimEnd_eq hstart hkey _

/-- What stands behind a colon does not change how far the line is indented. -/
theorem indentation_append_colon (before value : List Char) :
    indentation (before ++ ':' :: value) = indentation (before ++ [':']) := by
  unfold indentation
  have hrun : ∀ rest, (before ++ ':' :: rest).takeWhile isBlank = before.takeWhile isBlank := by
    intro rest
    induction before with
    | nil => rfl
    | cons c before ih => by_cases hc : isBlank c = true <;> simp [hc, ih]
  rw [hrun value, hrun []]

theorem allBlank_append_colon (before value : List Char) : allBlank (before ++ ':' :: value) = false := by
  rw [allBlank, List.all_append, List.all_cons, Bool.and_eq_false_iff]
  exact .inr rfl

/-- A line that gives a key is no delimiter. -/
theorem Header.isDelimiter_of_trim_eq {key : ScalarKey} (hkey : trim before = key.text.toList)
    (value : List Char) : isDelimiter (String.ofList (before ++ ':' :: value)) = false := by
  by_contra hdelimiter
  rw [Bool.not_eq_false, isDelimiter, String.toList_ofList, List.isPrefixOf_iff_prefix] at hdelimiter
  have hdash : before.head? = some '-' := by
    cases before with
    | nil => cases key <;> exact absurd hkey (by decide)
    | cons c before =>
        obtain ⟨rest, hrest⟩ := hdelimiter
        exact congrArg some (List.cons.inj hrest).1.symm
  obtain ⟨more, rfl⟩ := List.head?_eq_some_iff.mp hdash
  -- a dash in front would be left by trimming, and no key starts with one
  have hsolid : isBlank '-' = false := by decide
  have htrim : trim ('-' :: more) = '-' :: trimEnd more := by
    rw [trim_cons_of_not_blank hsolid]
    exact trimEnd_append_cons hsolid [] more
  rw [htrim] at hkey
  have hnone : ∀ key : ScalarKey, key.text.toList.head? ≠ some '-' := by
    intro key
    cases key <;> decide
  exact hnone key (congrArg List.head? hkey).symm

end Line

theorem Scene.RecasedLine.readAlike {line other : String} (h : RecasedLine line other) :
    ReadAlike line other := by
  cases h with
  | same => exact ⟨.inl rfl, rfl, rfl, rfl⟩
  | @script before value other hcolon hkey hvalue =>
      constructor
      · exact .inr ⟨Header.isDelimiter_of_trim_eq hkey value, Header.isDelimiter_of_trim_eq hkey other⟩
      · rw [String.toList_ofList, String.toList_ofList, indentation_append_colon,
          indentation_append_colon before other]
      · rw [String.toList_ofList, String.toList_ofList, allBlank_append_colon, allBlank_append_colon]
      · have hlower : lower (String.ofList (trim (trimEnd value))) =
            lower (String.ofList (trim (trimEnd other))) := by
          rw [lower_eq_lower_iff, String.toList_ofList, String.toList_ofList]
          exact hvalue.trimEnd.trim
        rw [FieldLine.ofLine_of_trim_eq hcolon hkey, FieldLine.ofLine_of_trim_eq hcolon hkey]
        exact congrArg (FieldLine.scalar .script) hlower

/-! ## Blocks -/

/-- The blocks have the same header, and lines that are read alike. -/
structure Block.Alike (block other : Block) : Prop where
  tag_eq : block.tag = other.tag
  fileId_eq : block.fileId = other.fileId
  headerLine_eq : block.headerLine = other.headerLine
  lines : List.Forall₂ ReadAlike block.lines other.lines

theorem ReadAlike.sameDelimiter {line other : String} (h : ReadAlike line other) :
    Header.SameDelimiter line other := by
  rcases h.delimiter with rfl | ⟨hline, hother⟩
  · exact ⟨rfl, fun _ => rfl⟩
  · refine ⟨hline.trans hother.symm, fun hdelimiter => ?_⟩
    exact absurd (hline.symm.trans hdelimiter) Bool.false_ne_true

theorem blocks_alike {tags lines others : List String} (h : List.Forall₂ ReadAlike lines others)
    (number : Nat) :
    List.Forall₂ Block.Alike (Segmenter.blocks ⟨tags, lines, number, none⟩)
      (Segmenter.blocks ⟨tags, others, number, none⟩) :=
  (Segmenter.blocks_related (fun _ _ => ReadAlike.sameDelimiter) h number).imp
    fun _ _ hrelated =>
      ⟨hrelated.tag_eq, hrelated.fileId_eq, hrelated.headerLine_eq, hrelated.lines⟩

/-! ## Keys and values -/

/-- The occurrence with the value of the script's key in lower case. -/
def Occurrence.lowered (occurrence : Occurrence) : Occurrence :=
  { occurrence with value := occurrence.key.lowered occurrence.value }

namespace Block.Alike

variable {block other : Block}

theorem indent?_eq (h : Alike block other) : block.indent? = other.indent? :=
  indent?_eq_of_forall₂
    (h.lines.imp fun _ _ hline => ⟨hline.allBlank_eq, fun _ => hline.indentation_eq⟩)

theorem fieldLines (h : Alike block other) :
    block.fieldLines.map (Prod.map id FieldLine.lowered) =
      other.fieldLines.map (Prod.map id FieldLine.lowered) := by
  have hnumber : ∀ index, block.lineNumber index = other.lineNumber index := by
    intro index
    rw [lineNumber, h.headerLine_eq, lineNumber]
  unfold Block.fieldLines
  rw [h.indent?_eq]
  cases other.indent? with
  | none => rfl
  | some indent =>
      rw [List.map_filterMap, List.map_filterMap]
      apply filterMap_eq_of_forall₂ (forall₂_zipIdx h.lines 0)
      rintro ⟨line, index⟩ ⟨otherLine, _⟩ ⟨hline, rfl⟩
      simp only [hline.indentation_eq, hnumber]
      split_ifs
      · exact congrArg (fun field => some (other.lineNumber index, field)) hline.field_eq
      · rfl

theorem topLevel (h : Alike block other) :
    block.topLevel.map FieldLine.lowered = other.topLevel.map FieldLine.lowered := by
  have hsaid := congrArg (List.map Prod.snd) h.fieldLines
  rw [List.map_map, List.map_map] at hsaid
  unfold Block.topLevel
  rw [List.map_map, List.map_map]
  exact hsaid

end Block.Alike

/-- What is taken of the lowered lines is what is taken of the lines, lowered. -/
theorem lowered_occurrences (block : Block) :
    block.occurrences.map Occurrence.lowered =
      (block.fieldLines.map (Prod.map id FieldLine.lowered)).filterMap fun
        | (line, .scalar key value) => some ⟨line, key, value⟩
        | _ => none := by
  unfold Block.occurrences
  rw [List.map_filterMap, List.filterMap_map]
  apply List.filterMap_congr
  rintro ⟨number, field⟩ -
  cases field <;> rfl

namespace Block.Alike

variable {block other : Block}

theorem occurrences (h : Alike block other) :
    block.occurrences.map Occurrence.lowered = other.occurrences.map Occurrence.lowered := by
  rw [lowered_occurrences, h.fieldLines, ← lowered_occurrences]

theorem componentItems_eq (h : Alike block other) : block.componentItems = other.componentItems := by
  have hcomponent : FieldLine.component? ∘ FieldLine.lowered = FieldLine.component? := by
    funext field
    cases field <;> rfl
  rw [Block.componentItems_eq, Block.componentItems_eq, ← hcomponent, ← List.filterMap_map,
    ← List.filterMap_map, h.topLevel]

theorem childItems_eq (h : Alike block other) : block.childItems = other.childItems := by
  have hchild : FieldLine.child? ∘ FieldLine.lowered = FieldLine.child? := by
    funext field
    cases field <;> rfl
  rw [Block.childItems_eq, Block.childItems_eq, ← hchild, ← List.filterMap_map,
    ← List.filterMap_map, h.topLevel]

end Block.Alike

theorem lowered_scalar? (block : Block) (key : ScalarKey) :
    (block.scalar? key).map key.lowered =
      ((block.occurrences.map Occurrence.lowered).find? (·.key = key)).map Occurrence.value := by
  have hkey : (fun occurrence : Occurrence => decide (occurrence.key = key)) ∘ Occurrence.lowered =
      fun occurrence => decide (occurrence.key = key) := rfl
  rw [Block.scalar?, List.find?_map, hkey, Option.map_map, Option.map_map]
  apply Option.map_congr
  intro occurrence hfound
  -- the value that was found is one of the key that was looked for
  have hown : occurrence.key = key := by simpa using List.find?_some hfound
  rw [Function.comp_apply, Function.comp_apply, Occurrence.lowered, hown]

namespace Block.Alike

variable {block other : Block}

/-- Only the value of the script's key shows letter case. -/
theorem scalar?_eq (h : Alike block other) {key : ScalarKey} (hkey : key ≠ .script) :
    block.scalar? key = other.scalar? key := by
  have hlowered := lowered_scalar? block key
  rw [h.occurrences, ← lowered_scalar?] at hlowered
  have hsame : key.lowered = id := by
    cases key with
    | script => exact absurd rfl hkey
    | name => rfl
    | father => rfl
    | gameObject => rfl
  rw [hsame, Option.map_id] at hlowered
  exact hlowered

theorem scalar?_script (h : Alike block other) :
    (block.scalar? .script).map lower = (other.scalar? .script).map lower := by
  have hlowered := lowered_scalar? block .script
  rwa [h.occurrences, ← lowered_scalar?] at hlowered

end Block.Alike

/-! ## Records and scenes -/

/-- The component with what its references to the asset quote in lower case. -/
def Script.lowered (script : Script) : Script :=
  { script with
    scriptFileId := script.scriptFileId.lowered
    guid := script.guid.lowered }

/-- The record with what a script component quotes in lower case. -/
def Record.lowered : Record → Record
  | script record => script record.lowered
  | record => record

namespace Record

variable {block other : Block}

theorem lowered_ofDistinct (h : block.Alike other) :
    (ofDistinct block).map lowered = (ofDistinct other).map lowered := by
  have hfileId : (Reference.fileId (block.scalar? .script)).lowered =
      (Reference.fileId (other.scalar? .script)).lowered := by
    rw [Reference.lowered_fileId, Reference.lowered_fileId, h.scalar?_script]
  have hguid : (Reference.guid (block.scalar? .script)).lowered =
      (Reference.guid (other.scalar? .script)).lowered := by
    rw [Reference.lowered_guid, Reference.lowered_guid, h.scalar?_script]
  have hname : block.scalar? .name = other.scalar? .name := h.scalar?_eq (by decide)
  have hobject : block.scalar? .gameObject = other.scalar? .gameObject := h.scalar?_eq (by decide)
  have hfather : block.scalar? .father = other.scalar? .father := h.scalar?_eq (by decide)
  unfold ofDistinct
  rw [h.tag_eq, h.fileId_eq, hname, hobject, hfather, h.componentItems_eq, h.childItems_eq]
  split_ifs
  · rfl
  · rfl
  · simp only [Except.map, lowered, Script.lowered, hfileId, hguid]
  · rfl

/-- Blocks that are read alike become the same record but for the letter case of quotes, or
they are rejected for the same reason. -/
theorem lowered_ofBlock (h : block.Alike other) :
    (ofBlock block).map lowered = (ofBlock other).map lowered := by
  have hkey : ∀ occurrence, (Occurrence.lowered occurrence).key = occurrence.key := fun _ => rfl
  have hrepeated := repeatedKey?_map hkey [] block.occurrences
  rw [h.occurrences, repeatedKey?_map hkey [] other.occurrences] at hrepeated
  unfold ofBlock
  cases hblock : repeatedKey? [] block.occurrences with
  | none =>
      rw [hblock, Option.map_none, Option.map_eq_none_iff] at hrepeated
      rw [hrepeated]
      exact lowered_ofDistinct h
  | some pair =>
      -- the error names lines and a key, which lower-casing keeps
      rw [hblock, Option.map_some, Option.map_eq_some_iff] at hrepeated
      obtain ⟨⟨first, second⟩, hother, hpair⟩ := hrepeated
      obtain ⟨hfirst, hsecond⟩ := Prod.mk.inj hpair
      have hfirstLine : first.line = pair.1.line := (congrArg Occurrence.line hfirst :)
      have hsecondLine : second.line = pair.2.line := (congrArg Occurrence.line hsecond :)
      have hsecondKey : second.key = pair.2.key := (congrArg Occurrence.key hsecond :)
      rw [hother]
      simp only [Except.map, hfirstLine, hsecondLine, hsecondKey, h.fileId_eq]

end Record

namespace Scene

theorem lowered_script? (outcome : BlockOutcome) :
    outcome.script?.map Script.lowered =
      BlockOutcome.script? ⟨outcome.block, outcome.record.map Record.lowered⟩ := by
  obtain ⟨block, record⟩ := outcome
  rcases record with error | (_ | _ | _) <;> rfl

theorem lowered_scripts_ofBlocks {blocks others : List Block}
    (h : List.Forall₂ Block.Alike blocks others) :
    (ofBlocks blocks).scripts.map Script.lowered = (ofBlocks others).scripts.map Script.lowered := by
  unfold ofBlocks
  rw [List.map_filterMap, List.map_filterMap, List.filterMap_map, List.filterMap_map]
  apply filterMap_eq_of_forall₂ h
  intro block other halike
  have hrecord : (BlockOutcome.ofBlock block).record.map Record.lowered =
      (BlockOutcome.ofBlock other).record.map Record.lowered := Record.lowered_ofBlock halike
  rw [Function.comp_apply, Function.comp_apply, lowered_script?, lowered_script?, hrecord]
  rfl

/-- **The scripts of a scene do not depend on the letter case of what `m_Script` says**, but
for what an unresolved reference quotes. -/
theorem scripts_recased {document other : String}
    (h : List.Forall₂ RecasedLine (Text.lines document) (Text.lines other)) :
    (ofDocument document).scripts.map Script.lowered =
      (ofDocument other).scripts.map Script.lowered :=
  lowered_scripts_ofBlocks (blocks_alike (h.imp fun _ _ => RecasedLine.readAlike) 1)

end Scene

end SceneAudit
