import SceneAudit.Proofs.Record.LineNumber
import SceneAudit.Proofs.Scene.Layout

/-!
# Reading the lines of a body

Each line of a body is one line of the document, never a delimiter, stands at the
top level, and says to a reader what it was written for
(`BodyLine.ofLine_text`), whatever characters the value of a key has: a reader
splits at the first colon, which is the one behind the key.
-/

namespace SceneAudit

open Text

namespace Text

/-- The text starts with a character that is not blank. -/
def StartsSolid (cs : List Char) : Prop :=
  (cs.head?.any fun c => !isBlank c) = true

instance (cs : List Char) : Decidable (StartsSolid cs) :=
  inferInstanceAs (Decidable (_ = true))

theorem StartsSolid.exists_cons {cs : List Char} (h : StartsSolid cs) :
    ∃ c more, cs = c :: more ∧ isBlank c = false := by
  cases cs with
  | nil => simp [StartsSolid] at h
  | cons c more => exact ⟨c, more, rfl, by simpa [StartsSolid] using h⟩

end Text

/-! ## The keys -/

namespace ScalarKey

variable (key : ScalarKey)

theorem startsSolid_text (cs : List Char) : StartsSolid (key.text.toList ++ cs) := by
  cases key <;> rfl

theorem trim_text : trim key.text.toList = key.text.toList := by
  cases key <;> decide

theorem colon_not_mem_text : ':' ∉ key.text.toList := by
  cases key <;> decide

/-- A key does not start as a list item does. -/
theorem not_isPrefixOf_text {item : List Char} (hitem : item.head? = some '-') (cs : List Char) :
    ¬item.isPrefixOf (key.text.toList ++ cs) = true := by
  obtain ⟨more, rfl⟩ := List.head?_eq_some_iff.mp hitem
  cases key <;> exact Bool.false_ne_true

end ScalarKey

/-- A reader finds the key before the first colon, also with blanks behind it, and the value
without its outer blanks behind the colon. -/
theorem FieldLine.ofTrimmed_of_trimEnd_eq {key : ScalarKey} {before : List Char}
    (hcolon : ':' ∉ before) (hkey : trimEnd before = key.text.toList) (rest : List Char) :
    ofTrimmed (before ++ ':' :: rest) = scalar key (String.ofList (trim rest)) := by
  obtain ⟨blanks, rfl⟩ : key.text.toList <+: before := hkey ▸ trimEnd_prefix before
  have htrim : trim (key.text.toList ++ blanks) = key.text.toList := by
    obtain ⟨first, more, hfirst, hsolid⟩ := (key.startsSolid_text blanks).exists_cons
    rw [hfirst] at hkey ⊢
    rw [trim_cons_of_not_blank hsolid, hkey]
  rw [ofTrimmed, splitAtColon?_append hcolon, List.append_assoc,
    if_neg (key.not_isPrefixOf_text (by decide) _), if_neg (key.not_isPrefixOf_text (by decide) _)]
  simp [htrim, ScalarKey.ofText?_text]

theorem FieldLine.ofTrimmed_key (key : ScalarKey) (rest : List Char) :
    ofTrimmed (key.text.toList ++ ':' :: rest) = scalar key (String.ofList (trim rest)) :=
  ofTrimmed_of_trimEnd_eq key.colon_not_mem_text (trimEnd_of_isTrimmed key.trim_text) rest

namespace BodyLine

/-! ## Lines that are read back -/

/-- A reader takes nothing from the line. -/
def IsIdle (content : String) : Prop :=
  IsLine content ∧ StartsSolid content.toList ∧
    FieldLine.ofTrimmed (trimEnd content.toList) = .other

instance (content : String) : Decidable (IsIdle content) :=
  inferInstanceAs (Decidable (_ ∧ _ ∧ _))

/-- The line can be written without loss. -/
def IsPrintable : BodyLine → Prop
  | key _ value => IsValue value
  | component target => target.IsPlain
  | child target => target.IsPlain
  | other content => IsIdle content

theorem toList_content_key (given : ScalarKey) (value : String) :
    (key given value).content.toList = given.text.toList ++ ':' :: ' ' :: value.toList := by
  rw [content]
  simp

theorem toList_content_component (target : FileId) :
    (component target).content.toList =
      "- component: \x7bfileID: ".toList ++ target.text.toList ++ ['\x7d'] := by
  rw [content, FileId.written]
  simp

theorem toList_content_child (target : FileId) :
    (child target).content.toList =
      "- \x7bfileID: ".toList ++ target.text.toList ++ ['\x7d'] := by
  rw [content, FileId.written]
  simp

variable {line : BodyLine}

theorem startsSolid_content (h : line.IsPrintable) : StartsSolid line.content.toList := by
  cases line with
  | key given value =>
      rw [toList_content_key]
      exact given.startsSolid_text _
  | component target =>
      rw [toList_content_component]
      simp [StartsSolid, isBlank]
  | child target =>
      rw [toList_content_child]
      simp [StartsSolid, isBlank]
  | other content => exact h.2.1

theorem toList_text (line : BodyLine) : line.text.toList = ' ' :: ' ' :: line.content.toList := by
  simp [text]

theorem isIndented_text (h : line.IsPrintable) : Block.IsIndented 2 line.text := by
  obtain ⟨c, more, hcontent, hblank⟩ := (startsSolid_content h).exists_cons
  rw [Block.IsIndented, toList_text, hcontent]
  have hspace : isBlank ' ' = true := by decide
  have hsize : ' '.utf8Size = 1 := by decide
  simp [indentation, allBlank, hspace, hblank, hsize]

theorem isDelimiter_text (line : BodyLine) : Header.isDelimiter line.text = false := by
  rw [Header.isDelimiter, toList_text]
  rfl

theorem ofLine_eq (h : line.IsPrintable) :
    FieldLine.ofLine line.text = FieldLine.ofTrimmed (trimEnd line.content.toList) := by
  obtain ⟨c, more, hcontent, hblank⟩ := (startsSolid_content h).exists_cons
  have hspace : isBlank ' ' = true := by decide
  rw [FieldLine.ofLine, toList_text, trim_cons_of_blank hspace, trim_cons_of_blank hspace, hcontent,
    trim_cons_of_not_blank hblank]

/-- The line says to a reader what it was written for. -/
theorem ofLine_text (h : line.IsPrintable) : FieldLine.ofLine line.text = line.meaning := by
  rw [ofLine_eq h]
  cases line with
  | key given value =>
      rw [toList_content_key, trimEnd_append_cons (by decide), FieldLine.ofTrimmed_key,
        trim_trimEnd_space h.1, String.ofList_toList, meaning]
  | component target =>
      have hprefix : "- component".toList.isPrefixOf (component target).content.toList := by
        rw [toList_content_component]
        simp
      have hend : trimEnd (component target).content.toList = (component target).content.toList := by
        rw [toList_content_component, trimEnd_append_singleton (by decide)]
      rw [hend, FieldLine.ofTrimmed, if_pos hprefix, String.ofList_toList, meaning]
  | child target =>
      have hcomponent : ¬"- component".toList.isPrefixOf (child target).content.toList := by
        rw [toList_content_child]
        simp
      have hprefix : "- \x7bfileID".toList.isPrefixOf (child target).content.toList := by
        rw [toList_content_child]
        simp
      have hend : trimEnd (child target).content.toList = (child target).content.toList := by
        rw [toList_content_child, trimEnd_append_singleton (by decide)]
      rw [hend, FieldLine.ofTrimmed, if_neg hcomponent, if_pos hprefix, String.ofList_toList, meaning]
  | other content => exact h.2.2

end BodyLine

/-! ## Lines of the document -/

theorem IsValue.isLine {text : String} (h : IsValue text) : IsLine text := by
  refine ⟨h.2, fun hlast => ?_⟩
  have hblank := isBlank_getLast_of_isTrimmed h.1 '\r' hlast
  exact absurd hblank (by decide)

theorem isLine_of_not_blank {text : String} (h : ∀ c ∈ text.toList, isBlank c = false) :
    IsLine text := by
  constructor
  · intro hmem
    exact absurd (h '\n' hmem) (by decide)
  · intro hlast
    exact absurd (h '\r' (List.mem_of_getLast? hlast)) (by decide)

theorem FileId.IsPlain.isLine {id : FileId} (h : id.IsPlain) : IsLine id.text :=
  isLine_of_not_blank h.isBlank_eq_false

theorem Guid.IsPlain.isLine {guid : Guid} (h : guid.IsPlain) : IsLine guid.text :=
  isLine_of_not_blank fun c hc => Reference.isBlank_of_isLowerHex (h.2 c hc)

theorem FileId.IsPlain.isLine_written {id : FileId} (h : id.IsPlain) : IsLine id.written :=
  ((by decide : IsLine "\x7bfileID: ").append h.isLine).append (by decide)

theorem BodyLine.isLine_text {line : BodyLine} (h : line.IsPrintable) : IsLine line.text := by
  have hcontent : IsLine line.content := by
    cases line with
    | key key value =>
        have hkey : IsLine key.text := by cases key <;> decide
        exact (hkey.append (by decide)).append h.isLine
    | component target =>
        exact (by decide : IsLine "- component: ").append (FileId.IsPlain.isLine_written h)
    | child target => exact (by decide : IsLine "- ").append (FileId.IsPlain.isLine_written h)
    | other content => exact h.1
  exact (by decide : IsLine "  ").append hcontent

theorem isTrimmed_braced (cs : List Char) : IsTrimmed ('\x7b' :: (cs ++ ['\x7d'])) := by
  rw [IsTrimmed, trim_cons_of_not_blank (by decide), ← List.cons_append,
    trimEnd_append_singleton (by decide)]

theorem FileId.IsPlain.isValue_written {id : FileId} (h : id.IsPlain) : IsValue id.written := by
  refine ⟨?_, h.isLine_written.1⟩
  have hbraced := isTrimmed_braced ("fileID: ".toList ++ id.text.toList)
  simpa [FileId.written] using hbraced

theorem Script.isValue_asset {fileId : FileId} {guid : Guid} (hfileId : fileId.IsPlain)
    (hguid : guid.IsPlain) : IsValue (asset fileId guid) := by
  have hline : IsLine (asset fileId guid) :=
    ((((by decide : IsLine "\x7bfileID: ").append hfileId.isLine).append (by decide)).append
      hguid.isLine).append (by decide)
  refine ⟨?_, hline.1⟩
  have hbraced := isTrimmed_braced ("fileID: ".toList ++ fileId.text.toList ++
    ", guid: ".toList ++ guid.text.toList ++ ", type: 3".toList)
  simpa [asset] using hbraced

/-! ## Bodies of printable records -/

theorem Reference.isPrintable_lines {reference : Reference FileId}
    (h : reference.ResolvesTo FileId.IsPlain) (key : ScalarKey) :
    ∀ line ∈ reference.lines key, line.IsPrintable := by
  obtain ⟨target, rfl, htarget⟩ := h
  intro line hline
  obtain rfl := List.mem_singleton.mp hline
  exact htarget.isValue_written

theorem BodyLine.isPrintable_others {contents : List String}
    (h : ∀ content ∈ contents, IsIdle content) : ∀ line ∈ others contents, line.IsPrintable := by
  rw [others, List.forall_mem_map]
  exact h

theorem GameObject.IsPrintable.body {object : GameObject} (h : object.IsPrintable) :
    ∀ line ∈ object.body, line.IsPrintable := by
  have hcomponents := Reference.of_mem_filterMap_target? h.components
  simp only [GameObject.body, List.forall_mem_append, List.forall_mem_map, Option.mem_toList]
  exact ⟨⟨⟨⟨BodyLine.isPrintable_others (by decide), hcomponents⟩,
    BodyLine.isPrintable_others (by decide)⟩, h.name⟩, BodyLine.isPrintable_others (by decide)⟩

theorem Transform.isPrintable_childLines {targets : List FileId}
    (h : ∀ target ∈ targets, target.IsPlain) :
    ∀ line ∈ childLines targets, line.IsPrintable := by
  cases targets with
  | nil => exact BodyLine.isPrintable_others (by decide)
  | cons target targets =>
      rw [childLines, List.forall_mem_append, List.forall_mem_map]
      · exact ⟨BodyLine.isPrintable_others (by decide), h⟩
      · simp

theorem Transform.IsPrintable.body {transform : Transform} (h : transform.IsPrintable) :
    ∀ line ∈ transform.body, line.IsPrintable := by
  have hchildren := isPrintable_childLines (Reference.of_mem_filterMap_target? h.children)
  have hgameObject := Reference.isPrintable_lines h.gameObject .gameObject
  have hfather := Reference.isPrintable_lines h.father .father
  simp only [Transform.body, List.forall_mem_append]
  exact ⟨⟨⟨⟨⟨BodyLine.isPrintable_others (by decide), hgameObject⟩,
    BodyLine.isPrintable_others (by decide)⟩, hchildren⟩, hfather⟩,
    BodyLine.isPrintable_others (by decide)⟩

theorem Script.isPrintable_assetLines {fileId : Reference FileId} {guid : Reference Guid}
    (hfileId : fileId.ResolvesTo FileId.IsPlain) (hguid : guid.ResolvesTo Guid.IsPlain) :
    ∀ line ∈ assetLines fileId guid, line.IsPrintable := by
  obtain ⟨fileId, rfl, hfileId⟩ := hfileId
  obtain ⟨guid, rfl, hguid⟩ := hguid
  intro line hline
  obtain rfl := List.mem_singleton.mp hline
  exact isValue_asset hfileId hguid

theorem Script.IsPrintable.body {script : Script} (h : script.IsPrintable) :
    ∀ line ∈ script.body, line.IsPrintable := by
  have hgameObject := Reference.isPrintable_lines h.gameObject .gameObject
  have hasset := isPrintable_assetLines h.scriptFileId h.guid
  have hname : (BodyLine.key .name "").IsPrintable := ⟨rfl, by decide⟩
  simp only [Script.body, List.forall_mem_append, List.forall_mem_singleton]
  exact ⟨⟨⟨⟨⟨BodyLine.isPrintable_others (by decide), hgameObject⟩,
    BodyLine.isPrintable_others (by decide)⟩, hasset⟩, hname⟩,
    BodyLine.isPrintable_others (by decide)⟩

theorem Record.IsPrintable.body {record : Record} (h : record.IsPrintable) :
    ∀ line ∈ record.body, line.IsPrintable := by
  cases record with
  | gameObject object => exact GameObject.IsPrintable.body h
  | transform transform => exact Transform.IsPrintable.body h
  | script script => exact Script.IsPrintable.body h

end SceneAudit
