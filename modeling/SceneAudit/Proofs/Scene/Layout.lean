import SceneAudit.Proofs.Record.Fields
import SceneAudit.Proofs.Reference
import SceneAudit.Proofs.Text.Line

/-!
# The editor's layout

How the editor writes a scene: one block for each record, the keys indented by
two spaces, every reference as `{fileID: n}`.  A record keeps a part of what its
block holds; the other lines are written as they are for a fresh object.  Only
what resolves is written.

`Record.IsPrintable` says which records can be written without loss.
-/

namespace SceneAudit

open Text

/-! ## Identifiers and references -/

namespace FileId

/-- The reference to the object. -/
def written (id : FileId) : String :=
  "\x7bfileID: " ++ id.text ++ "\x7d"

/-- The identifier is a numeral in ASCII digits. -/
def IsPlain (id : FileId) : Prop :=
  IsPlainNumeral id.text.toList

instance (id : FileId) : Decidable id.IsPlain :=
  inferInstanceAs (Decidable (IsPlainNumeral _))

end FileId

namespace Guid

/-- The guid is written in hexadecimal digits, the letters in lower case. -/
def IsPlain (guid : Guid) : Prop :=
  guid.text.toList ≠ [] ∧ ∀ c ∈ guid.text.toList, Reference.IsLowerHex c

instance (guid : Guid) : Decidable guid.IsPlain :=
  decidable_of_iff
    ((!guid.text.toList.isEmpty && guid.text.toList.all fun c => Reference.IsLowerHex c) = true)
    (by simp [IsPlain])

end Guid

namespace Reference

variable {α : Type}

/-- The reference resolves to a target with the property. -/
def ResolvesTo (p : α → Prop) (reference : Reference α) : Prop :=
  ∃ target, reference = resolved target ∧ p target

section Targets

variable {p : α → Prop} {references : List (Reference α)}

theorem of_mem_filterMap_target? (h : ∀ reference ∈ references, ResolvesTo p reference) :
    ∀ target ∈ references.filterMap target?, p target := by
  intro target hmem
  obtain ⟨reference, hreference, htarget⟩ := List.mem_filterMap.mp hmem
  obtain ⟨resolvent, rfl, hresolvent⟩ := h reference hreference
  obtain rfl := Option.some.inj htarget
  exact hresolvent

theorem map_resolved_filterMap_target? (h : ∀ reference ∈ references, ResolvesTo p reference) :
    (references.filterMap target?).map resolved = references := by
  induction references with
  | nil => rfl
  | cons reference references ih =>
      obtain ⟨target, rfl, -⟩ := h reference List.mem_cons_self
      have hrest := ih fun other hother => h other (List.mem_cons_of_mem _ hother)
      have htarget : (resolved target).target? = some target := rfl
      rw [List.filterMap_cons_some htarget, List.map_cons, hrest]

end Targets

end Reference

/-! ## Lines of a body -/

/-- A line of a block's body. -/
inductive BodyLine where
  /-- A key that records take over, with its value. -/
  | key (key : ScalarKey) (value : String)
  | component (target : FileId)
  | child (target : FileId)
  /-- A line that no record takes anything from. -/
  | other (content : String)

namespace BodyLine

/-- Lines that no record takes anything from. -/
def others (contents : List String) : List BodyLine :=
  contents.map other

/-- What stands behind the indentation. -/
def content : BodyLine → String
  | key given value => given.text ++ ": " ++ value
  | component target => "- component: " ++ target.written
  | child target => "- " ++ target.written
  | other content => content

/-- The line as it is written. -/
def text (line : BodyLine) : String :=
  "  " ++ line.content

/-- What the line says to a reader. -/
def meaning : BodyLine → FieldLine
  | key given value => .scalar given value
  | component target => .component (component target).content
  | child target => .child (child target).content
  | other _ => .other

end BodyLine

/-! ## Blocks -/

open BodyLine (others)

namespace Reference

/-- The line that gives a key the reference. -/
def lines (key : ScalarKey) : Reference FileId → List BodyLine
  | resolved target => [.key key target.written]
  | unresolved _ => []

end Reference

namespace GameObject

def body (object : GameObject) : List BodyLine :=
  others ["m_ObjectHideFlags: 0", "serializedVersion: 6", "m_Component:"] ++
    (object.components.filterMap Reference.target?).map .component ++ others ["m_Layer: 0"] ++
    object.name.toList.map (.key .name) ++ others ["m_IsActive: 1"]

end GameObject

namespace Transform

def childLines : List FileId → List BodyLine
  | [] => others ["m_Children: []"]
  | targets => others ["m_Children:"] ++ targets.map .child

def body (transform : Transform) : List BodyLine :=
  others ["m_ObjectHideFlags: 0"] ++ transform.gameObject.lines .gameObject ++
    others ["m_LocalRotation: \x7bx: 0, y: 0, z: 0, w: 1\x7d",
      "m_LocalPosition: \x7bx: 0, y: 0, z: 0\x7d"] ++
    childLines transform.resolvedChildren ++ transform.father.lines .father ++
    others ["m_RootOrder: 0"]

end Transform

namespace Script

/-- The reference to the script asset. -/
def asset (fileId : FileId) (guid : Guid) : String :=
  "\x7bfileID: " ++ fileId.text ++ ", guid: " ++ guid.text ++ ", type: 3\x7d"

def assetLines : Reference FileId → Reference Guid → List BodyLine
  | .resolved fileId, .resolved guid => [.key .script (asset fileId guid)]
  | _, _ => []

def body (script : Script) : List BodyLine :=
  others ["m_ObjectHideFlags: 0"] ++ script.gameObject.lines .gameObject ++
    others ["m_Enabled: 1"] ++ assetLines script.scriptFileId script.guid ++ [.key .name ""] ++
    others ["m_EditorClassIdentifier: "]

end Script

namespace Record

def tag : Record → String
  | gameObject _ => Tag.gameObject
  | transform _ => Tag.transform
  | script _ => Tag.script

/-- The class that the second line of the record's block names. -/
def className : Record → String
  | gameObject _ => "GameObject"
  | transform _ => "Transform"
  | script _ => "MonoBehaviour"

def body : Record → List BodyLine
  | gameObject record => record.body
  | transform record => record.body
  | script record => record.body

def headerLine (record : Record) : String :=
  "--- !u!" ++ record.tag ++ " &" ++ record.fileId.text

/-- The lines behind the header line. -/
def behindHeader (record : Record) : List String :=
  (record.className ++ ":") :: record.body.map BodyLine.text

/-- The record's block. -/
def lines (record : Record) : List String :=
  record.headerLine :: record.behindHeader

example : (gameObject ⟨⟨"2"⟩, some "Door", [.resolved ⟨"20"⟩]⟩).lines =
    ["--- !u!1 &2", "GameObject:", "  m_ObjectHideFlags: 0", "  serializedVersion: 6",
      "  m_Component:", "  - component: \x7bfileID: 20\x7d", "  m_Layer: 0", "  m_Name: Door",
      "  m_IsActive: 1"] :=
  rfl

example : (transform ⟨⟨"20"⟩, .resolved ⟨"2"⟩, [.resolved ⟨"30"⟩], .resolved FileId.root⟩).lines =
    ["--- !u!4 &20", "Transform:", "  m_ObjectHideFlags: 0", "  m_GameObject: \x7bfileID: 2\x7d",
      "  m_LocalRotation: \x7bx: 0, y: 0, z: 0, w: 1\x7d",
      "  m_LocalPosition: \x7bx: 0, y: 0, z: 0\x7d", "  m_Children:", "  - \x7bfileID: 30\x7d",
      "  m_Father: \x7bfileID: 0\x7d", "  m_RootOrder: 0"] :=
  rfl

example : (script ⟨⟨"30"⟩, .resolved ⟨"11500000"⟩, .resolved ⟨"0fe9"⟩, .resolved ⟨"2"⟩⟩).lines =
    ["--- !u!114 &30", "MonoBehaviour:", "  m_ObjectHideFlags: 0",
      "  m_GameObject: \x7bfileID: 2\x7d", "  m_Enabled: 1",
      "  m_Script: \x7bfileID: 11500000, guid: 0fe9, type: 3\x7d", "  m_Name: ",
      "  m_EditorClassIdentifier: "] :=
  rfl

end Record

/-- What the editor writes in front of the first block. -/
def editorPreamble : List String :=
  ["%YAML 1.1", "%TAG !u! tag:unity3d.com,2011:"]

/-- The document with one block for each record, behind the lines of the preamble. -/
def document (preamble : List String) (records : List Record) : String :=
  endedLines (preamble ++ records.flatMap Record.lines)

/-! ## What can be written without loss -/

/-- The text can be the value of a key. -/
def IsValue (text : String) : Prop :=
  IsTrimmed text.toList ∧ '\n' ∉ text.toList

instance (text : String) : Decidable (IsValue text) :=
  inferInstanceAs (Decidable (_ ∧ _))

structure GameObject.IsPrintable (object : GameObject) : Prop where
  fileId : object.fileId.IsPlain
  name : ∀ name ∈ object.name, IsValue name
  components : ∀ component ∈ object.components, component.ResolvesTo FileId.IsPlain

structure Transform.IsPrintable (transform : Transform) : Prop where
  fileId : transform.fileId.IsPlain
  gameObject : transform.gameObject.ResolvesTo FileId.IsPlain
  children : ∀ child ∈ transform.children, child.ResolvesTo FileId.IsPlain
  father : transform.father.ResolvesTo FileId.IsPlain

structure Script.IsPrintable (script : Script) : Prop where
  fileId : script.fileId.IsPlain
  scriptFileId : script.scriptFileId.ResolvesTo FileId.IsPlain
  guid : script.guid.ResolvesTo Guid.IsPlain
  gameObject : script.gameObject.ResolvesTo FileId.IsPlain

/-- All references of the record resolve, its identifiers are plain, and its name has
neither outer blanks nor a line feed. -/
def Record.IsPrintable : Record → Prop
  | gameObject record => record.IsPrintable
  | transform record => record.IsPrintable
  | script record => record.IsPrintable

end SceneAudit
