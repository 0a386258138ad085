import SceneAudit.Block

/-!
# Records of a scene

A record is what the project keeps of one block: of a game object its name and components, of a transform its place
in the hierarchy, of a script component the script it runs.  References that did not resolve stay in the record; a
block that cannot become a record at all is rejected with a `RecordError`.
-/

namespace SceneAudit

structure GameObject where
  fileId : FileId
  /-- The name, if the block gives one. -/
  name : Option String
  components : List (Reference FileId)
deriving DecidableEq

structure Transform where
  fileId : FileId
  /-- The game object that the transform belongs to. -/
  gameObject : Reference FileId
  children : List (Reference FileId)
  /-- The parent transform, or `FileId.root` when there is none. -/
  father : Reference FileId
deriving DecidableEq

namespace Transform

/-- Whether the transform says that it has no parent. -/
def isRoot (transform : Transform) : Bool :=
  transform.father == .resolved FileId.root

/-- The children whose references resolve, in order and with repetitions. -/
def resolvedChildren (transform : Transform) : List FileId :=
  transform.children.filterMap Reference.target?

end Transform

structure Script where
  fileId : FileId
  /-- The file identifier in the reference to the script asset. -/
  scriptFileId : Reference FileId
  /-- The guid in the reference to the script asset. -/
  guid : Reference Guid
  /-- The game object that the component belongs to. -/
  gameObject : Reference FileId
deriving DecidableEq

inductive Record where
  | gameObject (record : GameObject)
  | transform (record : Transform)
  | script (record : Script)
deriving DecidableEq

namespace Record

/-- The file identifier in the header of the record's block. -/
def fileId : Record → FileId
  | gameObject record => record.fileId
  | transform record => record.fileId
  | script record => record.fileId

end Record

/-- The keys whose values a record takes over. -/
inductive ScalarKey where
  | name
  | father
  | gameObject
  | script
deriving DecidableEq

namespace ScalarKey

def all : List ScalarKey := [name, father, gameObject, script]

/-- The key as documents write it. -/
def text : ScalarKey → String
  | name => "m_Name"
  | father => "m_Father"
  | gameObject => "m_GameObject"
  | script => "m_Script"

/-- The key that documents write as `text`. -/
def ofText? (text : String) : Option ScalarKey :=
  all.find? fun key => key.text == text

theorem ofText?_text (key : ScalarKey) : ofText? key.text = some key := by
  cases key <;> decide

end ScalarKey

/-- Why a block was rejected. -/
inductive RecordError where
  /-- A key stands twice at the top level of the block. -/
  | duplicateKey (fileId : FileId) (key : ScalarKey) (firstLine secondLine : Nat)
  /-- The tag is none of those that are read as records. -/
  | unsupportedTag (fileId : FileId) (tag : String)
deriving DecidableEq

namespace RecordError

/-- The file identifier in the header of the rejected block. -/
def fileId : RecordError → FileId
  | duplicateKey fileId .. => fileId
  | unsupportedTag fileId _ => fileId

def message : RecordError → String
  | duplicateKey fileId key firstLine secondLine =>
    s!"block &{fileId.text}: duplicate key '{key.text}' at lines {firstLine} and {secondLine}"
  | unsupportedTag fileId tag => s!"block &{fileId.text}: unsupported tag '{tag}'"

end RecordError

end SceneAudit
