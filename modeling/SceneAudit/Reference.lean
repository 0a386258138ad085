import SceneAudit.Text.Digit

/-!
# Identifiers and references

A scene document names its objects by file identifiers, which mean something inside that document only; scripts
are named across the project by guids.  Both are opaque texts.  File identifiers are compared as written, so `0` and
`00` differ; guids are kept in lower case and so do not depend on the case they were written in.

A reference is read from a value such as `{fileID: 12, guid: ab01, type: 3}`.  It either resolves to an identifier or
records why it does not.
-/

namespace SceneAudit

open Text

/-- An identifier of an object inside its scene document. -/
structure FileId where
  text : String
deriving DecidableEq, Hashable

namespace FileId

/-- File identifiers are ordered as texts. -/
instance : Ord FileId := ⟨compareOn FileId.text⟩

/-- The identifier that a transform without parent names as its father. -/
def root : FileId := ⟨"0"⟩

/-- Whether this is the identifier that stands for "no parent". -/
def isRoot (id : FileId) : Bool :=
  id == root

end FileId

/-- A project-wide identifier of a script. -/
structure Guid where
  text : String
deriving DecidableEq, Hashable

namespace Guid

/-- Guids are ordered as texts. -/
instance : Ord Guid := ⟨compareOn Guid.text⟩

/-- The guid written as `text`: ASCII letters lose their case, all else stays. -/
def ofText (text : String) : Guid :=
  ⟨String.ofList (text.toList.map Char.toLower)⟩

end Guid

/-- Why a reference did not resolve. -/
inductive Unresolved where
  /-- There was no value to read. -/
  | absent
  /-- The value, given without its outer blanks, has no identifier in it. -/
  | noPattern (text : String)
deriving DecidableEq

namespace Unresolved

def message : Unresolved → String
  | absent => "reference absent"
  | noPattern text => s!"no reference pattern in '{text}'"

end Unresolved

/-- A reference that was read from a document. -/
inductive Reference (α : Type) where
  | resolved (target : α)
  | unresolved (cause : Unresolved)
deriving DecidableEq

namespace Reference

variable {α : Type}

/-- What the reference resolves to. -/
def target? : Reference α → Option α
  | resolved target => some target
  | unresolved _ => none

end Reference

/-! ## Reading references -/

namespace Reference

/-- What follows `keyword` (in lower case) at the start of the text, which may write it in any case. -/
def afterKeyword? (keyword cs : List Char) : Option (List Char) :=
  match keyword, cs with
  | [], _ => some cs
  | _ :: _, [] => none
  | k :: keyword, c :: cs => if c.toLower = k then afterKeyword? keyword cs else none

/-- The token after `keyword` and any blanks, if all of this stands at the very start of the text. -/
def tokenHere? (keyword : List Char) (token? : List Char → Option (List Char)) (cs : List Char) :
    Option (List Char) :=
  (afterKeyword? keyword cs).bind fun rest => token? (trimStart rest)

/-- The token at the leftmost place of the text where keyword, blanks and token all match. -/
def leftmost? (keyword : List Char) (token? : List Char → Option (List Char)) : List Char → Option (List Char)
  | [] => tokenHere? keyword token? []
  | c :: cs =>
    match tokenHere? keyword token? (c :: cs) with
    | some token => some token
    | none => leftmost? keyword token? cs

/-- The longest signed decimal numeral at the start of the text. -/
def numeralToken? (cs : List Char) : Option (List Char) :=
  (numeral? cs).map Prod.fst

/-- An ASCII hexadecimal digit in either case. -/
def isHexDigit (c : Char) : Bool :=
  c.isDigit || ('a' ≤ c && c ≤ 'f') || ('A' ≤ c && c ≤ 'F')

/-- The longest run of hexadecimal digits at the start of the text, unless it is empty. -/
def hexToken? (cs : List Char) : Option (List Char) :=
  match cs.takeWhile isHexDigit with
  | [] => none
  | run => some run

/-- The reference that an optional value holds, where `find?` locates the identifier's text. -/
def read {α : Type} (find? : List Char → Option (List Char)) (make : String → α) : Option String → Reference α
  | none => unresolved .absent
  | some value =>
    match find? value.toList with
    | some token => resolved (make (String.ofList token))
    | none => unresolved (.noPattern (String.ofList (trim value.toList)))

/-- The file identifier after the leftmost `fileID:`, in any case, that a numeral follows. -/
def fileId : Option String → Reference FileId :=
  read (leftmost? "fileid:".toList numeralToken?) FileId.mk

/-- The guid after the leftmost `guid:`, in any case, that a hexadecimal digit follows. -/
def guid : Option String → Reference Guid :=
  read (leftmost? "guid:".toList hexToken?) Guid.ofText

end Reference

end SceneAudit
