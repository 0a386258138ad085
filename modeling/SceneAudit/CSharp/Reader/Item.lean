import SceneAudit.CSharp.Reader.Outline
import SceneAudit.CSharp.Reader.Tree

/-!
# Items

What a group of brackets holds depends on where it stands: the same braces may hold the members of a type, a block of
statements or an initialiser.  The grammar of a group is therefore chosen by the grammar around it.  An item is a tree
that can be asked for its contents in each of these roles.
-/

namespace SceneAudit.CSharp

/-- What a group may have to be. -/
inductive Role where
  /-- A whole source. -/
  | unit
  /-- The body of a type or namespace. -/
  | members
  | enumMembers
  | accessors
  | block
  /-- The body of a switch statement. -/
  | sections
  /-- The body of a switch expression. -/
  | arms
  /-- The elements of an object, a collection or an array. -/
  | initializer
  /-- The braces of a property pattern. -/
  | properties
  /-- The brackets of a positional or list pattern. -/
  | patterns
  /-- Arguments, of which there may be none. -/
  | arguments
  /-- An expression in parentheses, a tuple or the place of an element: one argument at least. -/
  | operands
  /-- The elements of a collection in brackets. -/
  | elements
  | parameters
  /-- A type in parentheses, as in a cast. -/
  | type
  /-- The brackets of an array type, with nothing but commas. -/
  | rank
  | attributes
  /-- The header of a `for` loop. -/
  | loopHeader
  /-- The header of a `foreach` loop. -/
  | eachHeader
  /-- The header of a `using` or `fixed` statement. -/
  | resources
  /-- The header of a `catch` clause. -/
  | caught
  /-- The holes of an interpolated string. -/
  | holes
  | hole
  /-- The parentheses around the names of a deconstruction. -/
  | designations
deriving DecidableEq

/-- What is found in a group, each in the order of the source. -/
structure Content where
  /-- The members, if the group is the body of a scope. -/
  outlines : List Outline := []
  /-- The names of the attributes, if the group is a list of attributes. -/
  attributes : List Span := []
  /-- The names of local variables. -/
  locals : List Span := []

namespace Content

instance : EmptyCollection Content := ⟨{}⟩

instance : Append Content where
  append a b := ⟨a.outlines ++ b.outlines, a.attributes ++ b.attributes, a.locals ++ b.locals⟩

end Content

/-- The contents that a grammar rule finds, or the line where the rule is broken. -/
abbrev Reading := Except Nat Content

namespace Reading

/-- Nothing is found. -/
def nothing : Reading := .ok ∅

/-- Both readings, in order. -/
def also (first : Reading) (second : Reading) : Reading := do
  return (← first) ++ (← second)

/-- The first reading that breaks no rule; if both do, the line of the one that gets farther. -/
def orElse (first : Reading) (second : Unit → Reading) : Reading :=
  match first with
  | .ok content => .ok content
  | .error line => (second ()).mapError (max line)

/-- All the readings, in order. -/
def all (readings : List Reading) : Reading :=
  readings.foldr also nothing

end Reading

inductive ItemKind where
  | token (kind : TokenKind)
  | group (bracket : Bracket)
deriving DecidableEq

structure Item where
  kind : ItemKind
  /-- The text of a token; empty for a group. -/
  text : String
  /-- The line that the item starts on. -/
  line : Nat
  span : Span
  /-- The contents of a group in a role. -/
  read : Role → Reading
  /-- What stands in place of the item where it is no part of its own: for a condition its first branch, else the item
  itself, for which the list is empty. -/
  branch : List Item

namespace Item

/-- Whether the item is the given mark. -/
def isMark (item : Item) (text : String) : Bool :=
  item.kind = .token .mark && item.text = text

/-- Whether the item is a word. -/
def isName (item : Item) : Bool :=
  item.kind = .token .word

/-- Whether the item is the given word. -/
def isWord (item : Item) (text : String) : Bool :=
  item.isName && item.text = text

/-- Whether the item is one of the given words. -/
def isOneOf (item : Item) (words : List String) : Bool :=
  item.isName && words.contains item.text

/-- Whether the item is a group in the given brackets. -/
def isGroup (item : Item) (bracket : Bracket) : Bool :=
  item.kind = .group bracket

end Item

end SceneAudit.CSharp
