import SceneAudit.CSharp.Reader.Sequence

/-!
# Types

A type is a dotted name with type arguments, or a tuple, and may be followed by marks that make it nullable, a pointer
or an array.  It is read as far as it goes; what is left belongs to whatever uses the type.
-/

namespace SceneAudit.CSharp

/-- Whether an item is the bracket of an array type. -/
def isRank (item : Item) : Bool :=
  item.isGroup .square && (item.read .rank).isOk

/-- What is left after the further parts of a name: dotted names and type arguments. -/
def afterName : List Item → List Item
  | [] => []
  | item :: rest =>
    if item.isGroup .angle then
      afterName rest
    else if item.isMark "." || item.isMark "::" then
      match rest with
      | name :: further => if name.isName then afterName further else item :: rest
      | [] => [item]
    else
      item :: rest

/-- What is left after the marks that make a type nullable, a pointer or an array. -/
def afterTypeMarks (items : List Item) : List Item :=
  items.dropWhile fun item => item.isMark "?" || item.isMark "*" || isRank item

/-- The words before a type that say how a value is passed. -/
def passingWords : List String := ["ref", "readonly", "scoped"]

/-- The words that start an expression or statement and never a type. -/
def neverTypes : List String :=
  ["await", "return", "throw", "new", "yield", "goto", "case", "delegate", "else", "is", "as"]

/-- The words for the types that the language has names of its own for. -/
def builtInTypes : List String :=
  ["bool", "byte", "char", "decimal", "double", "float", "int", "long", "nint", "nuint", "object", "sbyte", "short",
    "string", "uint", "ulong", "ushort", "void"]

/-- What is left after the type that the items start with, if they start with one. -/
def afterType? (items : List Item) : Option (List Item) :=
  match items.dropWhile (·.isOneOf passingWords) with
  | item :: rest =>
    if item.isName && !item.isOneOf neverTypes then some (afterTypeMarks (afterName rest))
    else if item.isGroup .round && (item.read .parameters).isOk then some (afterTypeMarks rest)
    else if item.isWord "delegate" && rest.head?.any (·.isMark "*") then
      some (afterTypeMarks (afterName (rest.tail.dropWhile fun word => word.isName || word.isGroup .square)))
    else none
  | [] => none

/-- Whether the items are a type. -/
def isType (items : List Item) : Bool :=
  match afterType? items with
  | some [] => true
  | _ => false

/-- Whether the items are a type and a name. -/
def isTypeAndName (items : List Item) : Bool :=
  match afterType? items with
  | some [name] => name.isName
  | _ => false

/-- Whether the items are a dotted name, with type arguments or without. -/
def isQualifiedName (items : List Item) : Bool :=
  match items with
  | name :: rest => name.isName && (afterName rest).isEmpty
  | [] => false

end SceneAudit.CSharp
