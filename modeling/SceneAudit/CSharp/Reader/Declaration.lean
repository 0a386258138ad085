import SceneAudit.CSharp.Reader.Statement

/-!
# Declarations

The body of a type or namespace is a sequence of declarations, each behind its attributes and modifiers.  Fields and
scopes are what a declaration adds to the outline; a method, property or event adds nothing.
-/

namespace SceneAudit.CSharp

/-- The words that may stand before a declaration. -/
def modifierWords : List String :=
  ["abstract", "async", "const", "extern", "file", "fixed", "internal", "new", "override", "partial", "private",
    "protected", "public", "readonly", "required", "sealed", "static", "unsafe", "virtual", "volatile"]

/-- A declaration without its attributes and modifiers, and what these are. -/
structure Declared where
  modifiers : List Item
  attributes : List Span
  /-- Where the names of the variables stand that functions within the attributes declare. -/
  hidden : List Span
  items : List Item
  ending : Item

namespace Declared

/-- Takes the attributes and modifiers off a clause. -/
def ofClause (clause : Clause) : Except Nat Declared := do
  let items := spliced clause.items
  let content ← Reading.all ((items.takeWhile (·.isGroup .square)).map (·.read .attributes))
  let rest := items.dropWhile (·.isGroup .square)
  return {
    modifiers := rest.takeWhile (·.isOneOf modifierWords)
    attributes := content.attributes
    hidden := content.locals
    items := rest.dropWhile (·.isOneOf modifierWords)
    ending := clause.ending
  }

/-- The line where the declaration ends. -/
def close (declared : Declared) : Nat :=
  declared.ending.line

/-- The rule is broken where the declaration starts. -/
def fail (declared : Declared) : Reading :=
  .error ((declared.items.head?.map Item.line).getD declared.close)

/-! ## Types and namespaces -/

/-- The kind of scope that the body of a type is. -/
def scopeOf (keyword : Item) : Scope :=
  if keyword.isWord "class" then .classBody else .other

/-- Reads the body of a scope. -/
def body (declared : Declared) (scope : Scope) : Reading := do
  let content ← declared.ending.read .members
  return { outlines := [.scope scope content.outlines] }

/-- Reads what stands between the name of a type and its body: type parameters, parameters, bases and constraints. -/
def heritage (close : Nat) (items : List Item) : Reading :=
  let afterAngle := items.dropWhile (·.isGroup .angle)
  let parameters := afterAngle.takeWhile (·.isGroup .round)
  let rest := afterAngle.dropWhile (·.isGroup .round)
  (Reading.all (parameters.map (·.read .parameters))).also (constrained (optionally (bases close)) close rest)

/-- Reads a class, struct, interface or record from its keyword on. -/
def typeDeclaration (declared : Declared) (keyword : Item) (items : List Item) : Reading :=
  match items with
  | name :: rest =>
    if name.isName then
      (heritage declared.close rest).also
        (if declared.ending.isGroup .curly then declared.body (scopeOf keyword)
          else .ok { outlines := [.scope (scopeOf keyword) []] })
    else .error name.line
  | [] => .error declared.close

/-- Reads an enumeration after its keyword. -/
def enumeration (declared : Declared) (items : List Item) : Reading :=
  match items with
  | name :: rest =>
    if name.isName && declared.ending.isGroup .curly then
      (optionally (bases declared.close) rest).also (declared.ending.read .enumMembers)
    else .error name.line
  | [] => .error declared.close

/-- Reads a namespace after its keyword; with a semicolon it reaches to the end of the source. -/
def namespaceDeclaration (declared : Declared) (items : List Item) : Reading :=
  if isQualifiedName items then
    if declared.ending.isGroup .curly then declared.body .other else .nothing
  else declared.fail

/-- Reads a directive that makes names known, after its keyword. -/
def usingDirective (declared : Declared) (items : List Item) : Reading :=
  let items := items.dropWhile (·.isOneOf ["static", "unsafe"])
  let used :=
    match items with
    | name :: equals :: rest => if name.isName && equals.isMark "=" then rest else items
    | _ => items
  if isType used && declared.ending.isMark ";" then .nothing else declared.fail

/-! ## Members without a variable -/

/-- Reads accessors in braces. -/
def property (declared : Declared) : Reading :=
  if declared.ending.isGroup .curly then declared.ending.read .accessors else .error declared.close

/-- Reads what comes after the name of a property or the parameters of an indexer. -/
def propertyRest (declared : Declared) (items : List Item) : Reading :=
  match items with
  | [] => declared.property
  | first :: rest =>
    if declared.ending.isMark ";" then
      if first.isMark "=>" then expression declared.close rest
      else if first.isGroup .curly then
        match rest with
        | equals :: value =>
          if equals.isMark "=" then (first.read .accessors).also (initialValue declared.close value)
          else .error equals.line
        | [] => .error declared.close
      else .error first.line
    else .error first.line

/-- Reads a delegate after its keyword. -/
def delegateDeclaration (declared : Declared) (items : List Item) : Reading :=
  match afterType? items with
  | some (name :: rest) =>
    if name.isName && declared.ending.isMark ";" then functionRest declared.ending rest else .error name.line
  | _ => declared.fail

/-- Reads an event after its keyword. -/
def eventDeclaration (declared : Declared) (items : List Item) : Reading :=
  match afterType? items with
  | some rest =>
    if declared.ending.isMark ";" then declarators declared.close rest
    else if isQualifiedName rest then declared.property
    else declared.fail
  | none => declared.fail

/-- Reads an operator from its parameters on. -/
def operatorDeclaration (declared : Declared) (items : List Item) : Reading :=
  functionRest declared.ending (items.dropWhile fun item => item.isName || item.kind = .token .mark)

/-- Reads a conversion after the word that says whether it may happen unasked. -/
def conversion (declared : Declared) (items : List Item) : Reading :=
  match items with
  | word :: rest =>
    match word.isWord "operator", afterType? (rest.dropWhile (·.isWord "checked")) with
    | true, some parameters => functionRest declared.ending parameters
    | _, _ => .error word.line
  | [] => .error declared.close

/-- Reads a constructor from its parameters on: it may call another one first. -/
def constructor (declared : Declared) (items : List Item) : Reading :=
  match items with
  | parameters :: rest =>
    (parameters.read .parameters).also (functionBody (optionally (bases declared.close)) declared.ending rest)
  | [] => .error declared.close

/-! ## Fields and members with a name -/

/-- Reads the declarators of a field. -/
def field (declared : Declared) (items : List Item) : Reading := do
  let content ← declarators declared.close items
  return { outlines := [.field ⟨declared.modifiers.map Item.span, declared.attributes, declared.hidden ++ content.locals⟩] }

/-- Whether an item may name a field; two words stand after a type only in other members. -/
def isFieldName (item : Item) : Bool :=
  item.isName && !item.isOneOf ["this", "operator"]

/-- Whether the items after a type are the declarators of a field. -/
def areDeclarators (declared : Declared) (items : List Item) : Bool :=
  declared.ending.isMark ";" &&
    match items with
    | name :: next :: _ => isFieldName name && (next.isMark "=" || next.isMark "," || next.isGroup .square)
    | [name] => isFieldName name
    | [] => false

/-- Reads a member after its type. -/
def typedMember (declared : Declared) (items : List Item) : Reading :=
  match items with
  | name :: rest =>
    if declared.areDeclarators items then declared.field items
    else if name.isWord "operator" then declared.operatorDeclaration rest
    else if name.isName then
      match afterName rest with
      | next :: further =>
        if next.isGroup .round then functionRest declared.ending (next :: further)
        else if next.isGroup .square then (next.read .parameters).also (declared.propertyRest further)
        else declared.propertyRest (next :: further)
      | [] => declared.propertyRest []
    else .error name.line
  | [] => .error declared.close

/-- Reads a member that starts with its type, or a constructor. -/
def member (declared : Declared) (items : List Item) : Reading :=
  match items with
  | name :: next :: rest =>
    if name.isName && next.isGroup .round && !name.isOneOf ("ref" :: builtInTypes) then declared.constructor (next :: rest)
    else
      match afterType? items with
      | some rest => declared.typedMember rest
      | none => declared.fail
  | _ => declared.fail

/-! ## Any declaration -/

/-- Reads a declaration. -/
def read (declared : Declared) : Reading :=
  match declared.items with
  | first :: next :: rest =>
    if first.isOneOf ["class", "struct", "interface"] then declared.typeDeclaration first (next :: rest)
    else if first.isWord "ref" && next.isWord "struct" then declared.typeDeclaration next rest
    else if first.isWord "record" && next.isName then
      declared.typeDeclaration first (if next.isOneOf ["class", "struct"] then rest else next :: rest)
    else if first.isWord "enum" then declared.enumeration (next :: rest)
    else if first.isWord "namespace" then declared.namespaceDeclaration (next :: rest)
    else if first.isWord "using" then declared.usingDirective (next :: rest)
    else if first.isWord "global" && next.isWord "using" then declared.usingDirective rest
    else if first.isWord "alias" && declared.modifiers.map Item.text = ["extern"] then
      if next.isName && rest.isEmpty && declared.ending.isMark ";" then .nothing else .error next.line
    else if first.isWord "delegate" && !next.isMark "*" then declared.delegateDeclaration (next :: rest)
    else if first.isWord "event" then declared.eventDeclaration (next :: rest)
    else if first.isOneOf ["implicit", "explicit"] then declared.conversion (next :: rest)
    else if first.isMark "~" then
      if next.isName then functionRest declared.ending rest else .error next.line
    else declared.member (first :: next :: rest)
  | _ => declared.fail

/-- Whether a semicolon may follow the declaration, being the declaration of a type or namespace in braces. -/
def mayBeClosed (declared : Declared) : Bool :=
  declared.ending.isGroup .curly
    && declared.items.head?.any (·.isOneOf ["class", "struct", "interface", "record", "enum", "namespace", "ref"])

end Declared

/-! ## Bodies -/

/-- Reads one clause of a body. -/
def memberClause (clause : Clause) : Reading :=
  if clause.ending.isGroup .conditional then clause.ending.read .members
  else do (← Declared.ofClause clause).read

/-- Whether a semicolon may follow a clause. -/
def mayBeClosed (clause : Clause) : Bool :=
  match Declared.ofClause clause with
  | .ok declared => declared.mayBeClosed
  | .error _ => false

/-- The clauses without the semicolons that may follow some of them. -/
def withoutClosers : Option Clause → List Clause → List Clause
  | _, [] => []
  | previous, clause :: rest =>
    if clause.items.isEmpty && clause.ending.isMark ";" && previous.any mayBeClosed then
      withoutClosers none rest
    else
      clause :: withoutClosers (some clause) rest

/-- Whether the items are nothing but attributes. -/
def areAttributes (items : List Item) : Bool :=
  items.all (·.isGroup .square)

/-- Reads the body of a type or namespace. -/
def members (items : List Item) : Reading := do
  let clauses ← ClauseRule.members.clauses items
  Reading.all ((withoutClosers none clauses).map memberClause)

/-- Reads a part of a body under a condition: its fields are not the scope's own.  It may hold only the attributes of
what follows. -/
def conditionalMembers (items : List Item) : Reading :=
  if areAttributes items then
    .nothing
  else do
    let content ← members items
    return { outlines := [.scope .other content.outlines] }

/-- Reads one member of an enumeration. -/
def enumMember (close : Nat) (items : List Item) : Reading :=
  let (declared, value) := cutAt (·.isMark "=") (items.dropWhile (·.isGroup .square))
  match declared with
  | [name] =>
    if name.isName then
      (Reading.all ((items.takeWhile (·.isGroup .square)).map (·.read .attributes))).also
        (match value with
        | some value => expression close value
        | none => .nothing)
    else .error name.line
  | _ => .error close

/-- Reads one accessor. -/
def accessor (clause : Clause) : Reading := do
  let declared ← Declared.ofClause clause
  match declared.items with
  | name :: rest => if name.isName then functionBody atEnd declared.ending rest else .error name.line
  | [] => .error declared.close

/-- Reads the accessors of a property or event. -/
def accessors (items : List Item) : Reading := do
  let clauses ← ClauseRule.members.clauses items
  Reading.all (clauses.map accessor)

/-! ## Sources -/

/-- Whether the items are attributes of the whole program. -/
def areGlobalAttributes (items : List Item) : Bool :=
  items.all fun item => item.isGroup .square && (item.read .attributes).isOk

/-- The words that start the declarations which may stand outside of types. -/
def outerWords : List String :=
  ["class", "struct", "interface", "record", "enum", "ref", "delegate", "namespace", "using", "global", "alias"]

/-- Whether a clause starts as a declaration that may stand outside of types. -/
def isOuterDeclaration (clause : Clause) : Bool :=
  match Declared.ofClause clause with
  | .ok declared => declared.items.head?.any (·.isOneOf outerWords)
  | .error _ => false

/-- Reads one clause of a source: a type, a namespace, a directive or a statement. -/
def unitClause (clause : Clause) : Reading :=
  if clause.ending.isGroup .conditional then clause.ending.read .unit
  else if isOuterDeclaration clause then (memberClause clause).orElse fun _ => blockClause clause
  else blockClause clause

/-- Reads a whole source.  Attributes of the whole program may stand at its end. -/
def unit (items : List Item) : Reading := do
  let reversed := items.reverse
  let trailing := (reversed.takeWhile (·.isGroup .square)).reverse
  let clauses ← ClauseRule.members.clauses (reversed.dropWhile (·.isGroup .square)).reverse
  let content ← Reading.all ((withoutClosers none clauses).map unitClause)
  if areGlobalAttributes trailing then return content
  else .error ((trailing.head?.map Item.line).getD 1)

end SceneAudit.CSharp
