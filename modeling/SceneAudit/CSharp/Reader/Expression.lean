import SceneAudit.CSharp.Reader.TypeName

/-!
# Expressions and patterns

An expression is read from left to right in two phases: an operand is due, or an operand has been read and an operator
may follow.  Operators do not bind here, because only the brackets and the functions within an expression matter.  A
pattern is read by the same phases; it has operators of its own, and a name may follow a type in it.
-/

namespace SceneAudit.CSharp

/-- What the operand that is due, or that has just been read, belongs to. -/
inductive Mode where
  | value
  /-- The body of a function expression, which may be a block. -/
  | body
  /-- What follows `new`: a type, arguments, an initialiser. -/
  | creation
  /-- A pattern, or an argument that may declare a variable. -/
  | pattern
  /-- A pattern after its name. -/
  | named
deriving DecidableEq

/-- Where the reading of an expression stands. -/
structure Phrase where
  mode : Mode := .value
  /-- The number of conditional operators whose colon is still to come. -/
  conditionals : Nat := 0
  /-- Whether the expression is a query. -/
  query : Bool := false
  /-- Where a closing angle bracket ended that may be the first half of a shift operator. -/
  shift : Option Nat := none

namespace Phrase

/-- The phrase in another mode. -/
def inMode (phrase : Phrase) (mode : Mode) : Phrase :=
  { phrase with mode, shift := none }

/-- Whether an item goes on with a shift operator. -/
def shifts (phrase : Phrase) (item : Item) : Bool :=
  phrase.shift = some item.span.start && (item.isMark ">" || item.isMark ">=")

/-- The phrase after a part of a shift operator. -/
def shifting (phrase : Phrase) (item : Item) : Phrase :=
  { phrase with mode := .value, shift := some item.span.stop }

end Phrase

/-! ## Words and marks -/

/-- The operators before an operand. -/
def unaryMarks : List String := ["+", "-", "!", "~", "++", "--", "&", "*", "^"]

/-- The operators before a constant in a pattern. -/
def relationalMarks : List String := ["<", ">", "<=", ">="]

/-- The operators between two operands, with those that assign. -/
def binaryMarks : List String :=
  ["+", "-", "*", "/", "%", "&", "|", "^", "&&", "||", "??", "==", "!=", "<", "<=", ">=", "<<"] ++ assignments

/-- The operators after an operand. -/
def postfixMarks : List String := ["++", "--", "!"]

/-- The marks before the name of a member. -/
def memberMarks : List String := [".", "?.", "->", "::"]

/-- The words between two operands. -/
def binaryWords : List String := ["is", "as", "switch", "with", "and", "or", "when"]

/-- The words that start the clauses of a query or stand in them. -/
def queryWords : List String :=
  ["from", "in", "where", "let", "join", "on", "equals", "orderby", "select", "group", "by", "into"]

/-- The words that take a type in parentheses. -/
def typeOperators : List String := ["typeof", "sizeof", "default"]

/-- The words that are no operand without what follows them. -/
def unfinishedWords : List String :=
  ["new", "stackalloc", "delegate", "typeof", "sizeof", "checked", "unchecked", "throw", "ref", "out"]

/-- The words that say how an argument is passed. -/
def argumentWords : List String := ["ref", "out", "in", "scoped"]

/-- The words before the type of a parameter. -/
def parameterWords : List String := ["this", "ref", "out", "in", "params", "scoped", "readonly"]

/-- Whether an operand can only start with the item, so that what stands before it in parentheses is a cast. -/
def startsOperand (item : Item) : Bool :=
  match item.kind with
  | .token .number | .token .text => true
  | .token .word => !binaryWords.contains item.text
  | .token .mark => item.text = "~"
  | .group .round | .group .quoted => true
  | _ => false

/-- Whether the items after parentheses make these a cast. -/
def followsCast : List Item → Bool
  | item :: next :: _ => startsOperand item || (item.isMark "!" && startsOperand next)
  | [item] => startsOperand item
  | [] => false

/-- Whether an expression goes on after a question mark as it would after a type. -/
def endsNullable : List Item → Bool
  | [] => true
  | item :: _ =>
    match item.kind with
    | .token .mark => !(unaryMarks.contains item.text || item.text = "..")
    | _ => false

/-- Whether the question mark before the items gives access to an element, rather than starting a conditional. -/
def accessesElement (conditionals : Nat) (rest : List Item) : Bool :=
  rest.head?.any (·.isGroup .square) && rest.countP (·.isMark ":") ≤ conditionals

/-! ## Reading -/

/-- Reads what stands in parentheses where a pattern may: patterns, or else an expression. -/
def inParentheses (group : Item) : Reading :=
  (group.read .patterns).orElse fun _ => group.read .operands

mutual

/-- Reads an expression of which an operand is due.  The line is the one where the expression ends. -/
def operand (phrase : Phrase) (close : Nat) : List Item → Reading
  | [] => .error close
  | item :: rest =>
    match item.kind with
    | .token .number | .token .text => operator (phrase.inMode phrase.mode) close rest
    | .token .mark =>
      if item.isMark ".." then
        match rest with
        | [] => .nothing
        | next :: further => operand (phrase.inMode phrase.mode) close (next :: further)
      else if phrase.shifts item then operand (phrase.shifting item) close rest
      else if unaryMarks.contains item.text then operand (phrase.inMode phrase.mode) close rest
      else if phrase.mode = .pattern && relationalMarks.contains item.text then
        operand (phrase.inMode phrase.mode) close rest
      else .error item.line
    | .token .word =>
      match rest with
      | [] => if item.isOneOf unfinishedWords then .error close else operator phrase close []
      | next :: further =>
        if next.isMark "=>" && phrase.mode ≠ .pattern then
          operand (phrase.inMode .body) close further
        else if item.isWord "new" || item.isWord "stackalloc" then
          if next.isName then operator (phrase.inMode .creation) close further
          else if next.isGroup .curly || next.isGroup .square || next.isGroup .round then
            operator (phrase.inMode .creation) close (next :: further)
          else .error next.line
        else if item.isWord "delegate" then
          match further with
          | block :: after =>
            if next.isGroup .curly then
              (next.read .block).also (operator (phrase.inMode .value) close (block :: after))
            else if next.isGroup .round && block.isGroup .curly then
              ((next.read .parameters).also (block.read .block)).also (operator (phrase.inMode .value) close after)
            else .error next.line
          | [] => if next.isGroup .curly then next.read .block else .error next.line
        else if item.isOneOf typeOperators && next.isGroup .round then
          ((next.read .type).orElse fun _ => next.read .arguments).also (operator (phrase.inMode .value) close further)
        else if item.isWord "from" && next.isName && !next.isOneOf binaryWords then
          operand { phrase.inMode .value with query := true } close (next :: further)
        else if item.isOneOf argumentWords && (startsOperand next || next.isMark "*") then
          operand (phrase.inMode .pattern) close (next :: further)
        else if item.isWord "await" || item.isWord "throw" then
          if startsOperand next || unaryMarks.contains next.text then
            operand (phrase.inMode .value) close (next :: further)
          else operator (phrase.inMode .value) close (next :: further)
        else if item.isWord "async" || item.isWord "static" then
          if (next.isName && !next.isOneOf binaryWords)
              || (next.isGroup .round && further.head?.any (·.isMark "=>")) then
            operand (phrase.inMode .value) close (next :: further)
          else operator (phrase.inMode .value) close (next :: further)
        else if item.isWord "not" && phrase.mode = .pattern then
          operand (phrase.inMode .pattern) close (next :: further)
        else
          operator (phrase.inMode phrase.mode) close (next :: further)
    | .group .quoted => (item.read .holes).also (operator (phrase.inMode .value) close rest)
    | .group .round =>
      match rest with
      | [] => if phrase.mode = .pattern then inParentheses item else item.read .operands
      | next :: further =>
        if phrase.mode = .pattern then
          (inParentheses item).also (operator (phrase.inMode .pattern) close (next :: further))
        else if next.isMark "=>" then
          (item.read .parameters).also (operand (phrase.inMode .body) close further)
        else if (item.read .type).isOk && (followsCast (next :: further) || !(item.read .operands).isOk) then
          operand (phrase.inMode .value) close (next :: further)
        else
          (item.read .operands).also (operator (phrase.inMode .value) close (next :: further))
    | .group .square =>
      match rest with
      | [] => if phrase.mode = .pattern then item.read .patterns else item.read .elements
      | next :: further =>
        if phrase.mode = .pattern then
          (item.read .patterns).also (operator (phrase.inMode .pattern) close (next :: further))
        else if next.isName && !next.isOneOf binaryWords || next.isGroup .round then
          (item.read .attributes).also (operand (phrase.inMode .value) close (next :: further))
        else
          (item.read .elements).also (operator (phrase.inMode .value) close (next :: further))
    | .group .curly =>
      if phrase.mode = .pattern then (item.read .properties).also (operator (phrase.inMode .pattern) close rest)
      else if phrase.mode = .body then (item.read .block).also (operator (phrase.inMode .value) close rest)
      else .error item.line
    | _ => .error item.line

/-- Reads on in an expression after an operand. -/
def operator (phrase : Phrase) (close : Nat) : List Item → Reading
  | [] => if phrase.conditionals = 0 then .nothing else .error close
  | item :: rest =>
    match item.kind with
    | .token .mark =>
      if item.isMark "?" then
        if accessesElement phrase.conditionals rest
            || ((phrase.mode = .pattern || phrase.mode = .creation) && endsNullable rest) then
          operator phrase close rest
        else
          operand { phrase.inMode .value with conditionals := phrase.conditionals + 1 } close rest
      else if item.isMark ":" then
        if phrase.conditionals = 0 then .error item.line
        else operand { phrase.inMode .value with conditionals := phrase.conditionals - 1 } close rest
      else if memberMarks.contains item.text then
        match rest with
        | name :: further => if name.isName then operator phrase close further else .error name.line
        | [] => .error close
      else if item.isMark ".." then
        match rest with
        | [] => .nothing
        | next :: further => operand (phrase.inMode .value) close (next :: further)
      else if item.isMark ">" then operand (phrase.shifting item) close rest
      else if postfixMarks.contains item.text then operator phrase close rest
      else if item.isMark "*" && phrase.mode = .pattern && endsNullable rest then operator phrase close rest
      else if binaryMarks.contains item.text || (phrase.query && item.isMark ",") then
        operand (phrase.inMode .value) close rest
      else .error item.line
    | .token .word =>
      if item.isWord "is" || item.isWord "as" then operand (phrase.inMode .pattern) close rest
      else if item.isWord "when" then operand (phrase.inMode .value) close rest
      else if (item.isWord "and" || item.isWord "or") && (phrase.mode = .pattern || phrase.mode = .named) then
        operand (phrase.inMode .pattern) close rest
      else if item.isWord "switch" || item.isWord "with" then
        match rest with
        | braces :: further =>
          if braces.isGroup .curly then
            (braces.read (if item.isWord "switch" then .arms else .initializer)).also
              (operator (phrase.inMode .value) close further)
          else .error braces.line
        | [] => .error close
      else if phrase.query && (item.isWord "ascending" || item.isWord "descending") then
        operator (phrase.inMode .value) close rest
      else if phrase.query && item.isOneOf queryWords then operand (phrase.inMode .value) close rest
      else if phrase.mode = .pattern || phrase.query then operator (phrase.inMode .named) close rest
      else .error item.line
    | .group .round =>
      (if phrase.mode = .pattern then (item.read .patterns).orElse fun _ => item.read .arguments
        else item.read .arguments).also (operator phrase close rest)
    | .group .square =>
      (if phrase.mode = .pattern || phrase.mode = .creation then (item.read .operands).orElse fun _ => item.read .rank
        else item.read .operands).also (operator phrase close rest)
    | .group .angle => operator phrase close rest
    | .group .curly =>
      if phrase.mode = .creation then (item.read .initializer).also (operator (phrase.inMode .value) close rest)
      else if phrase.mode = .pattern then (item.read .properties).also (operator phrase close rest)
      else .error item.line
    | _ => .error item.line

end

/-- Reads an expression that ends on the given line. -/
def expression (close : Nat) (items : List Item) : Reading :=
  operand {} close (spliced items)

/-- Reads a pattern. -/
def pattern (close : Nat) (items : List Item) : Reading :=
  operand ⟨.pattern, 0, false, none⟩ close (spliced items)

/-! ## Parts of expressions -/

/-- Reads an initial value, which for an array may be a list in braces. -/
def initialValue (close : Nat) (items : List Item) : Reading :=
  match items with
  | [braces] => if braces.isGroup .curly then braces.read .initializer else expression close items
  | _ => expression close items

/-- Reads an argument: a name and a colon may stand before it, and it may declare a variable. -/
def argument (close : Nat) (items : List Item) : Reading :=
  let value := withoutLabel items
  (expression close value).orElse fun _ => if isTypeAndName value then .nothing else .error close

/-- Reads an element of an initialiser. -/
def initializerElement (close : Nat) (items : List Item) : Reading :=
  match cutAt (·.isMark "=") items with
  | (target, some value) => (expression close target).also (initialValue close value)
  | (value, none) => initialValue close value

/-- Reads one arm of a switch expression. -/
def arm (close : Nat) (items : List Item) : Reading :=
  match cutAt (·.isMark "=>") items with
  | (guarded, some value) => (pattern close guarded).also (expression close value)
  | (_, none) => .error close

/-- Reads an element of a positional, list or property pattern; the name of a property may stand before it. -/
def subpattern (close : Nat) (items : List Item) : Reading :=
  match cutAt (·.isMark ":") items with
  | (name, some value) => if isQualifiedName name then pattern close value else .error close
  | (value, none) => pattern close value

/-- Reads a parameter: attributes, words on how it is passed, perhaps a type, a name and perhaps a default value. -/
def parameter (close : Nat) (items : List Item) : Reading :=
  let attributes := items.takeWhile (·.isGroup .square)
  let (declared, value) := cutAt (·.isMark "=") (items.dropWhile (·.isGroup .square))
  let typed := declared.dropWhile fun item => item.isOneOf parameterWords
  let named :=
    match afterType? typed with
    | some [] => true
    | some [name] => name.isName
    | _ => false
  (Reading.all (attributes.map (·.read .attributes))).also
    (if named then
      match value with
      | some value => expression close value
      | none => .nothing
    else .error close)

end SceneAudit.CSharp
