import SceneAudit.CSharp.Reader.Expression

/-!
# Statements

A clause of a block is a statement, perhaps behind the headers of the statements that it is nested in.  The names that
a statement finds are those of the local variables it declares, in its blocks as well.
-/

namespace SceneAudit.CSharp

/-! ## Variables -/

/-- The words that are a value and no name. -/
def valueWords : List String := ["this", "base", "null", "true", "false", "default"]

/-- The name that a value is, if it is nothing but a name. -/
def nameOfValue (value : List Item) : List Span :=
  match value with
  | [name] => if name.isName && !name.isOneOf valueWords then [name.span] else []
  | _ => []

/-- Reads one declarator: the name of a variable, perhaps with sizes in brackets, and perhaps its initial value.  A list
of names in parentheses takes a value apart; such a declarator goes by the name of the value, if that has one. -/
def declarator (close : Nat) (items : List Item) : Reading :=
  let (declared, value) := cutAt (·.isMark "=") items
  let initial :=
    match value with
    | some value => initialValue close value
    | none => .nothing
  match declared, value with
  | [name], none => if name.isName then .ok { locals := [name.span] } else .error name.line
  | [name], some source =>
    if name.isName then Reading.also (.ok { locals := [name.span] }) initial
    else if name.isGroup .round then do
      let _ ← name.read .designations
      Reading.also (.ok { locals := nameOfValue source }) initial
    else .error name.line
  | [name, sizes], _ =>
    if name.isName && sizes.isGroup .square then
      Reading.also (.ok { locals := [name.span] }) ((sizes.read .operands).also initial)
    else .error name.line
  | first :: _, _ => .error first.line
  | [], _ => .error close

/-- Reads declarators between commas. -/
def declarators (close : Nat) (items : List Item) : Reading :=
  readEach (declarator close) (splitAtCommas .outside items)

/-- The words that may stand before a declaration within a block. -/
def localModifiers : List String :=
  ["abstract", "async", "const", "extern", "internal", "override", "partial", "private", "protected", "public",
    "readonly", "ref", "scoped", "sealed", "static", "unsafe", "virtual", "volatile"]

/-- Reads a declaration of local variables without its semicolon. -/
def localVariables (close : Nat) (items : List Item) : Reading :=
  let typed := (spliced items).dropWhile (·.isOneOf localModifiers)
  match typed, afterType? typed with
  | first :: _, some (next :: rest) =>
    if next.isGroup .round && !first.isWord "var" then .error next.line
    else declarators close (next :: rest)
  | first :: _, _ => .error first.line
  | [], _ => .error close

/-! ## Functions -/

/-- Reads one constraint on a type parameter, or one base of a type: a type, perhaps with arguments. -/
def base (close : Nat) (items : List Item) : Reading :=
  match afterType? items with
  | some [] => .nothing
  | some [arguments] => if arguments.isGroup .round then arguments.read .arguments else .error arguments.line
  | _ => if items.length = 2 && items.any (·.isWord "new") then .nothing else .error close

/-- Reads the list of bases or constraints after a colon. -/
def bases (close : Nat) (items : List Item) : Reading :=
  match items with
  | colon :: rest =>
    if colon.isMark ":" then readEach (base close) (splitAtCommas .outside rest) else .error colon.line
  | [] => .error close

/-- Reads what comes after the first `where` of each constraint: a type parameter and what is asked of it. -/
def constraint (close : Nat) (items : List Item) : Reading :=
  match items with
  | name :: rest => if name.isName then bases close rest else .error name.line
  | [] => .error close

/-- Reads the constraints, each after the word `where`, and gives what stands before the first one to a rule. -/
def constrained (rule : List Item → Reading) (close : Nat) (items : List Item) : Reading :=
  match splitAt (·.isWord "where") items with
  | first :: constraints => (rule first).also (readEach (constraint close) constraints)
  | [] => rule []

/-- Nothing may be left. -/
def atEnd (items : List Item) : Reading :=
  match items with
  | [] => .nothing
  | item :: _ => .error item.line

/-- Reads the end of a function after its header: a block, an expression after an arrow, or only a semicolon.  A rule
is given for what may stand before the arrow. -/
def functionBody (rule : List Item → Reading) (ending : Item) (items : List Item) : Reading :=
  match cutAt (·.isMark "=>") items with
  | (header, some value) =>
    (rule header).also (if ending.isMark ";" then expression ending.line value else .error ending.line)
  | (header, none) =>
    (rule header).also (if ending.isGroup .curly then ending.read .block else .nothing)

/-- Reads a function from its parameters on, which may have type parameters before them and constraints after them. -/
def functionRest (ending : Item) (items : List Item) : Reading :=
  match items.dropWhile (·.isGroup .angle) with
  | parameters :: rest =>
    if parameters.isGroup .round then
      (parameters.read .parameters).also (functionBody (constrained atEnd ending.line) ending rest)
    else .error parameters.line
  | [] => .error ending.line

/-- Reads a function within a function. -/
def localFunction (ending : Item) (items : List Item) : Reading :=
  match afterType? (items.dropWhile (·.isOneOf localModifiers)) with
  | some (name :: rest) => if name.isName then functionRest ending rest else .error name.line
  | _ => .error ending.line

/-! ## Headers -/

/-- The role of the parentheses behind a word that starts a statement around another one. -/
def headerRole? (item : Item) : Option Role :=
  if item.isOneOf ["if", "while", "lock", "when"] then some .operands
  else if item.isWord "for" then some .loopHeader
  else if item.isWord "foreach" then some .eachHeader
  else if item.isOneOf ["using", "fixed"] then some .resources
  else if item.isWord "catch" then some .caught
  else none

/-- The words that start a statement around another one and have no parentheses. -/
def bareHeaders : List String := ["else", "do"]

/-- The words that stand before a block. -/
def blockHeaders : List String := ["try", "finally", "catch", "checked", "unchecked", "unsafe"]

/-- The words that are a statement of their own. -/
def loneWords : List String := ["break", "continue", "return", "throw"]

/-! ## Statements -/

/-- The words that start no declaration of a variable and no expression. -/
def reservedWords : List String :=
  ["if", "while", "for", "foreach", "lock", "fixed", "switch", "try", "using", "namespace", "class", "struct",
    "interface", "enum"]

/-- Reads a statement that declares something or is an expression. -/
def plainStatement (ending : Item) (items : List Item) : Reading :=
  if items.head?.any (·.isOneOf reservedWords) then .error ending.line
  else if ending.isMark ";" then
    ((localVariables ending.line items).orElse fun _ => localFunction ending items).orElse fun _ =>
      expression ending.line items
  else if ending.isGroup .curly then localFunction ending items
  else .error ending.line

/-- Reads the statement that a clause with the given end is. -/
def statement (ending : Item) : List Item → Reading
  | [] =>
    if ending.isGroup .curly then ending.read .block
    else if ending.isMark ";" then .nothing
    else .error ending.line
  | item :: rest =>
    if ending.isMark ":" then
      if item.isWord "case" then pattern ending.line rest
      else if item.isName then atEnd rest
      else .error item.line
    else if item.isGroup .square then
      ((item.read .attributes).also (statement ending rest)).orElse fun _ =>
        plainStatement ending (item :: rest)
    else if item.isWord "await" && rest.head?.any (·.isOneOf ["foreach", "using"]) then
      statement ending rest
    else if item.isOneOf bareHeaders then
      statement ending rest
    else if item.isOneOf loneWords && rest.isEmpty then
      if ending.isMark ";" then .nothing else .error ending.line
    else if item.isOneOf blockHeaders && rest.isEmpty then
      if ending.isGroup .curly then ending.read .block else .error ending.line
    else if item.isWord "return" then
      if ending.isMark ";" then expression ending.line rest else .error ending.line
    else if item.isWord "yield" && rest.head?.any (·.isOneOf ["return", "break"]) then
      statement ending rest
    else if item.isWord "goto" then
      if ending.isMark ";" then
        (if rest.head?.any (·.isWord "case") then expression ending.line rest.tail else expression ending.line rest)
      else .error ending.line
    else
      match rest with
      | header :: inner =>
        if header.isGroup .round then
          match headerRole? item with
          | some role => (header.read role).also (statement ending inner)
          | none =>
            if item.isWord "switch" && inner.isEmpty && ending.isGroup .curly then
              (header.read .operands).also (ending.read .sections)
            else plainStatement ending (item :: header :: inner)
        else if item.isWord "using" then localVariables ending.line (header :: inner)
        else plainStatement ending (item :: header :: inner)
      | [] => plainStatement ending [item]

/-- Reads a clause of a block. -/
def blockClause (clause : Clause) : Reading :=
  if clause.ending.isGroup .conditional then clause.ending.read .block
  else statement clause.ending (spliced clause.items)

/-- Reads the clauses of a block. -/
def block (items : List Item) : Reading := do
  let clauses ← ClauseRule.statements.clauses items
  Reading.all (clauses.map blockClause)

/-! ## The parentheses of statements -/

/-- Reads a declaration of variables or a list of expressions. -/
def resources (close : Nat) (items : List Item) : Reading :=
  (localVariables close items).orElse fun _ => readEach (expression close) (splitAtCommas .outside (spliced items))

/-- Reads what may be missing. -/
def optionally (rule : List Item → Reading) (items : List Item) : Reading :=
  if items.isEmpty then .nothing else rule items

/-- Reads the header of a `for` loop: its start, its condition and its steps. -/
def loopHeader (close : Nat) (items : List Item) : Reading :=
  match splitAt (·.isMark ";") items with
  | [start, condition, steps] =>
    ((optionally (resources close) start).also (optionally (expression close) condition)).also
      (optionally (fun items => readEach (expression close) (splitAtCommas .outside (spliced items))) steps)
  | _ => .error close

/-- Reads the header of a `foreach` loop. -/
def eachHeader (close : Nat) (items : List Item) : Reading :=
  match cutAt (·.isWord "in") items with
  | (element, some source) =>
    (if isTypeAndName element then .nothing else pattern close element).also (expression close source)
  | (_, none) => .error close

/-- Reads the header of a `catch` clause: the type of the exception and perhaps a name for it. -/
def caught (close : Nat) (items : List Item) : Reading :=
  match afterType? items with
  | some [] => .nothing
  | some [name] => if name.isName then .nothing else .error name.line
  | _ => .error close

/-- Reads a name, or names in parentheses, to which a part of a value goes. -/
def designation (close : Nat) (items : List Item) : Reading :=
  match items with
  | [name] => if name.isName then .nothing else name.read .designations
  | _ => .error close

end SceneAudit.CSharp
