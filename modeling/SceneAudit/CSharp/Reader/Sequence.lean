import SceneAudit.CSharp.Reader.Item

/-!
# Lists and clauses

A group is a list of elements between commas or a sequence of clauses.  A clause ends with a semicolon, with a block,
or, if it is a label, with a colon.  What stands under a condition is a clause of its own where a clause could start;
within a clause or a list only the first branch of the condition is read.
-/

namespace SceneAudit.CSharp

/-- The items with the first branch of each condition in place of the condition. -/
def spliced (items : List Item) : List Item :=
  items.flatMap fun item => if item.isGroup .conditional then item.branch else [item]

/-- The parts between the items that satisfy a test. -/
def splitAt (test : Item → Bool) (items : List Item) : List (List Item) :=
  items.foldr
    (fun item parts =>
      match test item, parts with
      | true, _ => [] :: parts
      | false, part :: rest => (item :: part) :: rest
      | false, [] => [[item]])
    [[]]

/-- The items before the first one that satisfies a test, and those after it if there is one. -/
def cutAt (test : Item → Bool) (items : List Item) : List Item × Option (List Item) :=
  match items.dropWhile fun item => !test item with
  | [] => (items, none)
  | _ :: rest => (items.takeWhile (fun item => !test item), some rest)

/-- What stands behind a name and a colon, if the items start with those. -/
def withoutLabel (items : List Item) : List Item :=
  match items with
  | name :: colon :: rest => if name.isName && colon.isMark ":" then rest else items
  | _ => items

/-! ## Lists -/

/-- The words that end the ordering clause of a query. -/
def orderingEnds : List String := ["select", "group", "where", "join", "let", "from"]

/-- Where an element of a list stands with the clauses of a query. -/
inductive QueryPart where
  /-- In no query. -/
  | outside
  /-- In a query, but not in an ordering clause. -/
  | within
  /-- In the ordering clause of a query. -/
  | ordering
deriving DecidableEq

/-- Where an element stands after an item of its own. -/
def QueryPart.after (part : QueryPart) (item : Item) : QueryPart :=
  match part with
  | .outside => if item.isWord "from" then .within else .outside
  | .within => if item.isWord "orderby" then .ordering else .within
  | .ordering => if item.isOneOf orderingEnds then .within else .ordering

/-- The parts between the commas, of which those in the ordering clause of a query do not count. -/
def splitAtCommas (part : QueryPart) : List Item → List (List Item)
  | [] => [[]]
  | item :: rest =>
    if item.isMark "," && part ≠ .ordering then
      [] :: splitAtCommas .outside rest
    else
      match splitAtCommas (part.after item) rest with
      | first :: parts => (item :: first) :: parts
      | [] => [[item]]

/-- The elements of a list that may be empty. -/
def listElements (items : List Item) : List (List Item) :=
  match spliced items with
  | [] => []
  | items => splitAtCommas .outside items

/-- The elements of a list that may be empty and may end with a comma. -/
def listElementsTrailing (items : List Item) : List (List Item) :=
  let elements := listElements items
  match elements.getLast? with
  | some [] => elements.dropLast
  | _ => elements

/-- Reads each element by a rule, in order. -/
def readEach (rule : List Item → Reading) (elements : List (List Item)) : Reading :=
  .all (elements.map rule)

/-! ## Clauses -/

structure Clause where
  items : List Item
  /-- The semicolon, block, colon or condition that ends the clause. -/
  ending : Item

/-- The marks that assign. -/
def assignments : List String :=
  ["=", "+=", "-=", "*=", "/=", "%=", "&=", "|=", "^=", "<<=", "??="]

/-- Whether an item says that the braces after it hold no block. -/
def isAssigning (item : Item) : Bool :=
  item.kind = .token .mark && (item.text = "=>" || assignments.contains item.text)

/-- Where clauses end, besides at semicolons. -/
structure ClauseRule where
  /-- Whether braces end the clause that holds the given items, the last first, if the given item comes next. -/
  endsAtBlock : List Item → Option Item → Bool
  /-- Whether a colon ends the clause that holds the given items, the last first. -/
  endsAtColon : List Item → Bool

namespace ClauseRule

/-- The clauses of the body of a type: what an assignment or an arrow comes before goes on after the braces, and so
does a property with an initial value. -/
def members : ClauseRule where
  endsAtBlock reversed next := !reversed.any isAssigning && !next.any (·.isMark "=")
  endsAtColon _ := false

/-- The words that start an expression which may hold braces. -/
def expressionStarts : List String := ["return", "throw", "yield", "goto", "case"]

/-- The clauses of a block. -/
def statements : ClauseRule where
  endsAtBlock reversed next :=
    !reversed.any isAssigning && !next.any (·.isMark "=")
      && !reversed.any (·.isOneOf expressionStarts)
      && (!reversed.any (·.isWord "new") || reversed.any (·.isWord "where"))
  endsAtColon reversed :=
    match reversed.reverse with
    | [label] => label.isName
    | first :: _ => first.isWord "case"
    | [] => false

/-- Whether an item ends the clause that holds the given items, the last first, if the given item comes next. -/
def endsAt (rule : ClauseRule) (reversed : List Item) (item : Item) (next : Option Item) : Bool :=
  if item.isMark ";" then true
  else if item.isGroup .curly then rule.endsAtBlock reversed next
  else if item.isMark ":" then rule.endsAtColon reversed
  else item.isGroup .conditional && reversed.isEmpty

/-- The clauses of a sequence of items of which the first ones, the last first, have been read.  The line is given
where a clause does not end. -/
def clausesFrom (rule : ClauseRule) (reversed : List Item) : List Item → Except Nat (List Clause)
  | [] =>
    match reversed with
    | [] => .ok []
    | item :: _ => .error item.line
  | item :: rest =>
    if rule.endsAt reversed item rest.head? then do
      return ⟨reversed.reverse, item⟩ :: (← clausesFrom rule [] rest)
    else if item.isGroup .conditional then
      clausesFrom rule (item.branch.reverse ++ reversed) rest
    else
      clausesFrom rule (item :: reversed) rest

/-- The clauses of a sequence of items. -/
def clauses (rule : ClauseRule) (items : List Item) : Except Nat (List Clause) :=
  rule.clausesFrom [] items

end ClauseRule

end SceneAudit.CSharp
