import SceneAudit.CSharp.Reader.Declaration

/-!
# The grammar of C# groups

The rule for each role of a group, and from the inside out the items of a bracket tree.
-/

namespace SceneAudit.CSharp

/-- Reads what comes after the name of an attribute: perhaps arguments. -/
def attributeArguments (items : List Item) : Reading :=
  match items with
  | [] => .nothing
  | [round] => if round.isGroup .round then round.read .arguments else .error round.line
  | item :: _ => .error item.line

/-- Reads one attribute: its name and perhaps arguments.  Attributes of functions within these do not count. -/
def oneAttribute (close : Nat) (items : List Item) : Reading :=
  match items with
  | name :: rest =>
    let arguments := afterName rest
    let last := ((rest.take (rest.length - arguments.length)).getLast?.map Item.span).getD name.span
    if name.isName then do
      let found ← attributeArguments arguments
      return { found with attributes := [⟨name.span.start, last.stop⟩] }
    else .error name.line
  | [] => .error close

/-- Reads a list of attributes, perhaps with the word that says what they are attached to. -/
def attributes (close : Nat) (items : List Item) : Reading :=
  let listed := withoutLabel items
  if listed.isEmpty then .error close else readEach (oneAttribute close) (listElementsTrailing listed)

/-- Reads a list of which each element satisfies a rule and that has at least one. -/
def atLeastOne (rule : List Item → Reading) (close : Nat) (items : List Item) : Reading :=
  if items.isEmpty then .error close else readEach rule (listElements items)

/-- Reads the bracket of an array type: nothing but commas. -/
def rank (items : List Item) : Reading :=
  match items.find? (!·.isMark ",") with
  | some item => .error item.line
  | none => .nothing

/-- Reads the holes of an interpolated string. -/
def holes (items : List Item) : Reading :=
  .all (items.map fun item => if item.isGroup .hole then item.read .hole else .error item.line)

/-- Reads a group that ends on the given line by the rule of its role. -/
def readAs (role : Role) (close : Nat) (items : List Item) : Reading :=
  match role with
  | .unit => unit items
  | .members => members items
  | .enumMembers => readEach (enumMember close) (listElementsTrailing items)
  | .accessors => accessors items
  | .block => block items
  | .sections => block items
  | .arms => readEach (arm close) (listElementsTrailing items)
  | .initializer => readEach (initializerElement close) (listElementsTrailing items)
  | .properties => readEach (subpattern close) (listElementsTrailing items)
  | .patterns => readEach (subpattern close) (listElementsTrailing items)
  | .arguments => readEach (argument close) (listElements items)
  | .operands => atLeastOne (argument close) close items
  | .elements => readEach (expression close) (listElementsTrailing items)
  | .parameters => readEach (parameter close) (listElements items)
  | .type => if isType items then .nothing else .error close
  | .rank => rank items
  | .attributes => attributes close items
  | .loopHeader => loopHeader close items
  | .eachHeader => eachHeader close items
  | .resources => resources close items
  | .caught => caught close items
  | .holes => holes items
  | .hole => atLeastOne (expression close) close items
  | .designations => atLeastOne (designation close) close items

/-- Reads what stands under a condition, branch by branch. -/
def readBranches (role : Role) (close : Nat) (items : List Item) : Reading :=
  let rule := if role = .members then conditionalMembers else readAs role close
  .all ((splitAt (fun item => item.kind = .token .branch) items).map rule)

namespace Tree

mutual

/-- The item that a tree is. -/
def item : Tree → Item
  | .leaf token =>
    { kind := .token token.kind, text := token.text, line := token.line, span := token.span,
      read := fun _ => .error token.line, branch := [] }
  | .group bracket first inner last =>
    let items := itemsOf inner
    { kind := .group bracket, text := "", line := first.line, span := ⟨first.start, last.stop⟩,
      read := fun role =>
        if bracket = .conditional then readBranches role last.line items else readAs role last.line items
      branch :=
        if bracket = .conditional then
          spliced (items.takeWhile fun item => item.kind ≠ .token .branch)
        else [] }

/-- The items that trees are. -/
def itemsOf : List Tree → List Item
  | [] => []
  | tree :: rest => tree.item :: itemsOf rest

end

end Tree

/-- The outline of a source; if the source breaks a rule of the language, the line where it does. -/
def outlineOf (source : String) : Except Nat (List Outline) := do
  let trees ← trees (tokens source)
  return (← readAs .unit 1 (Tree.itemsOf trees)).outlines

end SceneAudit.CSharp
