/-!
# Syntax trees

A parser makes a tree of a source, or gives up.  A node of the tree has a kind, which is the name of a rule of the
grammar or the text of a token, and may stand in fields of the node around it, which have names.  It covers some bytes
of the source.
-/

namespace SceneAudit.CSharp

/-- What a parser says of a node, apart from its children. -/
structure Label where
  kind : String
  /-- The names of the fields of the node around it in which the node stands. -/
  fields : List String := []
  /-- Whether the kind is the name of a rule. -/
  isNamed : Bool := true
  /-- Whether the node covers text that no rule fits. -/
  isError : Bool := false
  /-- Whether the parser has put the node in for something that is missing. -/
  isMissing : Bool := false
  /-- Whether something at or below the node is an error or is missing. -/
  hasError : Bool := false
  /-- The row that the node starts on, counted from zero. -/
  row : Nat
  /-- The offset of the node's first byte. -/
  start : Nat
  /-- The offset of the byte after the node's last one. -/
  stop : Nat
deriving DecidableEq

inductive Node where
  | mk (label : Label) (children : List Node)

namespace Node

def label : Node → Label
  | mk label _ => label

def children : Node → List Node
  | mk _ children => children

def kind (node : Node) : String :=
  node.label.kind

/-- The text that the node covers, which is empty where the bytes are none. -/
def text (source : String) (node : Node) : String :=
  (String.fromUTF8? (source.toUTF8.extract node.label.start node.label.stop)).getD ""

/-- The first child in the field of the name. -/
def child? (field : String) (node : Node) : Option Node :=
  node.children.find? (·.label.fields.contains field)

/-- The children of which the kind is the name of a rule. -/
def namedChildren (node : Node) : List Node :=
  node.children.filter (·.label.isNamed)

mutual

/-- The first node at or below this one that is an error or is missing, or else the last one that tells of such a node
and has none below. -/
def firstError? : Node → Option Node
  | mk label children =>
    if label.isError || label.isMissing then some (mk label children)
    else if label.hasError then (firstErrorIn? children).or (some (mk label children))
    else none

/-- The first such node at or below some nodes. -/
def firstErrorIn? : List Node → Option Node
  | [] => none
  | node :: rest => node.firstError?.or (firstErrorIn? rest)

end

mutual

/-- The nodes of a kind at or below this one, in the order of the tree. -/
def ofKind (kind : String) : Node → List Node
  | mk label children =>
    if label.kind = kind then mk label children :: ofKindIn kind children else ofKindIn kind children

/-- The nodes of a kind at or below some nodes, in order. -/
def ofKindIn (kind : String) : List Node → List Node
  | [] => []
  | node :: rest => node.ofKind kind ++ ofKindIn kind rest

end

end Node

/-- A parser for a grammar that has to be loaded first. -/
structure Parser where
  /-- Whether the grammar can be loaded, and why not. -/
  grammar : Except String Unit
  /-- The tree of a source, unless the parser gives up. -/
  tree? : String → Option Node

end SceneAudit.CSharp
