import SceneAudit.CSharp.Reader.Grammar
import SceneAudit.CSharp.Syntax

/-!
# A reader of C# sources

Which parser makes the trees is left open wherever something is said about them.  So that the program runs by itself,
it has a reader of its own, which makes a tree of the outline of a source.  The tree has the nodes in which exposed
fields are looked for and no others, and the names of all variables within a field stand side by side.
-/

namespace SceneAudit.CSharp

/-- The offsets in bytes of the characters of a source and of its end. -/
def byteOffsets (source : String) : Array Nat :=
  source.toList.foldl (fun offsets c => offsets.push (offsets.back! + c.utf8Size)) #[0]

section

variable (offsets : Array Nat)

/-- A node that covers a span of the source. -/
def Span.node (kind : String) (fields : List String) (span : Span) (children : List Node) : Node :=
  .mk
    { kind, fields, row := 0, start := offsets.getD span.start 0, stop := offsets.getD span.stop 0 }
    children

/-- A node of which only the kind and the children matter. -/
def bareNode (kind : String) (fields : List String) (children : List Node) : Node :=
  .mk { kind, fields, row := 0, start := 0, stop := 0 } children

/-- A node with a name. -/
def nameNode (kind : String) (name : Span) : Node :=
  name.node offsets kind [] [name.node offsets "identifier" ["name"] []]

def Field.node (field : Field) : Node :=
  bareNode "field_declaration" []
    (bareNode "attribute_list" [] (field.attributes.map (nameNode offsets "attribute"))
      :: field.modifiers.map (fun modifier => modifier.node offsets "modifier" [] [])
        ++ [bareNode "variable_declaration" [] (field.declared.map (nameNode offsets "variable_declarator"))])

mutual

def Outline.node : Outline → Node
  | .field content => content.node offsets
  | .scope .classBody members =>
    bareNode "class_declaration" [] [bareNode "declaration_list" ["body"] (Outline.nodes members)]
  | .scope .other members => bareNode "declaration_list" [] (Outline.nodes members)

def Outline.nodes : List Outline → List Node
  | [] => []
  | outline :: rest => outline.node :: Outline.nodes rest

end

end

/-- The tree of a source; if the source breaks a rule of the language, an error on the line where it does. -/
def treeOf (source : String) : Node :=
  match outlineOf source with
  | .ok outlines => bareNode "compilation_unit" [] (Outline.nodes (byteOffsets source) outlines)
  | .error line =>
    .mk { kind := "ERROR", isError := true, hasError := true, row := line - 1, start := 0, stop := source.utf8ByteSize }
      []

/-- The reader as a parser. -/
def reader : Parser where
  grammar := .ok ()
  tree? source := some (treeOf source)

end SceneAudit.CSharp
