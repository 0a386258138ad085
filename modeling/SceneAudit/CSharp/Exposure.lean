import SceneAudit.CSharp.Syntax
import SceneAudit.Text.Blank

/-!
# Exposed fields

The editor shows a field of a class if the field is public or carries the attribute `SerializeField`.  The attribute may
be written with the names of its namespaces before it and with `Attribute` behind it.
-/

namespace SceneAudit.CSharp

open Text

/-- The modifier that exposes a field. -/
def publicModifier : String := "public"

/-- The name of the attribute that exposes a field. -/
def serializeAttribute : String := "SerializeField"

/-- What may be left off at the end of an attribute's name. -/
def attributeSuffix : String := "Attribute"

/-- The last part of a dotted name, without the blanks around it. -/
def lastPart (name : List Char) : List Char :=
  trim (name.reverse.takeWhile (· != '.')).reverse

/-- The text without the given end, if it has that end. -/
def withoutEnd (ending : List Char) (cs : List Char) : List Char :=
  if ending.isSuffixOf cs then cs.take (cs.length - ending.length) else cs

/-- Whether the name of an attribute is that of the one which exposes a field. -/
def isSerializeName (name : String) : Bool :=
  withoutEnd attributeSuffix.toList (lastPart name.toList) = serializeAttribute.toList

namespace Node

variable (source : String)

/-! ## Fields -/

/-- Whether a list of attributes has the one that exposes a field. -/
def hasSerializeAttribute (list : Node) : Bool :=
  let attributes := list.children.filter (·.kind = "attribute")
  (attributes.filterMap (·.child? "name")).any fun name => isSerializeName (name.text source)

/-- Whether the editor shows the field. -/
def isExposed (field : Node) : Bool :=
  field.children.any fun child =>
    match child.kind with
    | "modifier" => child.text source = publicModifier
    | "attribute_list" => child.hasSerializeAttribute source
    | _ => false

/-- The node with the name of a declarator. -/
def declaredName? (declarator : Node) : Option Node :=
  (declarator.child? "name").or (declarator.namedChildren.find? (·.kind = "identifier"))

/-- The names of the declarators at or below a field. -/
def declaredNames (field : Node) : List String :=
  ((field.ofKind "variable_declarator").filterMap declaredName?).map (·.text source)

/-! ## Classes -/

/-- The names of the exposed fields that stand directly in the body of a class. -/
def exposedNames (classNode : Node) : List String :=
  match classNode.child? "body" with
  | none => []
  | some body =>
    let exposed := body.children.filter fun member => member.kind = "field_declaration" && member.isExposed source
    exposed.flatMap (·.declaredNames source)

/-- The names of the exposed fields in a tree, class by class. -/
def exposedFields (root : Node) : List String :=
  (root.ofKind "class_declaration").flatMap (·.exposedNames source)

end Node

end SceneAudit.CSharp
