import SceneAudit.Proofs.CSharp.SourceOrder
import SceneAudit.Proofs.Run.Reading

/-!
# The fields that declarations expose

Which fields a source exposes is said here of its declarations, without the tree that a parser makes of them
(`Declaration.exposedNames`): class by class, a class before those inside it, the names of the fields that are public
or have the attribute for it.  How declarations are seen in a tree is what `Shows` says, in the shape that the
parser's grammar gives them.  The names found in a tree are those of the declarations it shows (`Shows.tells`).

This is so for fields without functions that have statements of their own, whether in the initial values or among
the arguments of the attributes (`Node.HasNoBlock`), for the variables of those are found as well.
-/

namespace SceneAudit.CSharp

/-! ## Declarations -/

/-- The kinds of types that have fields. -/
inductive TypeKind where
  | classType
  | structType
  | interfaceType
deriving DecidableEq

/-- A declaration, as far as it matters for which fields are exposed. -/
inductive Declaration where
  /-- A field with its modifiers, the names of its attributes as they are written, and the names of its declarators. -/
  | field (modifiers attributes names : List String)
  | property
  | event
  | method
  | enumeration
  | type (kind : TypeKind) (members : List Declaration)
  /-- A namespace. -/
  | outer (members : List Declaration)

namespace Declaration

/-- A field with these modifiers and attributes is exposed. -/
def Exposes (modifiers attributes : List String) : Prop :=
  "public" ∈ modifiers ∨ ∃ name ∈ attributes, NamesSerializeField name

instance (modifiers attributes : List String) : Decidable (Exposes modifiers attributes) :=
  inferInstanceAs (Decidable (_ ∨ _))

/-- The names that a member of a class adds to those of the class. -/
def ownNames : Declaration → List String
  | field modifiers attributes names => if Exposes modifiers attributes then names else []
  | _ => []

mutual

/-- The names that the classes in a declaration expose, those of a class before those of the classes inside it. -/
def exposedNames : Declaration → List String
  | type .classType members => members.flatMap ownNames ++ exposedNamesOf members
  | type .structType members => exposedNamesOf members
  | type .interfaceType members => exposedNamesOf members
  | outer members => exposedNamesOf members
  | _ => []

/-- The names that the classes in declarations expose, in order. -/
def exposedNamesOf : List Declaration → List String
  | [] => []
  | declaration :: rest => declaration.exposedNames ++ exposedNamesOf rest

end

theorem exposedNamesOf_append (front back : List Declaration) :
    exposedNamesOf (front ++ back) = exposedNamesOf front ++ exposedNamesOf back := by
  induction front with
  | nil => rfl
  | cons declaration front ih => rw [List.cons_append, exposedNamesOf, exposedNamesOf, ih, List.append_assoc]

end Declaration

/-! ## Declarations in a tree -/

/-- The rule for types of the kind. -/
def TypeKind.rule : TypeKind → String
  | classType => "class_declaration"
  | structType => "struct_declaration"
  | interfaceType => "interface_declaration"

/-- The rules for members that are no fields and no types. -/
def Declaration.memberRules : Declaration → List String
  | property => ["property_declaration"]
  | event => ["event_declaration", "event_field_declaration"]
  | method => ["method_declaration"]
  | enumeration => ["enum_declaration"]
  | _ => []

/-- The rules for functions that stand in expressions. -/
def functionRules : List String :=
  ["lambda_expression", "anonymous_method_expression"]

namespace Node

/-- The modifiers of a field. -/
def modifiers (source : String) (field : Node) : List String :=
  (field.children.filter (·.kind = "modifier")).map (·.text source)

/-- The names of a field's attributes as they are written. -/
def attributeNames (source : String) (field : Node) : List String :=
  (field.children.filter (·.kind = "attribute_list")).flatMap fun list =>
    (list.children.filter (·.kind = "attribute")).filterMap fun attr => (attr.child? "name").map (·.text source)

/-- The declarators of a field, without those of other variables below it. -/
def ownDeclarators (field : Node) : List Node :=
  (field.children.filter (·.kind = "variable_declaration")).flatMap fun declaration =>
    declaration.children.filter (·.kind = "variable_declarator")

/-- The way leads into the block of a function. -/
def LeadsIntoBlock (node : Node) (way : Way) : Prop :=
  ∃ front index back function block, way = front ++ index :: back ∧ node.at? front = some function ∧
    function.kind ∈ functionRules ∧ function.children[index]? = some block ∧ block.kind = "block"

/-- No function at or below the node has a block. -/
def HasNoBlock (node : Node) : Prop :=
  ∀ way function, node.at? way = some function → function.kind ∈ functionRules →
    ∀ block ∈ function.children, block.kind ≠ "block"

instance (node : Node) : Decidable node.HasNoBlock :=
  decidable_of_iff _ forall_placed_iff

/-- The members of the node stand in its body, and there are no classes in its other children. -/
structure HasBody (node body : Node) (before after : List Node) : Prop where
  children_eq : node.children = before ++ body :: after
  mem_fields : "body" ∈ body.label.fields
  first : ∀ other ∈ before, "body" ∉ other.label.fields
  kind_eq : body.kind = "declaration_list"
  noClass : ∀ other ∈ before ++ after, other.HasNone "class_declaration"

end Node

/-- The node is that of a field.  Variables are declared in statements otherwise, and these are in the blocks of
functions. -/
structure ShowsField (source : String) (node : Node) (modifiers attributes names : List String) : Prop where
  kind_eq : node.kind = "field_declaration"
  modifiers_eq : node.modifiers source = modifiers
  attributes_eq : node.attributeNames source = attributes
  names : List.Forall₂ (Node.Declares source) node.ownDeclarators names
  noClass : node.HasNone "class_declaration"
  declarators : ∀ way inner, node.at? way = some inner → inner.kind = "variable_declarator" →
    node.IsOwnWay way ∨ node.LeadsIntoBlock way

/-- The nodes are those of the declarations, among tokens and other things. -/
inductive Shows (source : String) : List Node → List Declaration → Prop
  | nil : Shows source [] []
  /-- A token, a comment, or something else without fields and classes. -/
  | silent {node : Node} {rest : List Node} {declarations : List Declaration} (hkind : node.kind ≠ "field_declaration")
      (hnode : node.HasNone "class_declaration") (hrest : Shows source rest declarations) :
      Shows source (node :: rest) declarations
  | field {node : Node} {rest : List Node} {declarations : List Declaration} {modifiers attributes names : List String}
      (hnode : ShowsField source node modifiers attributes names) (hblock : node.HasNoBlock)
      (hrest : Shows source rest declarations) :
      Shows source (node :: rest) (.field modifiers attributes names :: declarations)
  | member {node : Node} {rest : List Node} {declaration : Declaration} {declarations : List Declaration}
      (hkind : node.kind ∈ declaration.memberRules) (hnode : node.HasNone "class_declaration")
      (hrest : Shows source rest declarations) : Shows source (node :: rest) (declaration :: declarations)
  | type {node body : Node} {before after rest : List Node} {kind : TypeKind} {members declarations : List Declaration}
      (hkind : node.kind = kind.rule) (hbody : node.HasBody body before after)
      (hmembers : Shows source body.children members) (hrest : Shows source rest declarations) :
      Shows source (node :: rest) (.type kind members :: declarations)
  /-- A type without a body, which ends with a semicolon. -/
  | bodiless {node : Node} {rest : List Node} {kind : TypeKind} {declarations : List Declaration}
      (hkind : node.kind = kind.rule) (hbody : ∀ child ∈ node.children, "body" ∉ child.label.fields)
      (hnode : ∀ child ∈ node.children, child.HasNone "class_declaration") (hrest : Shows source rest declarations) :
      Shows source (node :: rest) (.type kind [] :: declarations)
  | outer {node body : Node} {before after rest : List Node} {members declarations : List Declaration}
      (hkind : node.kind = "namespace_declaration") (hbody : node.HasBody body before after)
      (hmembers : Shows source body.children members) (hrest : Shows source rest declarations) :
      Shows source (node :: rest) (.outer members :: declarations)

/-! ## Fields -/

namespace Node

variable {source : String} {node field : Node}

theorem HasNoBlock.not_leadsIntoBlock (h : node.HasNoBlock) (way : Way) : ¬ node.LeadsIntoBlock way := by
  rintro ⟨front, index, back, function, block, -, hfunction, hkind, hblock, hblockKind⟩
  exact h front function hfunction hkind block (List.mem_of_getElem? hblock) hblockKind

theorem isExposed_iff_exposes :
    field.isExposed source = true ↔ Declaration.Exposes (field.modifiers source) (field.attributeNames source) := by
  rw [isExposed_iff, Exposes, Declaration.Exposes]
  apply or_congr
  · simp [modifiers, and_assoc]
  · simp only [attributeNames, List.mem_flatMap, List.mem_filterMap, List.mem_filter, Option.map_eq_some_iff,
      decide_eq_true_eq]
    constructor
    · rintro ⟨list, hlist, hlistKind, attr, hattr, hattrKind, name, hname, hnames⟩
      exact ⟨_, ⟨list, ⟨hlist, hlistKind⟩, attr, ⟨hattr, hattrKind⟩, name, hname, rfl⟩, hnames⟩
    · rintro ⟨_, ⟨list, ⟨hlist, hlistKind⟩, attr, ⟨hattr, hattrKind⟩, name, hname, rfl⟩, hnames⟩
      exact ⟨list, hlist, hlistKind, attr, hattr, hattrKind, name, hname, hnames⟩

/-- Where all declarators below a field are its own, these are the ones that are found. -/
theorem ofKind_variable_declarator (hkind : field.kind = "field_declaration")
    (h : ∀ way inner, field.at? way = some inner → inner.kind = "variable_declarator" → field.IsOwnWay way) :
    field.ofKind "variable_declarator" = field.ownDeclarators := by
  have hchild : ∀ child ∈ field.children, child.ofKind "variable_declarator" =
      ([child].filter (·.kind = "variable_declaration")).flatMap fun declaration =>
        declaration.children.filter (·.kind = "variable_declarator") := by
    intro child hmem
    obtain ⟨index, hindex⟩ := List.mem_iff_getElem?.mp hmem
    have hown : ∀ way inner, child.at? way = some inner → inner.kind = "variable_declarator" →
        way.length = 1 ∧ child.kind = "variable_declaration" := by
      intro way inner hway hinner
      obtain ⟨_, place, declaration, heq, hdeclaration, hdeclarationKind⟩ :=
        h (index :: way) inner (at?_cons_eq_some_iff.mpr ⟨child, hindex, hway⟩) hinner
      obtain ⟨rfl, rfl⟩ := List.cons.inj heq
      obtain rfl := Option.some.inj (hindex.symm.trans hdeclaration)
      exact ⟨rfl, hdeclarationKind⟩
    by_cases hdeclaration : child.kind = "variable_declaration"
    · rw [ofKind_eq_filter_children fun way inner hway hinner => (hown way inner hway hinner).1]
      simp [hdeclaration]
    · have hnone : child.HasNone "variable_declarator" :=
        fun way inner hway hinner => hdeclaration (hown way inner hway hinner).2
      simp [hasNone_iff.mp hnone, hdeclaration]
  rw [ofKind_of_kind_ne (by simp [hkind]), List.flatMap_congr hchild, ← List.flatMap_assoc,
    flatMap_filter_singleton (fun node => node.kind = "variable_declaration"), ownDeclarators]

theorem map_text_filterMap_declaredName? {declarators : List Node} {names : List String}
    (h : List.Forall₂ (Declares source) declarators names) :
    (declarators.filterMap declaredName?).map (·.text source) = names := by
  induction h with
  | nil => rfl
  | cons hdeclares _ ih =>
      obtain ⟨node, hnode, rfl⟩ := hdeclares
      rw [List.filterMap_cons_some (declaredName?_eq_some_iff.mpr hnode), List.map_cons, ih]

end Node

/-- The names of declarators that have them in the field for names. -/
theorem forall₂_declares {source : String} {declarators : List Node} {names : List String}
    (h : (declarators.map fun declarator => (declarator.child? "name").map (·.text source)) = names.map some) :
    List.Forall₂ (Node.Declares source) declarators names := by
  induction declarators generalizing names with
  | nil =>
      obtain rfl : names = [] := by simpa using h
      exact .nil
  | cons declarator declarators ih =>
      cases names with
      | nil => simp at h
      | cons name names =>
          obtain ⟨hname, hrest⟩ := List.cons.inj h
          obtain ⟨node, hnode, htext⟩ := Option.map_eq_some_iff.mp hname
          exact .cons ⟨node, .inl hnode, htext⟩ (ih hrest)

theorem isOwnWay_of_placed {field : Node}
    (h : ∀ place ∈ field.placed, place.2.kind = "variable_declarator" → field.IsOwnWay place.1) (way : Way)
    (inner : Node) (hway : field.at? way = some inner) (hkind : inner.kind = "variable_declarator") :
    field.IsOwnWay way ∨ field.LeadsIntoBlock way :=
  .inl (h (way, inner) (Node.mem_placed_iff.mpr hway) hkind)

theorem ShowsField.declaredNames_eq {source : String} {node : Node} {modifiers attributes names : List String}
    (h : ShowsField source node modifiers attributes names) (hblock : node.HasNoBlock) :
    node.declaredNames source = names := by
  have hown : ∀ way inner, node.at? way = some inner → inner.kind = "variable_declarator" → node.IsOwnWay way :=
    fun way inner hway hkind => (h.declarators way inner hway hkind).resolve_right (hblock.not_leadsIntoBlock way)
  rw [Node.declaredNames, Node.ofKind_variable_declarator h.kind_eq hown]
  exact Node.map_text_filterMap_declaredName? h.names

/-! ## The names in some nodes -/

namespace Node

variable (source : String)

/-- The names of the exposed fields among the members of a class. -/
def ownNames (members : List Node) : List String :=
  (members.filter fun member => member.kind = "field_declaration" && member.isExposed source).flatMap
    (·.declaredNames source)

/-- The names that the classes at or below some nodes expose. -/
def classNames (nodes : List Node) : List String :=
  (nodes.flatMap (ofKind "class_declaration")).flatMap (·.exposedNames source)

variable {source} {node body : Node} {before after : List Node}

theorem flatMap_ofKind_eq_nil {kind : String} {nodes : List Node} (h : ∀ node ∈ nodes, node.HasNone kind) :
    nodes.flatMap (ofKind kind) = [] :=
  List.flatMap_eq_nil_iff.mpr fun node hnode => hasNone_iff.mp (h node hnode)

theorem HasBody.exposedNames_eq (h : node.HasBody body before after) :
    node.exposedNames source = ownNames source body.children := by
  have hbody : node.child? "body" = some body := by
    rw [child?, List.find?_eq_some_iff_append]
    refine ⟨by simpa using h.mem_fields, before, after, h.children_eq, fun other hother => ?_⟩
    simpa using h.first other hother
  rw [exposedNames, hbody, ownNames]

/-- All classes inside a declaration with a body are in its body. -/
theorem HasBody.flatMap_ofKind (h : node.HasBody body before after) :
    node.children.flatMap (ofKind "class_declaration") = body.children.flatMap (ofKind "class_declaration") := by
  rw [h.children_eq, List.flatMap_append, List.flatMap_cons,
    flatMap_ofKind_eq_nil fun other hother => h.noClass other (List.mem_append_left _ hother),
    flatMap_ofKind_eq_nil fun other hother => h.noClass other (List.mem_append_right _ hother),
    ofKind_of_kind_ne (by simp [h.kind_eq]), List.nil_append, List.append_nil]

theorem exposedNames_of_bodiless (h : ∀ child ∈ node.children, "body" ∉ child.label.fields) :
    node.exposedNames source = [] := by
  have hbody : node.child? "body" = none := by
    rw [child?, List.find?_eq_none]
    intro child hchild
    simpa using h child hchild
  rw [exposedNames, hbody]

end Node

/-- The names in the nodes are those that the declarations expose. -/
structure Tells (source : String) (nodes : List Node) (declarations : List Declaration) : Prop where
  own : Node.ownNames source nodes = declarations.flatMap Declaration.ownNames
  classes : Node.classNames source nodes = Declaration.exposedNamesOf declarations

namespace Tells

variable {source : String} {node body : Node} {nodes more before after : List Node} {kind : TypeKind}
  {declaration : Declaration} {declarations others members : List Declaration}

theorem nil : Tells source [] [] :=
  ⟨rfl, rfl⟩

theorem append (h : Tells source nodes declarations) (hmore : Tells source more others) :
    Tells source (nodes ++ more) (declarations ++ others) := by
  constructor
  · rw [List.flatMap_append, ← h.own, ← hmore.own, Node.ownNames, List.filter_append, List.flatMap_append]
    rfl
  · rw [Declaration.exposedNamesOf_append, ← h.classes, ← hmore.classes, Node.classNames, List.flatMap_append,
      List.flatMap_append]
    rfl

/-- There are no names where there are no fields and no classes. -/
theorem silent (hkind : node.kind ≠ "field_declaration") (hnode : node.HasNone "class_declaration") :
    Tells source [node] [] := by
  constructor
  · simp [Node.ownNames, hkind]
  · simp [Node.classNames, Node.hasNone_iff.mp hnode, Declaration.exposedNamesOf]

theorem member (hkind : node.kind ∈ declaration.memberRules) (hnode : node.HasNone "class_declaration") :
    Tells source [node] [declaration] := by
  have hfield : "field_declaration" ∉ declaration.memberRules := by
    cases declaration <;> simp [Declaration.memberRules]
  obtain ⟨hown, hexposed⟩ : declaration.ownNames = [] ∧ declaration.exposedNames = [] := by
    cases declaration <;> simp_all [Declaration.memberRules, Declaration.ownNames, Declaration.exposedNames]
  have hsilent : Tells source [node] [] := .silent (fun heq => hfield (heq ▸ hkind)) hnode
  constructor
  · simp [hsilent.own, hown]
  · simp [hsilent.classes, Declaration.exposedNamesOf, hexposed]

theorem field {modifiers attributes names : List String} (h : ShowsField source node modifiers attributes names)
    (hblock : node.HasNoBlock) : Tells source [node] [.field modifiers attributes names] := by
  have hexposed : node.isExposed source = decide (Declaration.Exposes modifiers attributes) := by
    rw [Bool.eq_iff_iff, Node.isExposed_iff_exposes, h.modifiers_eq, h.attributes_eq, decide_eq_true_iff]
  constructor
  · by_cases hshown : Declaration.Exposes modifiers attributes
    · simp [Node.ownNames, Declaration.ownNames, h.kind_eq, hexposed, hshown, h.declaredNames_eq hblock]
    · simp [Node.ownNames, Declaration.ownNames, hexposed, hshown]
  · simp [Node.classNames, Node.hasNone_iff.mp h.noClass, Declaration.exposedNamesOf, Declaration.exposedNames]

/-- Of the types, only classes have names of their own, which come before those of the classes inside. -/
theorem ofType (hkind : node.kind = kind.rule)
    (hown : node.kind = "class_declaration" → node.exposedNames source = members.flatMap Declaration.ownNames)
    (hinner : Node.classNames source node.children = Declaration.exposedNamesOf members) :
    Tells source [node] [.type kind members] := by
  constructor
  · cases kind <;> simp [Node.ownNames, Declaration.ownNames, hkind, TypeKind.rule]
  · rw [Node.classNames, List.flatMap_singleton, Node.ofKind_eq_append, List.flatMap_append, ← Node.classNames, hinner]
    cases kind with
    | classType => simp [hkind, hown hkind, TypeKind.rule, Declaration.exposedNamesOf, Declaration.exposedNames]
    | structType => simp [hkind, TypeKind.rule, Declaration.exposedNamesOf, Declaration.exposedNames]
    | interfaceType => simp [hkind, TypeKind.rule, Declaration.exposedNamesOf, Declaration.exposedNames]

theorem type (hkind : node.kind = kind.rule) (hbody : node.HasBody body before after)
    (h : Tells source body.children members) : Tells source [node] [.type kind members] := by
  refine .ofType hkind (fun _ => hbody.exposedNames_eq.trans h.own) ?_
  rw [← h.classes, Node.classNames, Node.classNames, hbody.flatMap_ofKind]

theorem bodiless (hkind : node.kind = kind.rule) (hbody : ∀ child ∈ node.children, "body" ∉ child.label.fields)
    (hnode : ∀ child ∈ node.children, child.HasNone "class_declaration") : Tells source [node] [.type kind []] := by
  refine .ofType hkind (fun _ => Node.exposedNames_of_bodiless hbody) ?_
  rw [Node.classNames, Node.flatMap_ofKind_eq_nil hnode]
  rfl

theorem outer (hkind : node.kind = "namespace_declaration") (hbody : node.HasBody body before after)
    (h : Tells source body.children members) : Tells source [node] [.outer members] := by
  constructor
  · simp [Node.ownNames, Declaration.ownNames, hkind]
  · rw [Node.classNames, List.flatMap_singleton, Node.ofKind_of_kind_ne (by simp [hkind]), hbody.flatMap_ofKind,
      ← Node.classNames, h.classes]
    simp [Declaration.exposedNamesOf, Declaration.exposedNames]

end Tells

/-- The names in the nodes of declarations are those that the declarations expose. -/
theorem Shows.tells {source : String} {nodes : List Node} {declarations : List Declaration}
    (h : Shows source nodes declarations) : Tells source nodes declarations := by
  induction h with
  | nil => exact .nil
  | silent hkind hnode _ ih => exact (Tells.silent hkind hnode).append ih
  | field hnode hblock _ ih => exact (Tells.field hnode hblock).append ih
  | member hkind hnode _ ih => exact (Tells.member hkind hnode).append ih
  | type hkind hbody _ _ ihMembers ih => exact (Tells.type hkind hbody ihMembers).append ih
  | bodiless hkind hbody hnode _ ih => exact (Tells.bodiless hkind hbody hnode).append ih
  | outer hkind hbody _ _ ihMembers ih => exact (Tells.outer hkind hbody ihMembers).append ih

/-! ## Sources -/

/-- What a parser makes of a source that consists of the declarations: their nodes in the shape of the grammar, none
of which is an error or stands for something that is missing.  Each node says so of those at and below it. -/
structure IsTreeOf (source : String) (declarations : List Declaration) (root : Node) : Prop where
  kind_eq : root.kind = "compilation_unit"
  shows : Shows source root.children declarations
  right : ∀ way node, root.at? way = some node → ¬ node.IsFaulty
  tellsErrors : root.TellsErrors

theorem IsTreeOf.exposedFields_eq {source : String} {declarations : List Declaration} {root : Node}
    (h : IsTreeOf source declarations root) : root.exposedFields source = Declaration.exposedNamesOf declarations := by
  rw [Node.exposedFields, Node.ofKind_of_kind_ne (by simp [h.kind_eq]), ← h.shows.tells.classes, Node.classNames]

/-- **A source of namespaces, types and their members is accepted.**  The fields that are listed are those that its
declarations expose, and the check of a file with that text says whether there are any. -/
theorem exposedFields_of_isTreeOf {parser : Parser} {source : String} {declarations : List Declaration} {root : Node}
    (hgrammar : parser.grammar = .ok ()) (htree : parser.tree? source = some root)
    (h : IsTreeOf source declarations root) :
    (∀ path, Oracle.exposedFields parser path source = .ok (Declaration.exposedNamesOf declarations)) ∧
      ∀ (refusals : Refusals) (tree : FileTree) (path : Path), refusals.read tree path = .ok source.toUTF8 →
        (Oracle.hasExposedField parser path : Restricted refusals OracleAnswer).run tree =
          (.ok (decide (Declaration.exposedNamesOf declarations ≠ [])), tree) := by
  have hfields (path : Path) :
      Oracle.exposedFields parser path source = .ok (Declaration.exposedNamesOf declarations) :=
    exposedFields_eq_ok_iff.mpr
      ⟨hgrammar, root, htree, Node.firstError?_eq_none h.tellsErrors h.right, h.exposedFields_eq⟩
  refine ⟨hfields, fun refusals tree path hread => ?_⟩
  have htext : refusals.readText tree path = .ok source := by
    rw [Refusals.readText, hread]
    simp only [Except.bind, Text.decode_toUTF8, Except.mapError]
  have hrun : (Oracle.hasExposedField parser path : Restricted refusals OracleAnswer).run tree =
      (Oracle.judgeTree parser path (refusals.readText tree path), tree) := by
    rw [Oracle.hasExposedField_eq_reading]
    rfl
  rw [hrun, htext, Oracle.judgeTree, hfields]
  cases Declaration.exposedNamesOf declarations <;> rfl

namespace NestedTypes

open Node

/-- A namespace with a class that has a field, a structure and another class, in which there is a method with a
variable of its own. -/
def source : String :=
  "namespace N {class A {[SerializeField] int a, b; struct S {public int c;} class B {public int d; void M() {int l;}}}}"

def twoInts : Node :=
  rule "field_declaration" [] [
    rule "attribute_list" [] [
      token "[" 22, rule "attribute" [] [leaf "identifier" ["name"] 23 37], token "]" 37],
    rule "variable_declaration" [] [
      leaf "predefined_type" ["type"] 39 42,
      rule "variable_declarator" [] [leaf "identifier" ["name"] 43 44],
      token "," 44,
      rule "variable_declarator" [] [leaf "identifier" ["name"] 46 47]],
    token ";" 47]

def innerStruct : Node :=
  rule "struct_declaration" [] [
    token "struct" 49, leaf "identifier" ["name"] 56 57,
    braced "declaration_list" ["body"] 58 [publicInt 59] 72]

def method : Node :=
  rule "method_declaration" [] [
    leaf "predefined_type" ["returns"] 97 101, leaf "identifier" ["name"] 102 103,
    rule "parameter_list" ["parameters"] [token "(" 103, token ")" 104],
    braced "block" ["body"] 106 [
      rule "local_declaration_statement" [] [
        rule "variable_declaration" [] [
          leaf "predefined_type" ["type"] 107 110,
          rule "variable_declarator" [] [leaf "identifier" ["name"] 111 112]],
        token ";" 112]] 113]

def innerClass : Node :=
  shortClass 74 [publicInt 83, method] 114

def outerClass : Node :=
  shortClass 13 [twoInts, innerStruct, innerClass] 115

def root : Node :=
  rule "compilation_unit" [] [
    rule "namespace_declaration" [] [
      token "namespace" 0, leaf "identifier" ["name"] 10 11,
      braced "declaration_list" ["body"] 12 [outerClass] 116]]

def declarations : List Declaration :=
  [.outer [.type .classType [.field [] ["SerializeField"] ["a", "b"], .type .structType [.field ["public"] [] ["c"]],
    .type .classType [.field ["public"] [] ["d"], .method]]]]

theorem showsField_twoInts : ShowsField source twoInts [] ["SerializeField"] ["a", "b"] where
  kind_eq := rfl
  modifiers_eq := rfl
  attributes_eq := by decide +kernel
  names := forall₂_declares (by decide +kernel)
  noClass := by decide
  declarators := isOwnWay_of_placed (by decide)

theorem showsField_publicInt (start : Nat) (name : String)
    (hmodifiers : (publicInt start).modifiers source = ["public"])
    (hname : (leaf "identifier" ["name"] (start + 11) (start + 12)).text source = name) :
    ShowsField source (publicInt start) ["public"] [] [name] where
  kind_eq := rfl
  modifiers_eq := hmodifiers
  attributes_eq := rfl
  names := .cons ⟨_, .inl rfl, hname⟩ .nil
  noClass := hasNone_iff.mpr rfl
  declarators := isOwnWay_of_placed <| by
    intro place hplace hkind
    simp only [publicInt, rule, leaf, token, placed, placedIn, List.mem_cons, List.map_cons, List.map_nil,
      List.cons_append, List.nil_append, List.not_mem_nil, or_false, Nat.reduceAdd] at hplace
    rcases hplace with rfl | rfl | rfl | rfl | rfl | rfl | rfl | rfl
    case inr.inr.inr.inr.inr.inl => exact ⟨1, 1, _, rfl, rfl, rfl⟩
    all_goals simp at hkind

section

variable {rest : List Node} {more : List Declaration}

theorem shows_innerStruct (hrest : Shows source rest more) :
    Shows source (innerStruct :: rest) (.type .structType [.field ["public"] [] ["c"]] :: more) := by
  have hfield := showsField_publicInt 59 "c" (by decide +kernel) (by decide +kernel)
  have hbody : innerStruct.HasBody innerStruct.children[2] (innerStruct.children.take 2) [] :=
    ⟨rfl, by decide, by decide, rfl, by decide⟩
  refine .type rfl hbody ?_ hrest
  exact .silent (by decide) (by decide) (.field hfield (by decide) (.silent (by decide) (by decide) .nil))

theorem shows_innerClass (hrest : Shows source rest more) :
    Shows source (innerClass :: rest) (.type .classType [.field ["public"] [] ["d"], .method] :: more) := by
  have hfield := showsField_publicInt 83 "d" (by decide +kernel) (by decide +kernel)
  have hbody : innerClass.HasBody innerClass.children[2] (innerClass.children.take 2) [] :=
    ⟨rfl, by decide, by decide, rfl, by decide⟩
  refine .type rfl hbody ?_ hrest
  refine .silent (by decide) (by decide) (.field hfield (by decide) ?_)
  exact .member (by decide) (by decide) (.silent (by decide) (by decide) .nil)

theorem shows_outerClass (hrest : Shows source rest more) :
    Shows source (outerClass :: rest)
      (.type .classType [.field [] ["SerializeField"] ["a", "b"], .type .structType [.field ["public"] [] ["c"]],
        .type .classType [.field ["public"] [] ["d"], .method]] :: more) := by
  have hbody : outerClass.HasBody outerClass.children[2] (outerClass.children.take 2) [] :=
    ⟨rfl, by decide, by decide, rfl, by decide⟩
  refine .type rfl hbody ?_ hrest
  refine .silent (by decide) (by decide) (.field showsField_twoInts (by decide) ?_)
  exact shows_innerStruct (shows_innerClass (.silent (by decide) (by decide) .nil))

end

theorem shows_root : Shows source root.children declarations := by
  have hbody : root.children[0].HasBody root.children[0].children[2] (root.children[0].children.take 2) [] :=
    ⟨rfl, by decide, by decide, rfl, by decide⟩
  refine .outer rfl hbody ?_ .nil
  exact .silent (by decide) (by decide) (shows_outerClass (.silent (by decide) (by decide) .nil))

theorem isTreeOf : IsTreeOf source declarations root := by
  have hright : ∀ way node, root.at? way = some node → node.label.hasError = false ∧ ¬ node.IsFaulty :=
    forall_placed_iff.mp (by decide)
  exact ⟨rfl, shows_root, fun way node hway => (hright way node hway).2, .of_forall hright⟩

/-- A disk with a file that has the source for its text. -/
def disk : FileTree :=
  (⟨∅, []⟩ : FileTree).insert ["A.cs"] (.file source.toUTF8)

theorem read_disk : Refusals.nothing.read disk ⟨"A.cs"⟩ = .ok source.toUTF8 := by
  have hfind : disk.find ⟨"A.cs"⟩ = .ok (["A.cs"], .file source.toUTF8) :=
    FileTree.find_eq_ok_iff.mpr ⟨by rfl, by simp [disk, FileTree.entry?_insert]⟩
  simp only [Refusals.read, FileTree.read, hfind]
  rfl

theorem fields_of_classes :
    Oracle.exposedFields (.knowing source root) ⟨"A.cs"⟩ source = .ok ["a", "b", "d"] ∧
      (Oracle.hasExposedField (.knowing source root) ⟨"A.cs"⟩ : Restricted .nothing OracleAnswer).run disk =
        (.ok true, disk) := by
  have htree : (Parser.knowing source root).tree? source = some root := by simp [Parser.knowing]
  obtain ⟨hfields, horacle⟩ := exposedFields_of_isTreeOf rfl htree isTreeOf
  exact ⟨hfields ⟨"A.cs"⟩, horacle .nothing disk ⟨"A.cs"⟩ read_disk⟩

end NestedTypes

/-! ### A field with a function among the arguments of an attribute -/

namespace HiddenInAttribute

open Node

def source : String := "class A { [Foo(delegate { var q = 2; })] public int a; }"

def field : Node :=
  rule "field_declaration" [] [
    rule "attribute_list" [] [
      token "[" 10,
      rule "attribute" [] [
        leaf "identifier" ["name"] 11 14,
        rule "attribute_argument_list" [] [
          token "(" 14, rule "attribute_argument" [] [functionWithVariable 15], token ")" 38]],
      token "]" 39],
    rule "modifier" [] [token "public" 41],
    rule "variable_declaration" [] [
      leaf "predefined_type" ["type"] 48 51, rule "variable_declarator" [] [leaf "identifier" ["name"] 52 53]],
    token ";" 53]

def root : Node :=
  rule "compilation_unit" [] [shortClass 0 [field] 55]

/-- The way to the declarator in the function. -/
def hiddenWay : Way := [0, 1, 1, 1, 0, 1, 1, 0, 1]

theorem leadsIntoBlock_hiddenWay : field.LeadsIntoBlock hiddenWay :=
  ⟨[0, 1, 1, 1, 0], 1, [1, 0, 1], _, _, rfl, rfl, by decide, rfl, rfl⟩

theorem showsField : ShowsField source field ["public"] ["Foo"] ["a"] where
  kind_eq := rfl
  modifiers_eq := by decide
  attributes_eq := by decide
  names := forall₂_declares (by decide)
  noClass := by decide
  declarators way inner hway hkind := by
    have hplaced : ∀ place ∈ field.placed, place.2.kind = "variable_declarator" →
        field.IsOwnWay place.1 ∨ place.1 = hiddenWay := by decide
    rcases hplaced (way, inner) (mem_placed_iff.mpr hway) hkind with hown | heq
    · exact .inl hown
    · obtain rfl : way = hiddenWay := heq
      exact .inr leadsIntoBlock_hiddenWay

/-- The variable is listed before the field, although the field is all that the declarations expose. -/
theorem variable_listed :
    ShowsField source field ["public"] ["Foo"] ["a"] ∧
      Declaration.exposedNamesOf [.type .classType [.field ["public"] ["Foo"] ["a"]]] = ["a"] ∧
        Oracle.exposedFields (.knowing source root) ⟨"Test.cs"⟩ source = .ok ["q", "a"] :=
  ⟨showsField, by decide, by decide⟩

end HiddenInAttribute

end SceneAudit.CSharp
