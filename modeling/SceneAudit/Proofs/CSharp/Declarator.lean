import SceneAudit.Oracle
import SceneAudit.Proofs.CSharp.Exposure
import Mathlib.Data.List.Forall2
import Mathlib.Data.List.Perm.Subperm

/-!
# The declarators whose names are exposed

The exposed fields are looked for in the bodies of classes, class by class, and the names of a field are those
of all declarators at or below it, however deep.  Where such a declarator stands is a `Site`: the way to the class,
the place of the field in its body, and the way on from the field.  The names that a source exposes are those of
all sites, each once, in order (`IsListing`).

A field's own declarators are the children of its variable declaration (`Site.IsOwn`).  All others are hidden in a
function among its attributes or in an initial value; their names are listed as well.
-/

namespace SceneAudit.CSharp

/-! ## Sites -/

/-- Where a declarator stands at or below a field in the body of a class. -/
structure Site where
  toClass : Way
  /-- Which child of the class the body is. -/
  body : Nat
  /-- Which child of the body the field is. -/
  field : Nat
  /-- The way from the field to the declarator. -/
  within : Way
deriving DecidableEq

namespace Site

def toField (site : Site) : Way :=
  site.toClass ++ [site.body, site.field]

/-- The way from the root to the declarator. -/
def way (site : Site) : Way :=
  site.toField ++ site.within

/-- Sites are listed class by class, a class before those below it, and those in one class as they stand in the tree. -/
def Before (site other : Site) : Prop :=
  site.toClass < other.toClass ∨ site.toClass = other.toClass ∧ site.way < other.way

theorem Before.asymm {site other : Site} (h : Before site other) : ¬ Before other site := by
  rintro (hclass | ⟨hclass, hway⟩)
  · obtain hother | ⟨hother, -⟩ := h
    · exact List.lt_asymm hclass hother
    · exact List.lt_irrefl _ (hother ▸ hclass)
  · obtain hother | ⟨-, hother⟩ := h
    · exact List.lt_irrefl _ (hclass ▸ hother)
    · exact List.lt_asymm hway hother

end Site

namespace Node

variable (source : String)

/-- The body of a class is its first child in the field for it. -/
def IsBody (body : Node) (index : Nat) (classNode : Node) : Prop :=
  classNode.children[index]? = some body ∧ "body" ∈ body.label.fields ∧
    ∀ earlier other, earlier < index → classNode.children[earlier]? = some other → "body" ∉ other.label.fields

/-- The way leads from the field to a declarator of its own: past its variable declaration, and no further. -/
def IsOwnWay (field : Node) (way : Way) : Prop :=
  ∃ index inner declaration, way = [index, inner] ∧ field.children[index]? = some declaration ∧
    declaration.kind = "variable_declaration"

instance (field : Node) (way : Way) : Decidable (field.IsOwnWay way) :=
  match way with
  | [index, inner] =>
    decidable_of_iff ((field.children[index]?.any (·.kind = "variable_declaration")) = true)
      (by simp [IsOwnWay, Option.any_eq_true])
  | [] => isFalse (by simp [IsOwnWay])
  | [_] => isFalse (by simp [IsOwnWay])
  | _ :: _ :: _ :: _ => isFalse (by simp [IsOwnWay])

end Node

namespace Site

variable (source : String) (root : Node)

/-- The site is that of a declarator of the name, at or below an exposed field that stands directly in the body of
a class. -/
def Exposes (site : Site) (name : String) : Prop :=
  ∃ classNode body field declarator : Node,
    root.at? site.toClass = some classNode ∧ classNode.kind = "class_declaration" ∧
      body.IsBody site.body classNode ∧
        body.children[site.field]? = some field ∧ field.kind = "field_declaration" ∧ field.Exposes source ∧
          field.at? site.within = some declarator ∧ declarator.kind = "variable_declarator" ∧
            declarator.Declares source name

/-- The names at the site count among those that the source exposes. -/
def IsExposed (site : Site) : Prop :=
  ∃ name, site.Exposes source root name

/-- The declarator is one of the field's own. -/
def IsOwn (site : Site) : Prop :=
  ∃ field, root.at? site.toField = some field ∧ field.IsOwnWay site.within

end Site

/-- The names are those at the sites, which are all sites of some sort, each once and in order. -/
structure IsListing (source : String) (root : Node) (sort : Site → Prop) (sites : List Site)
    (names : List String) : Prop where
  sorted : sites.Pairwise Site.Before
  mem_iff : ∀ site, site ∈ sites ↔ sort site
  exposes : List.Forall₂ (fun site name => site.Exposes source root name) sites names

/-! ## The sites of a tree -/

namespace Node

variable (source : String)

/-- The declarators at and below a field, with their names. -/
def fieldSites (toClass : Way) (body index : Nat) (field : Node) : List (Site × String) :=
  (field.placed.filter fun place => place.2.kind = "variable_declarator").filterMap fun place =>
    place.2.declaredName?.map fun name => (⟨toClass, body, index, place.1⟩, name.text source)

/-- The declarators at and below the exposed fields in the body of a class. -/
def bodySites (toClass : Way) (index : Nat) (body : Node) : List (Site × String) :=
  (body.children.zipIdx.filter fun member =>
      member.1.kind = "field_declaration" && member.1.isExposed source).flatMap
    fun member => member.1.fieldSites source toClass index member.2

/-- The body of a class, with its place. -/
def placedBody? (classNode : Node) : Option (Nat × Node) :=
  (classNode.children.findIdx? (·.label.fields.contains "body")).bind fun index =>
    classNode.children[index]?.map (index, ·)

def classSites (toClass : Way) (classNode : Node) : List (Site × String) :=
  match classNode.placedBody? with
  | none => []
  | some (index, body) => body.bodySites source toClass index

def sites (root : Node) : List (Site × String) :=
  (root.placed.filter fun place => place.2.kind = "class_declaration").flatMap fun place =>
    place.2.classSites source place.1

variable {source} {root : Node}

theorem map_snd_fieldSites (toClass : Way) (body index : Nat) (field : Node) :
    (field.fieldSites source toClass body index).map Prod.snd = field.declaredNames source := by
  rw [fieldSites, declaredNames, ofKind_eq, List.map_filterMap, List.filterMap_map, List.map_filterMap]
  apply List.filterMap_congr
  intro place _
  rw [Option.map_map]
  rfl

theorem map_snd_bodySites (toClass : Way) (index : Nat) (body : Node) :
    (body.bodySites source toClass index).map Prod.snd =
      (body.children.filter fun member =>
        member.kind = "field_declaration" && member.isExposed source).flatMap (·.declaredNames source) := by
  conv_rhs => rw [← List.zipIdx_map_fst 0 body.children, List.filter_map, List.flatMap_map]
  rw [bodySites, List.map_flatMap]
  exact List.flatMap_congr fun member _ => map_snd_fieldSites toClass index member.2 member.1

theorem map_snd_placedBody? (classNode : Node) :
    classNode.placedBody?.map Prod.snd = classNode.child? "body" := by
  rw [placedBody?, child?, List.find?_eq_bind_findIdx?_getElem?, Option.map_bind]
  congr 1
  funext index
  rw [Function.comp_apply, Option.map_map, Function.comp_def, Option.map_id']

theorem map_snd_classSites (toClass : Way) (classNode : Node) :
    (classNode.classSites source toClass).map Prod.snd = classNode.exposedNames source := by
  rw [classSites, exposedNames, ← map_snd_placedBody?]
  cases classNode.placedBody? with
  | none => rfl
  | some place => exact map_snd_bodySites toClass place.1 place.2

theorem map_snd_sites (root : Node) : (root.sites source).map Prod.snd = root.exposedFields source := by
  rw [sites, exposedFields, ofKind_eq, List.map_flatMap, List.flatMap_map]
  exact List.flatMap_congr fun place _ => map_snd_classSites place.1 place.2

/-! ### Which sites there are -/

theorem mem_fieldSites_iff {toClass : Way} {body index : Nat} {field : Node} {site : Site} {name : String} :
    (site, name) ∈ field.fieldSites source toClass body index ↔
      (site.toClass = toClass ∧ site.body = body ∧ site.field = index) ∧
        ∃ declarator, field.at? site.within = some declarator ∧ declarator.kind = "variable_declarator" ∧
          declarator.Declares source name := by
  simp only [fieldSites, List.mem_filterMap, List.mem_filter, Option.map_eq_some_iff, decide_eq_true_eq,
    declaredName?_eq_some_iff, Prod.mk.injEq, Prod.exists, mem_placed_iff]
  constructor
  · rintro ⟨within, declarator, ⟨hway, hkind⟩, node, hnode, rfl, htext⟩
    exact ⟨⟨rfl, rfl, rfl⟩, declarator, hway, hkind, node, hnode, htext⟩
  · rintro ⟨⟨rfl, rfl, rfl⟩, declarator, hway, hkind, node, hnode, htext⟩
    exact ⟨site.within, declarator, ⟨hway, hkind⟩, node, hnode, rfl, htext⟩

theorem mem_bodySites_iff {toClass : Way} {index : Nat} {body : Node} {site : Site} {name : String} :
    (site, name) ∈ body.bodySites source toClass index ↔
      (site.toClass = toClass ∧ site.body = index) ∧
        ∃ field declarator : Node, body.children[site.field]? = some field ∧ field.kind = "field_declaration" ∧
          field.Exposes source ∧ field.at? site.within = some declarator ∧
            declarator.kind = "variable_declarator" ∧ declarator.Declares source name := by
  simp only [bodySites, List.mem_flatMap, List.mem_filter, List.mem_zipIdx_iff_getElem?, Bool.and_eq_true,
    decide_eq_true_eq, isExposed_iff, mem_fieldSites_iff, Prod.exists]
  constructor
  · rintro ⟨field, place, ⟨hfield, hkind, hexposes⟩, ⟨hclass, hbody, rfl⟩, declarator, hdeclarator⟩
    exact ⟨⟨hclass, hbody⟩, field, declarator, hfield, hkind, hexposes, hdeclarator⟩
  · rintro ⟨⟨hclass, hbody⟩, field, declarator, hfield, hkind, hexposes, hdeclarator⟩
    exact ⟨field, site.field, ⟨hfield, hkind, hexposes⟩, ⟨hclass, hbody, rfl⟩, declarator, hdeclarator⟩

theorem placedBody?_eq_some_iff {body classNode : Node} {index : Nat} :
    classNode.placedBody? = some (index, body) ↔ body.IsBody index classNode := by
  simp only [placedBody?, Option.bind_eq_some_iff, Option.map_eq_some_iff, Prod.mk.injEq,
    List.findIdx?_eq_some_iff_getElem, IsBody]
  constructor
  · rintro ⟨_, ⟨hindex, hfields, hearlier⟩, _, hbody, rfl, rfl⟩
    rw [List.getElem?_eq_getElem hindex, Option.some.injEq] at hbody
    refine ⟨by rw [List.getElem?_eq_getElem hindex, hbody], by simpa [hbody] using hfields, ?_⟩
    intro earlier other hlt hother
    obtain ⟨-, rfl⟩ := List.getElem?_eq_some_iff.mp hother
    simpa using hearlier earlier hlt
  · rintro ⟨hbody, hfields, hearlier⟩
    obtain ⟨hindex, rfl⟩ := List.getElem?_eq_some_iff.mp hbody
    refine ⟨index, ⟨hindex, by simpa using hfields, fun earlier hlt => ?_⟩, _, hbody, rfl, rfl⟩
    simpa using hearlier earlier _ hlt (List.getElem?_eq_getElem (hlt.trans hindex))

theorem mem_classSites_iff {toClass : Way} {classNode : Node} {site : Site} {name : String} :
    (site, name) ∈ classNode.classSites source toClass ↔
      ∃ body : Node, body.IsBody site.body classNode ∧ (site, name) ∈ body.bodySites source toClass site.body := by
  simp only [classSites, ← placedBody?_eq_some_iff]
  cases classNode.placedBody? with
  | none => simp
  | some place =>
      obtain ⟨index, body⟩ := place
      simp only [Option.some.injEq, Prod.mk.injEq]
      constructor
      · intro hmem
        obtain rfl := (mem_bodySites_iff.mp hmem).1.2
        exact ⟨body, ⟨rfl, rfl⟩, hmem⟩
      · rintro ⟨_, ⟨rfl, rfl⟩, hmem⟩
        exact hmem

theorem mem_sites_iff {site : Site} {name : String} :
    (site, name) ∈ root.sites source ↔ site.Exposes source root name := by
  simp only [sites, List.mem_flatMap, List.mem_filter, Prod.exists, mem_placed_iff, decide_eq_true_eq,
    mem_classSites_iff, mem_bodySites_iff]
  constructor
  · rintro ⟨toClass, classNode, ⟨hclass, hkind⟩, body, hbody, ⟨rfl, -⟩, field, declarator, hfield⟩
    exact ⟨classNode, body, field, declarator, hclass, hkind, hbody, hfield⟩
  · rintro ⟨classNode, body, field, declarator, hclass, hkind, hbody, hfield⟩
    exact ⟨site.toClass, classNode, ⟨hclass, hkind⟩, body, hbody, ⟨rfl, trivial⟩, field, declarator, hfield⟩

/-! ### In which order -/

theorem pairwise_fieldSites (toClass : Way) (body index : Nat) (field : Node) :
    (field.fieldSites source toClass body index).Pairwise fun first second => first.1.Before second.1 := by
  rw [fieldSites, List.pairwise_filterMap]
  apply (field.pairwise_placed.filter _).imp
  intro first second hlt site hsite other hother
  obtain ⟨node, -, rfl⟩ := Option.map_eq_some_iff.mp hsite
  obtain ⟨node, -, rfl⟩ := Option.map_eq_some_iff.mp hother
  exact .inr ⟨rfl, List.append_left_lt hlt⟩

theorem pairwise_bodySites (toClass : Way) (index : Nat) (body : Node) :
    (body.bodySites source toClass index).Pairwise fun first second => first.1.Before second.1 := by
  have hplaces : body.children.zipIdx.Pairwise fun first second => first.2 < second.2 := by
    rw [← List.pairwise_map (f := Prod.snd) (R := (· < ·)), List.zipIdx_map_snd]
    exact List.pairwise_lt_range'
  rw [bodySites, List.pairwise_flatMap]
  refine ⟨fun member _ => pairwise_fieldSites toClass index member.2 member.1, ?_⟩
  apply (hplaces.filter _).imp
  intro first second hlt site hsite other hother
  obtain ⟨⟨hclass, hbody, hfield⟩, -⟩ := mem_fieldSites_iff.mp hsite
  obtain ⟨⟨hotherClass, hotherBody, hotherField⟩, -⟩ := mem_fieldSites_iff.mp hother
  refine .inr ⟨hclass.trans hotherClass.symm, ?_⟩
  -- the ways part at the fields
  rw [Site.way, Site.way, Site.toField, Site.toField, hclass, hotherClass, hbody, hotherBody, hfield, hotherField,
    List.append_assoc, List.append_assoc]
  exact List.append_left_lt (List.cons_lt_cons_iff.mpr (.inr ⟨rfl, List.cons_lt_cons_iff.mpr (.inl hlt)⟩))

theorem pairwise_sites (root : Node) :
    (root.sites source).Pairwise fun first second => first.1.Before second.1 := by
  rw [sites, List.pairwise_flatMap]
  constructor
  · intro place _
    unfold classSites
    cases place.2.placedBody? with
    | none => exact .nil
    | some body => exact pairwise_bodySites place.1 body.1 body.2
  · apply (root.pairwise_placed.filter _).imp
    intro first second hlt site hsite other hother
    obtain ⟨body, -, hsite⟩ := mem_classSites_iff.mp hsite
    obtain ⟨otherBody, -, hother⟩ := mem_classSites_iff.mp hother
    left
    rw [(mem_bodySites_iff.mp hsite).1.1, (mem_bodySites_iff.mp hother).1.1]
    exact hlt

end Node

/-! ## Listings -/

section Listing

variable {source : String} {root : Node}

/-- The names that a tree exposes are those at its sites. -/
theorem isListing_sites (source : String) (root : Node) :
    IsListing source root (Site.IsExposed source root) ((root.sites source).map Prod.fst)
      (root.exposedFields source) where
  sorted := List.pairwise_map.mpr (Node.pairwise_sites root)
  mem_iff site := by
    simp only [List.mem_map, Prod.exists, exists_and_right, exists_eq_right, Node.mem_sites_iff, Site.IsExposed]
  exposes := by
    rw [← Node.map_snd_sites, List.forall₂_map_left_iff, List.forall₂_map_right_iff, List.forall₂_same]
    exact fun place hplace => Node.mem_sites_iff.mp hplace

theorem IsListing.nodup {sort : Site → Prop} {sites : List Site} {names : List String}
    (h : IsListing source root sort sites names) : sites.Nodup :=
  h.sorted.imp fun hbefore heq => (heq ▸ hbefore).asymm (heq ▸ hbefore)

/-- The names at all sites are those of the fields' own declarators only if there are no others. -/
theorem IsListing.own_iff {sites : List Site} {names : List String}
    (h : IsListing source root (Site.IsExposed source root) sites names) :
    (∃ own, IsListing source root (fun site => site.IsExposed source root ∧ site.IsOwn root) own names) ↔
      ∀ site : Site, site.IsExposed source root → site.IsOwn root := by
  constructor
  · rintro ⟨own, hown⟩ site hexposed
    have hsubset : own ⊆ sites := fun other hother => (h.mem_iff other).mpr ((hown.mem_iff other).mp hother).1
    have hlength : sites.length ≤ own.length := by rw [h.exposes.length_eq, hown.exposes.length_eq]
    have hperm := (List.subperm_of_subset hown.nodup hsubset).perm_of_length_le hlength
    have hsite : site ∈ own := hperm.mem_iff.mpr ((h.mem_iff site).mpr hexposed)
    exact ((hown.mem_iff site).mp hsite).2
  · intro hall
    refine ⟨sites, h.sorted, fun site => ?_, h.exposes⟩
    rw [h.mem_iff]
    exact ⟨fun hexposed => ⟨hexposed, hall site hexposed⟩, And.left⟩

end Listing

/-! ## Sources -/

theorem exposedFields_eq_ok_iff {parser : Parser} {path : Path} {source : String} {names : List String} :
    Oracle.exposedFields parser path source = .ok names ↔
      parser.grammar = .ok () ∧ ∃ root, parser.tree? source = some root ∧ root.firstError? = none ∧
        root.exposedFields source = names := by
  unfold Oracle.exposedFields
  cases parser.grammar with
  | error cause => simp [Except.mapError, bind, Except.bind]
  | ok loaded =>
      cases parser.tree? source with
      | none => simp [Except.mapError, bind, Except.bind]
      | some root =>
          cases hroot : root.firstError? with
          | some error => simp [Except.mapError, bind, Except.bind, hroot]
          | none => simp [Except.mapError, bind, Except.bind, hroot]

/-- **The names are those of all declarators** at and below the exposed fields, class by class and field by
field, and not only those of the fields' own: they are these if and only if there are no others. -/
theorem exposedFields_listsDeclarators {parser : Parser} {path : Path} {source : String} {names : List String}
    (h : Oracle.exposedFields parser path source = .ok names) :
    ∃ root, parser.tree? source = some root ∧
      (∃ sites, IsListing source root (Site.IsExposed source root) sites names) ∧
        ((∃ sites, IsListing source root (fun site => site.IsExposed source root ∧ site.IsOwn root) sites names) ↔
          ∀ site : Site, site.IsExposed source root → site.IsOwn root) := by
  obtain ⟨-, root, hroot, -, rfl⟩ := exposedFields_eq_ok_iff.mp h
  have hlisting := isListing_sites source root
  exact ⟨root, hroot, ⟨_, hlisting⟩, hlisting.own_iff⟩

namespace TwoDeclarators

open Node

def source : String := "class A { public int a, b; }"

def root : Node :=
  rule "compilation_unit" [] [rule "class_declaration" [] [
    token "class" 0, leaf "identifier" ["name"] 6 7,
    braced "declaration_list" ["body"] 8 [
      rule "field_declaration" [] [
        rule "modifier" [] [token "public" 10],
        rule "variable_declaration" [] [
          leaf "predefined_type" ["type"] 17 20,
          rule "variable_declarator" [] [leaf "identifier" ["name"] 21 22],
          token "," 22,
          rule "variable_declarator" [] [leaf "identifier" ["name"] 24 25]],
        token ";" 25]] 27]]

theorem listsDeclarators :
    Oracle.exposedFields (.knowing source root) ⟨"Test.cs"⟩ source = .ok ["a", "b"] ∧
      ∃ tree, (Parser.knowing source root).tree? source = some tree ∧
        (∃ sites, IsListing source tree (Site.IsExposed source tree) sites ["a", "b"]) ∧
          ((∃ sites, IsListing source tree (fun site => site.IsExposed source tree ∧ site.IsOwn tree) sites
              ["a", "b"]) ↔
            ∀ site : Site, site.IsExposed source tree → site.IsOwn tree) := by
  have hnames : Oracle.exposedFields (.knowing source root) ⟨"Test.cs"⟩ source = .ok ["a", "b"] := by decide
  exact ⟨hnames, exposedFields_listsDeclarators hnames⟩

end TwoDeclarators

/-! ### A field whose initial value is a function with a variable of its own -/

/-- A function with the one statement `var q = 2;`, from this offset on. -/
def Node.functionWithVariable (start : Nat) : Node :=
  rule "anonymous_method_expression" [] [
    token "delegate" start,
    braced "block" [] (start + 9) [
      rule "local_declaration_statement" [] [
        rule "variable_declaration" [] [
          rule "implicit_type" ["type"] [token "var" (start + 11)],
          rule "variable_declarator" [] [
            leaf "identifier" ["name"] (start + 15) (start + 16), token "=" (start + 17),
            leaf "integer_literal" [] (start + 19) (start + 20)]],
        token ";" (start + 20)]] (start + 22)]

namespace HiddenLocal

open Node

def source : String := "class A { public System.Action a = delegate { var q = 2; }; }"

def root : Node :=
  rule "compilation_unit" [] [rule "class_declaration" [] [
    token "class" 0, leaf "identifier" ["name"] 6 7,
    braced "declaration_list" ["body"] 8 [
      rule "field_declaration" [] [
        rule "modifier" [] [token "public" 10],
        rule "variable_declaration" [] [
          rule "qualified_name" ["type"] [
            leaf "identifier" ["qualifier"] 17 23, token "." 23, leaf "identifier" ["name"] 24 30],
          rule "variable_declarator" [] [
            leaf "identifier" ["name"] 31 32, token "=" 33, functionWithVariable 35]],
        token ";" 58]] 60]]

/-- The variable of the function. -/
def site : Site where
  toClass := [0]
  body := 2
  field := 1
  within := [1, 1, 2, 1, 1, 0, 1]

theorem exposes_site : site.Exposes source root "q" :=
  mem_sites_iff.mp (by decide)

theorem not_isOwn_site : ¬ site.IsOwn root := by
  rintro ⟨field, -, index, inner, declaration, hway, -⟩
  exact absurd (congrArg List.length hway) (by simp [site])

theorem local_listed :
    Oracle.exposedFields (.knowing source root) ⟨"Test.cs"⟩ source = .ok ["a", "q"] ∧
      site.Exposes source root "q" ∧ ¬ site.IsOwn root ∧
        ¬ ∃ sites, IsListing source root (fun site => site.IsExposed source root ∧ site.IsOwn root) sites
          ["a", "q"] := by
  have hnames : root.exposedFields source = ["a", "q"] := by decide
  have hlisting := isListing_sites source root
  rw [hnames] at hlisting
  refine ⟨by decide, exposes_site, not_isOwn_site, fun hown => ?_⟩
  exact not_isOwn_site (hlisting.own_iff.mp hown site ⟨"q", exposes_site⟩)

end HiddenLocal

end SceneAudit.CSharp
