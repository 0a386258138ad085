import SceneAudit.Proofs.CSharp.Declarator

/-!
# Exposed names and the order of the source

A node covers those below it, which stand one behind the other (`Node.InPlace`).  So what comes later in a tree does
not start earlier in the source (`Node.InPlace.start_le_of_lt`).  The names of one class are listed in that order, and
those of different classes, too, unless one class is inside the other: all names of the outer one come first, also
those of fields behind the inner one.
-/

namespace SceneAudit.CSharp

/-! ## Places in the source -/

namespace Node

/-- Each node covers those below it, and they stand one behind the other. -/
def InPlace (root : Node) : Prop :=
  ∀ way node, root.at? way = some node →
    node.label.start ≤ node.label.stop ∧
      (∀ child ∈ node.children, node.label.start ≤ child.label.start ∧ child.label.stop ≤ node.label.stop) ∧
        node.children.Pairwise fun first second => first.label.stop ≤ second.label.start

variable {root node other : Node} {way otherWay : Way}

instance (root : Node) : Decidable root.InPlace :=
  decidable_of_iff _ forall_placed_iff

namespace InPlace

theorem child (h : root.InPlace) {index : Nat} {child : Node} (hchild : root.children[index]? = some child) :
    child.InPlace := by
  intro way node hway
  exact h (index :: way) node (at?_cons_eq_some_iff.mpr ⟨child, hchild, hway⟩)

/-- A node covers all nodes below it. -/
theorem covers (h : root.InPlace) (hway : root.at? way = some node) :
    root.label.start ≤ node.label.start ∧ node.label.stop ≤ root.label.stop := by
  induction way generalizing root with
  | nil =>
      obtain rfl := Option.some.inj hway
      exact ⟨le_refl _, le_refl _⟩
  | cons index way ih =>
      obtain ⟨child, hchild, hbelow⟩ := at?_cons_eq_some_iff.mp hway
      obtain ⟨-, hcovers, -⟩ := h [] root rfl
      obtain ⟨hstart, hstop⟩ := hcovers child (List.mem_of_getElem? hchild)
      obtain ⟨hstartBelow, hstopBelow⟩ := ih (h.child hchild) hbelow
      exact ⟨hstart.trans hstartBelow, hstopBelow.trans hstop⟩

theorem start_le_stop (h : root.InPlace) (hway : root.at? way = some node) : node.label.start ≤ node.label.stop :=
  (h way node hway).1

/-- What comes later in the tree does not start earlier in the source. -/
theorem start_le_of_lt (h : root.InPlace) (hway : root.at? way = some node) (hother : root.at? otherWay = some other)
    (hlt : way < otherWay) : node.label.start ≤ other.label.start := by
  induction way generalizing root otherWay with
  | nil =>
      obtain rfl := Option.some.inj hway
      exact (h.covers hother).1
  | cons index way ih =>
      cases otherWay with
      | nil => exact absurd hlt (List.not_lt_nil _)
      | cons otherIndex otherWay =>
          obtain ⟨child, hchild, hbelow⟩ := at?_cons_eq_some_iff.mp hway
          obtain ⟨otherChild, hotherChild, hotherBelow⟩ := at?_cons_eq_some_iff.mp hother
          rcases List.cons_lt_cons_iff.mp hlt with hindex | ⟨rfl, hrest⟩
          · -- the ways part here, so that all of the one child stands before the other child
            obtain ⟨-, -, hpairwise⟩ := h [] root rfl
            obtain ⟨hlength, rfl⟩ := List.getElem?_eq_some_iff.mp hchild
            obtain ⟨hotherLength, rfl⟩ := List.getElem?_eq_some_iff.mp hotherChild
            calc node.label.start
                ≤ node.label.stop := (h.child hchild).start_le_stop hbelow
              _ ≤ root.children[index].label.stop := ((h.child hchild).covers hbelow).2
              _ ≤ root.children[otherIndex].label.start :=
                List.pairwise_iff_getElem.mp hpairwise index otherIndex hlength hotherLength hindex
              _ ≤ other.label.start := ((h.child hotherChild).covers hotherBelow).1
          · obtain rfl := Option.some.inj (hchild.symm.trans hotherChild)
            exact ih (h.child hchild) hbelow hotherBelow hrest

end InPlace

end Node

/-! ## The order of sites -/

/-- Ways that part do so for all that is below them. -/
theorem append_lt_append_of_not_prefix {front other : Way} (hlt : front < other) (hparts : ¬ front <+: other)
    (back otherBack : Way) : front ++ back < other ++ otherBack := by
  induction front generalizing other with
  | nil => exact absurd List.nil_prefix hparts
  | cons index front ih =>
      cases other with
      | nil => exact absurd hlt (List.not_lt_nil _)
      | cons otherIndex other =>
          rw [List.cons_append, List.cons_append, List.cons_lt_cons_iff]
          rcases List.cons_lt_cons_iff.mp hlt with hindex | ⟨rfl, hrest⟩
          · exact .inl hindex
          · refine .inr ⟨rfl, ih hrest fun hfront => hparts ?_⟩
            exact List.cons_prefix_cons.mpr ⟨rfl, hfront⟩

namespace Site

/-- Where the declarator starts in the source. -/
def start (root : Node) (site : Site) : Nat :=
  ((root.at? site.way).map (·.label.start)).getD 0

/-- The class of the first site is around that of the second. -/
def IsOutside (site other : Site) : Prop :=
  site.toClass <+: other.toClass ∧ site.toClass ≠ other.toClass

variable {source : String} {root : Node} {site other : Site}

theorem IsExposed.exists_declarator (h : site.IsExposed source root) :
    ∃ declarator, root.at? site.way = some declarator := by
  obtain ⟨name, classNode, body, field, declarator, hclass, -, ⟨hbody, -⟩, hfield, -, -, hdeclarator, -⟩ := h
  have htoField : root.at? site.toField = some field := by
    rw [toField, Node.at?_append_of_at? hclass]
    exact Node.at?_cons_eq_some_iff.mpr ⟨body, hbody, Node.at?_cons_eq_some_iff.mpr ⟨field, hfield, rfl⟩⟩
  exact ⟨declarator, by rw [way, Node.at?_append_of_at? htoField, hdeclarator]⟩

theorem start_le_of_lt (hroot : root.InPlace) (hsite : site.IsExposed source root)
    (hother : other.IsExposed source root) (hlt : site.way < other.way) : site.start root ≤ other.start root := by
  obtain ⟨declarator, hdeclarator⟩ := hsite.exists_declarator
  obtain ⟨otherDeclarator, hotherDeclarator⟩ := hother.exists_declarator
  rw [start, start, hdeclarator, hotherDeclarator]
  exact hroot.start_le_of_lt hdeclarator hotherDeclarator hlt

/-- The class of a site that is listed first is around that of the other, or its declarator comes first in the tree. -/
theorem Before.isOutside_or_way_lt (h : site.Before other) : site.IsOutside other ∨ site.way < other.way := by
  rcases h with hclass | ⟨-, hway⟩
  · by_cases hbelow : site.toClass <+: other.toClass
    · exact .inl ⟨hbelow, fun heq => List.lt_irrefl _ (heq ▸ hclass)⟩
    · right
      rw [way, way, toField, toField, List.append_assoc, List.append_assoc]
      exact append_lt_append_of_not_prefix hclass hbelow _ _
  · exact .inr hway

/-- A class around another is listed first. -/
theorem IsOutside.before (h : site.IsOutside other) : site.Before other := by
  obtain ⟨⟨rest, hrest⟩, hne⟩ := h
  left
  cases rest with
  | nil => exact absurd (by simpa using hrest) hne
  | cons index rest =>
      rw [← hrest]
      conv_lhs => rw [← List.append_nil site.toClass]
      exact List.append_left_lt (List.nil_lt_cons _ _)

end Site

namespace IsListing

variable {source : String} {root : Node} {sites : List Site} {names : List String}

/-- The names of each class are listed as its declarators stand in the source. -/
theorem start_le_of_toClass_eq (h : IsListing source root (Site.IsExposed source root) sites names)
    (hroot : root.InPlace) :
    sites.Pairwise fun site other => site.toClass = other.toClass → site.start root ≤ other.start root := by
  refine h.sorted.imp_of_mem fun hsite hother hbefore hclass => ?_
  rcases hbefore with hlt | ⟨-, hway⟩
  · exact absurd (hclass ▸ hlt) (List.lt_irrefl _)
  · exact Site.start_le_of_lt hroot ((h.mem_iff _).mp hsite) ((h.mem_iff _).mp hother) hway

/-- The names are listed in the order of the source just if none of a class stands behind one of a class inside it. -/
theorem inOrder_iff (h : IsListing source root (Site.IsExposed source root) sites names) (hroot : root.InPlace) :
    (sites.Pairwise fun site other => site.start root ≤ other.start root) ↔
      ∀ site ∈ sites, ∀ other ∈ sites, site.IsOutside other → site.start root ≤ other.start root := by
  constructor
  · intro hpairwise site hsite other hother houtside
    obtain ⟨index, hindex, rfl⟩ := List.mem_iff_getElem.mp hsite
    obtain ⟨otherIndex, hotherIndex, rfl⟩ := List.mem_iff_getElem.mp hother
    rcases lt_trichotomy index otherIndex with hlt | rfl | hgt
    · exact List.pairwise_iff_getElem.mp hpairwise index otherIndex hindex hotherIndex hlt
    · exact absurd rfl houtside.2
    · -- the outer class would be listed behind the inner one
      exact absurd houtside.before
        (List.pairwise_iff_getElem.mp h.sorted otherIndex index hotherIndex hindex hgt).asymm
  · intro houtside
    refine h.sorted.imp_of_mem fun hsite hother hbefore => ?_
    rcases hbefore.isOutside_or_way_lt with hout | hway
    · exact houtside _ hsite _ hother hout
    · exact Site.start_le_of_lt hroot ((h.mem_iff _).mp hsite) ((h.mem_iff _).mp hother) hway

end IsListing

/-! ## Sources -/

/-- **The names are listed class by class**, a class before those inside it, and those of each class in the order of
the source.  All of them are in that order if and only if none of a class stands behind one of a class inside it. -/
theorem exposedFields_listsByClass {parser : Parser} {path : Path} {source : String} {names : List String}
    (hplaces : ∀ root, parser.tree? source = some root → root.InPlace)
    (h : Oracle.exposedFields parser path source = .ok names) :
    ∃ root sites, parser.tree? source = some root ∧ IsListing source root (Site.IsExposed source root) sites names ∧
      (sites.Pairwise fun site other => site.toClass = other.toClass → site.start root ≤ other.start root) ∧
        ((sites.Pairwise fun site other => site.start root ≤ other.start root) ↔
          ∀ site ∈ sites, ∀ other ∈ sites, site.IsOutside other → site.start root ≤ other.start root) := by
  obtain ⟨-, root, htree, -, rfl⟩ := exposedFields_eq_ok_iff.mp h
  have hroot := hplaces root htree
  have hlisting := isListing_sites source root
  exact ⟨root, _, htree, hlisting, hlisting.start_le_of_toClass_eq hroot, hlisting.inOrder_iff hroot⟩

/-! ### Classes inside classes -/

namespace Node

/-- A public field of one letter, from this offset on. -/
def publicInt (start : Nat) : Node :=
  rule "field_declaration" [] [
    rule "modifier" [] [token "public" start],
    rule "variable_declaration" [] [
      leaf "predefined_type" ["type"] (start + 7) (start + 10),
      rule "variable_declarator" [] [leaf "identifier" ["name"] (start + 11) (start + 12)]],
    token ";" (start + 12)]

/-- A class with a name of one letter, from this offset on, where the brace behind its members is at the other. -/
def shortClass (start : Nat) (members : List Node) (brace : Nat) : Node :=
  rule "class_declaration" [] [
    token "class" start, leaf "identifier" ["name"] (start + 6) (start + 7),
    braced "declaration_list" ["body"] (start + 8) members brace]

end Node

namespace NestedLast

open Node

def source : String := "class A { public int y; class B { public int x; } }"

def root : Node :=
  rule "compilation_unit" [] [shortClass 0 [publicInt 10, shortClass 24 [publicInt 34] 48] 50]

theorem inPlace (tree : Node) (h : (Parser.knowing source root).tree? source = some tree) : tree.InPlace := by
  obtain rfl : root = tree := by simpa [Parser.knowing] using h
  decide

theorem listsByClass :
    Oracle.exposedFields (.knowing source root) ⟨"Test.cs"⟩ source = .ok ["y", "x"] ∧
      ∃ tree sites, (Parser.knowing source root).tree? source = some tree ∧
        IsListing source tree (Site.IsExposed source tree) sites ["y", "x"] ∧
          (sites.Pairwise fun site other => site.toClass = other.toClass → site.start tree ≤ other.start tree) ∧
            ((sites.Pairwise fun site other => site.start tree ≤ other.start tree) ↔
              ∀ site ∈ sites, ∀ other ∈ sites, site.IsOutside other → site.start tree ≤ other.start tree) := by
  have hnames : Oracle.exposedFields (.knowing source root) ⟨"Test.cs"⟩ source = .ok ["y", "x"] := by decide
  exact ⟨hnames, exposedFields_listsByClass inPlace hnames⟩

end NestedLast

namespace NestedFirst

open Node

def source : String := "class A { class B { public int x; } public int y; }"

def root : Node :=
  rule "compilation_unit" [] [shortClass 0 [shortClass 10 [publicInt 20] 34, publicInt 36] 50]

def outerSite : Site where
  toClass := [0]
  body := 2
  field := 2
  within := [1, 1]

def innerSite : Site where
  toClass := [0, 2, 1]
  body := 2
  field := 1
  within := [1, 1]

theorem sites_root : root.sites source = [(outerSite, "y"), (innerSite, "x")] := by decide

theorem not_inOrder :
    Oracle.exposedFields (.knowing source root) ⟨"Test.cs"⟩ source = .ok ["y", "x"] ∧ root.InPlace ∧
      ∀ sites, List.Forall₂ (fun site name => Site.Exposes source root site name) sites ["y", "x"] →
        ¬ sites.Pairwise fun site other => site.start root ≤ other.start root := by
  refine ⟨by decide, by decide, fun sites hsites hpairwise => ?_⟩
  rcases hsites with _ | ⟨hy, _ | ⟨hx, _ | _⟩⟩
  rw [← mem_sites_iff, sites_root] at hy hx
  obtain ⟨rfl, rfl⟩ : _ = outerSite ∧ _ = innerSite := ⟨by simpa using hy, by simpa using hx⟩
  -- the field of the inner class stands first in the source
  exact absurd hpairwise (by decide)

end NestedFirst

end SceneAudit.CSharp
