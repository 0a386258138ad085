import SceneAudit.CSharp.Exposure
import SceneAudit.Proofs.CSharp.Node
import Mathlib.Data.List.TakeWhile

/-!
# What is looked for at a field

A field is exposed by its modifiers and by the names of its attributes (`Node.isExposed_iff`), of which only
what stands after the last dot counts (`isSerializeName_iff`).  A declarator goes by the text of one node below it
(`Node.declaredName?_eq_some_iff`).
-/

namespace SceneAudit.CSharp

/-! ## The attribute -/

/-- The name of an attribute, as it is written, is that of the attribute which exposes a field: what
stands after its last dot is, but for blanks around it and perhaps `Attribute` behind it. -/
def NamesSerializeField (name : String) : Prop :=
  ∃ front last : List Char, name.toList = front ++ last ∧ (front = [] ∨ front.getLast? = some '.') ∧ '.' ∉ last ∧
    (Text.trim last = "SerializeField".toList ∨ Text.trim last = "SerializeFieldAttribute".toList)

theorem withoutEnd_eq_iff {ending cs kept : List Char} (hkept : ¬ending <:+ kept) :
    withoutEnd ending cs = kept ↔ cs = kept ∨ cs = kept ++ ending := by
  have hsuffix : ending.isSuffixOf cs = true ↔ ending <:+ cs := List.isSuffixOf_iff_suffix
  unfold withoutEnd
  by_cases h : ending <:+ cs
  · rw [if_pos (hsuffix.mpr h)]
    obtain ⟨front, rfl⟩ := h
    have htake : (front ++ ending).take ((front ++ ending).length - ending.length) = front := by simp
    rw [htake]
    constructor
    · rintro rfl
      exact .inr rfl
    · rintro (rfl | heq)
      · exact absurd (List.suffix_append front ending) hkept
      · exact List.append_cancel_right heq
  · rw [if_neg (mt hsuffix.mp h)]
    constructor
    · exact .inl
    · rintro (rfl | rfl)
      · rfl
      · exact absurd (List.suffix_append kept ending) h

theorem takeWhile_reverse_of_split {front last : List Char} (hfront : front = [] ∨ front.getLast? = some '.')
    (hlast : '.' ∉ last) : ((front ++ last).reverse.takeWhile (· != '.')).reverse = last := by
  have hall : ∀ c ∈ last.reverse, (c != '.') = true := by
    intro c hc
    rw [bne_iff_ne]
    rintro rfl
    exact hlast (List.mem_reverse.mp hc)
  rw [List.reverse_append, List.takeWhile_append_of_pos hall]
  have hnone : front.reverse.takeWhile (· != '.') = [] := by
    rcases hfront with rfl | hdot
    · rfl
    · rw [← List.head?_reverse] at hdot
      cases hreverse : front.reverse with
      | nil => rfl
      | cons c cs =>
          rw [hreverse, List.head?_cons, Option.some.injEq] at hdot
          rw [hdot, List.takeWhile_cons_of_neg (by decide)]
  rw [hnone, List.append_nil, List.reverse_reverse]

theorem exists_split (cs : List Char) : ∃ front, cs = front ++ (cs.reverse.takeWhile (· != '.')).reverse ∧
    (front = [] ∨ front.getLast? = some '.') ∧ '.' ∉ (cs.reverse.takeWhile (· != '.')).reverse := by
  refine ⟨(cs.reverse.dropWhile (· != '.')).reverse, ?_, ?_, ?_⟩
  · rw [← List.reverse_append, List.takeWhile_append_dropWhile, List.reverse_reverse]
  · rw [List.getLast?_reverse, List.reverse_eq_nil_iff]
    have hhead := List.head?_dropWhile_not (· != '.') cs.reverse
    cases hdrop : cs.reverse.dropWhile (· != '.') with
    | nil => exact .inl rfl
    | cons c rest =>
        rw [hdrop] at hhead
        exact .inr (by simpa using hhead)
  · intro hmem
    have hne := List.mem_takeWhile_imp (List.mem_reverse.mp hmem)
    simp at hne

/-- The check of an attribute's name says whether it is the one that exposes a field. -/
theorem isSerializeName_iff {name : String} : isSerializeName name = true ↔ NamesSerializeField name := by
  have hkept : ¬attributeSuffix.toList <:+ serializeAttribute.toList := by decide
  have hlong : serializeAttribute.toList ++ attributeSuffix.toList = "SerializeFieldAttribute".toList := by decide
  rw [isSerializeName, decide_eq_true_iff, withoutEnd_eq_iff hkept, hlong]
  constructor
  · intro h
    obtain ⟨front, hsplit, hfront, hlast⟩ := exists_split name.toList
    exact ⟨front, _, hsplit, hfront, hlast, h⟩
  · rintro ⟨front, last, hsplit, hfront, hlast, h⟩
    rwa [lastPart, hsplit, takeWhile_reverse_of_split hfront hlast]

instance (name : String) : Decidable (NamesSerializeField name) :=
  decidable_of_iff (isSerializeName name = true) isSerializeName_iff

example : NamesSerializeField "UnityEngine.SerializeFieldAttribute" := by decide

namespace Node

variable {source : String}

/-! ## Fields -/

/-- The field has the modifier `public` or the attribute that exposes a field. -/
def Exposes (source : String) (field : Node) : Prop :=
  (∃ modifier ∈ field.children, modifier.kind = "modifier" ∧ modifier.text source = "public") ∨
    ∃ list ∈ field.children, list.kind = "attribute_list" ∧
      ∃ attr ∈ list.children, attr.kind = "attribute" ∧
        ∃ name, attr.child? "name" = some name ∧ NamesSerializeField (name.text source)

theorem hasSerializeAttribute_iff {list : Node} :
    list.hasSerializeAttribute source = true ↔
      ∃ attr ∈ list.children, attr.kind = "attribute" ∧
        ∃ name, attr.child? "name" = some name ∧ NamesSerializeField (name.text source) := by
  simp only [hasSerializeAttribute, List.any_eq_true, List.mem_filterMap, List.mem_filter, decide_eq_true_eq,
    isSerializeName_iff]
  constructor
  · rintro ⟨name, ⟨attr, ⟨hmem, hkind⟩, hname⟩, hnames⟩
    exact ⟨attr, hmem, hkind, name, hname, hnames⟩
  · rintro ⟨attr, hmem, hkind, name, hname, hnames⟩
    exact ⟨name, ⟨attr, ⟨hmem, hkind⟩, hname⟩, hnames⟩

theorem isExposed_iff {field : Node} : field.isExposed source = true ↔ field.Exposes source := by
  rw [isExposed, List.any_eq_true]
  constructor
  · rintro ⟨child, hmem, hchild⟩
    split at hchild
    · next hkind => exact .inl ⟨child, hmem, hkind, of_decide_eq_true hchild⟩
    · next hkind => exact .inr ⟨child, hmem, hkind, hasSerializeAttribute_iff.mp hchild⟩
    · exact absurd hchild (by simp)
  · rintro (⟨modifier, hmem, hkind, htext⟩ | ⟨list, hmem, hkind, hattribute⟩)
    · refine ⟨modifier, hmem, ?_⟩
      simp only [hkind]
      exact decide_eq_true htext
    · refine ⟨list, hmem, ?_⟩
      simp only [hkind]
      exact hasSerializeAttribute_iff.mpr hattribute

/-! ## Declarators -/

/-- The node is in the field for the name of the declarator, or else it is the first identifier among the
children with a rule. -/
def IsNameOf (node declarator : Node) : Prop :=
  declarator.child? "name" = some node ∨
    declarator.child? "name" = none ∧
      ∃ before after, declarator.children = before ++ node :: after ∧
        (node.label.isNamed = true ∧ node.kind = "identifier") ∧
          ∀ other ∈ before, ¬ (other.label.isNamed = true ∧ other.kind = "identifier")

/-- The declarator declares a variable of this name. -/
def Declares (source : String) (declarator : Node) (name : String) : Prop :=
  ∃ node : Node, node.IsNameOf declarator ∧ node.text source = name

theorem declaredName?_eq_some_iff {declarator node : Node} :
    declarator.declaredName? = some node ↔ node.IsNameOf declarator := by
  have hfirst : declarator.namedChildren.find? (·.kind = "identifier") = some node ↔
      ∃ before after, declarator.children = before ++ node :: after ∧
        (node.label.isNamed = true ∧ node.kind = "identifier") ∧
          ∀ other ∈ before, ¬ (other.label.isNamed = true ∧ other.kind = "identifier") := by
    rw [namedChildren, List.find?_filter, List.find?_eq_some_iff_append]
    simp only [decide_eq_true_eq, Bool.not_eq_true']
    constructor
    · rintro ⟨hnode, before, after, hsplit, hbefore⟩
      exact ⟨before, after, hsplit, hnode, fun other hother => by simpa [imp_iff_not_or] using hbefore other hother⟩
    · rintro ⟨before, after, hsplit, hnode, hbefore⟩
      exact ⟨hnode, before, after, hsplit, fun other hother => by simpa [imp_iff_not_or] using hbefore other hother⟩
  rw [declaredName?, IsNameOf, Option.or_eq_some_iff, hfirst]

end Node

end SceneAudit.CSharp
