import SceneAudit.Proofs.Digraph.ClosedWalk
import SceneAudit.Proofs.Hierarchy.CompleteDump
import SceneAudit.Proofs.Text.ByteOrder
import Mathlib.Data.List.Forall2

/-!
# Which cycles are reported, and in which order

The cycles of a scene are the classes of mutually reachable transforms that have a closed walk
along the child links (`findCycles_isCycleReport`).  They are listed by the bytes of their file
identifiers, so nothing in the list depends on the order of the records or of their children:
what counts is which links there are (`childLink_iff`), and rearranging keeps them
(`Rearranged.childLink_eq`).
-/

namespace SceneAudit

open Relation

/-! ## The order of file identifiers by their bytes -/

namespace FileId

/-- The UTF-8 form of the identifier. -/
def bytes (id : FileId) : List UInt8 :=
  Text.bytes id.text

theorem compare_eq_lt_iff {first second : FileId} :
    compare first second = .lt ↔ first.bytes < second.bytes :=
  Text.compare_eq_lt_iff_bytes_lt

theorem compare_eq_eq_iff {first second : FileId} :
    compare first second = .eq ↔ first.bytes = second.bytes := by
  rw [bytes, bytes, Text.bytes_inj]
  constructor
  · intro h
    rw [Std.LawfulEqCmp.eq_of_compare h]
  · intro h
    obtain rfl : first = second := congrArg FileId.mk h
    exact Std.ReflCmp.compare_self

theorem compare_list_eq_lt_iff {first second : List FileId} :
    compare first second = .lt ↔ first.map bytes < second.map bytes := by
  induction first generalizing second with
  | nil =>
      cases second with
      | nil => simp
      | cons id second => simp
  | cons id first ih =>
      cases second with
      | nil => simp
      | cons other second =>
          rw [List.compare_cons_cons, Ordering.then_eq_lt, compare_eq_lt_iff, compare_eq_eq_iff, ih,
            List.map_cons, List.map_cons, List.cons_lt_cons_iff]

end FileId

/-! ## The report -/

/-- The lists are the classes of mutually reachable vertices that have a closed walk, in
ascending order. -/
structure IsCycleReport (edge : FileId → FileId → Prop) (cycles : List (List FileId)) : Prop where
  mem_iff : ∀ members, members ∈ cycles ↔
    members.Pairwise (fun first second => first.bytes < second.bytes) ∧
      (∃ vertex, ∀ other, other ∈ members ↔ MutuallyReachable edge vertex other) ∧
        ∃ walk, IsClosedWalk edge walk ∧ walk ⊆ members
  ascending : cycles.Pairwise fun first second => first.map FileId.bytes < second.map FileId.bytes
  disjoint : cycles.Pairwise List.Disjoint
  /-- No closed walk leaves its class. -/
  exists_mem : ∀ walk, IsClosedWalk edge walk → ∃ members ∈ cycles, walk ⊆ members
  reachable : ∀ members ∈ cycles, ∀ first ∈ members, ∀ second ∈ members,
    TransGen edge first second
  /-- A single vertex has an edge to itself. -/
  edge_of_singleton : ∀ vertex, [vertex] ∈ cycles → edge vertex vertex

theorem Digraph.IsCycleList.isCycleReport {edge : FileId → FileId → Prop}
    {cycles : List (List FileId)} (h : Digraph.IsCycleList edge cycles) :
    IsCycleReport edge cycles where
  mem_iff := by
    intro members
    constructor
    · intro hmembers
      obtain ⟨hclass, hwalk⟩ := h.exists_walk_of_mem hmembers
      refine ⟨?_, hclass, hwalk⟩
      exact (h.ascending_members members hmembers).imp FileId.compare_eq_lt_iff.mp
    · rintro ⟨hascending, ⟨vertex, hvertex⟩, walk, hwalk, hsubset⟩
      obtain ⟨found, hfound, hmem⟩ := h.exists_mem_iff_of_walk hvertex hwalk hsubset
      have hmembers : Ascending members := hascending.imp FileId.compare_eq_lt_iff.mpr
      rwa [← (h.ascending_members found hfound).eq_of_mem_iff hmembers hmem]
  ascending := h.ascending.imp FileId.compare_list_eq_lt_iff.mp
  disjoint := h.disjoint
  exists_mem _ hwalk := h.exists_subset_of_walk hwalk
  reachable _ hmembers _ hfirst _ hsecond := (h.onCommonCycle_of_mem hmembers hfirst hsecond).1
  edge_of_singleton _ hmem := h.edge_of_singleton_mem hmem

/-! ## Rearranging the records -/

/-- The same records in another order, and in each the children in another order. -/
def Rearranged (others transforms : List Transform) : Prop :=
  ∃ records, others.Perm records ∧
    List.Forall₂ (fun record original : Transform => ∃ children, children.Perm original.children ∧
      record = { original with children := children }) records transforms

section Rearranging

variable {transforms others : List Transform}

theorem childLink_iff {parent child : FileId} :
    ChildLink transforms parent child ↔
      (∃ record ∈ transforms, record.fileId = parent ∧ .resolved child ∈ record.children) ∧
        ∃ record ∈ transforms, record.fileId = child := by
  have htarget : ∀ record : Transform,
      child ∈ record.resolvedChildren ↔ .resolved child ∈ record.children := by
    intro record
    rw [← List.count_pos_iff, Transform.count_resolvedChildren, List.count_pos_iff]
  simp only [ChildLink, presentChildren, List.mem_filter, decide_eq_true_eq, htarget, List.mem_map]
  constructor
  · rintro ⟨record, hrecord, hparent, hchild, hpresent⟩
    exact ⟨⟨record, hrecord, hparent, hchild⟩, hpresent⟩
  · rintro ⟨⟨record, hrecord, hparent, hchild⟩, hpresent⟩
    exact ⟨record, hrecord, hparent, hchild, hpresent⟩

theorem exists_mem_iff_of_forall₂ {α β : Type} {related : α → β → Prop} {p : α → Prop}
    {q : β → Prop} (hiff : ∀ a b, related a b → (p a ↔ q b)) {as : List α} {bs : List β}
    (h : List.Forall₂ related as bs) : (∃ a ∈ as, p a) ↔ ∃ b ∈ bs, q b := by
  induction h with
  | nil => simp
  | cons hhead _ ih => rw [List.exists_mem_cons_iff, List.exists_mem_cons_iff, hiff _ _ hhead, ih]

theorem Rearranged.childLink_eq (h : Rearranged others transforms) :
    ChildLink others = ChildLink transforms := by
  obtain ⟨records, hperm, hrecords⟩ := h
  funext parent child
  rw [eq_iff_iff, childLink_iff, childLink_iff]
  simp only [hperm.mem_iff]
  refine and_congr (exists_mem_iff_of_forall₂ ?_ hrecords) (exists_mem_iff_of_forall₂ ?_ hrecords)
  · rintro _ original ⟨children, hchildren, rfl⟩
    rw [hchildren.mem_iff]
  · rintro _ original ⟨children, _, rfl⟩
    rfl

/-- **The cycles reported** are the classes of mutually reachable transforms that have a closed
walk, and they do not depend on the order of the records or of the children. -/
theorem findCycles_isCycleReport (transforms : List Transform) :
    IsCycleReport (ChildLink transforms) (findCycles transforms) ∧
      ∀ others, Rearranged others transforms → findCycles others = findCycles transforms := by
  refine ⟨(isCycleList_findCycles transforms).isCycleReport, fun others h => ?_⟩
  rw [findCycles_eq_iff, h.childLink_eq]
  exact fun _ _ => Iff.rfl

end Rearranging

/-! ## A scene with two cycles that no root reaches -/

namespace TwoCycles

/-- One transform lists itself, and two list each other; the second of these has two records. -/
def transforms : List Transform :=
  [⟨⟨"30"⟩, .unresolved .absent, [.resolved ⟨"20"⟩, .unresolved .absent], .resolved ⟨"20"⟩⟩,
    ⟨⟨"5"⟩, .unresolved .absent, [.resolved ⟨"5"⟩, .resolved ⟨"30"⟩], .resolved ⟨"5"⟩⟩,
    ⟨⟨"20"⟩, .unresolved .absent, [.resolved ⟨"99"⟩, .resolved ⟨"40"⟩], .resolved ⟨"30"⟩⟩,
    ⟨⟨"20"⟩, .unresolved .absent, [.resolved ⟨"40"⟩, .resolved ⟨"30"⟩], .resolved ⟨"30"⟩⟩,
    ⟨⟨"40"⟩, .unresolved .absent, [], .resolved FileId.root⟩]

/-- The records and their children the other way round. -/
def turned : List Transform :=
  (transforms.map fun record => { record with children := record.children.reverse }).reverse

theorem rearranged_turned : Rearranged turned transforms := by
  refine ⟨_, List.reverse_perm _, ?_⟩
  rw [List.forall₂_map_left_iff, List.forall₂_same]
  exact fun record _ => ⟨record.children.reverse, List.reverse_perm _, rfl⟩

theorem isCycleReport_turned :
    Rearranged turned transforms ∧
      IsCycleReport (ChildLink transforms) (findCycles transforms) ∧
        findCycles turned = findCycles transforms := by
  obtain ⟨hreport, hsame⟩ := findCycles_isCycleReport transforms
  exact ⟨rearranged_turned, hreport, hsame turned rearranged_turned⟩

end TwoCycles

end SceneAudit
