import Mathlib.Data.List.Pairwise
import Mathlib.Data.List.Sort

/-!
# Stable sorting

A stable sort keeps the order of the elements that are equal in order, so these stand in the
sorted list as they stood before (`tiedWith_mergeSort`, `isStableSort_mergeSort`).  A sorted list
in turn is known once this is known of each of its elements, and two lists that agree on it are
sorted alike (`mergeSort_eq_of_tiedWith_eq`).  Where no two elements are equal in order, any two
orders of them are sorted alike (`mergeSort_eq_of_perm`).
-/

namespace SceneAudit

variable {α : Type} (cmp : α → α → Ordering)

/-- The elements of a list that are equal in order to a given one. -/
def tiedWith (a : α) (items : List α) : List α :=
  items.filter fun b => cmp a b == .eq

variable {cmp}

theorem mem_tiedWith_iff {a b : α} {items : List α} :
    b ∈ tiedWith cmp a items ↔ b ∈ items ∧ cmp a b = .eq := by
  simp [tiedWith]

theorem tiedWith_cons_of_eq {a b : α} (h : cmp a b = .eq) (items : List α) :
    tiedWith cmp a (b :: items) = b :: tiedWith cmp a items := by
  simp [tiedWith, h]

theorem tiedWith_cons_of_ne {a b : α} (h : cmp a b ≠ .eq) (items : List α) :
    tiedWith cmp a (b :: items) = tiedWith cmp a items := by
  simp [tiedWith, h]

variable [Std.TransCmp cmp]

theorem isLE_total (a b : α) : ((cmp a b).isLE || (cmp b a).isLE) = true := by
  have hswap : cmp b a = (cmp a b).swap := Std.OrientedCmp.eq_swap
  rw [hswap]
  cases cmp a b <;> rfl

theorem eq_of_isLE_of_isLE {a b : α} (hle : (cmp a b).isLE) (hge : (cmp b a).isLE) :
    cmp a b = .eq := by
  have hswap : cmp b a = (cmp a b).swap := Std.OrientedCmp.eq_swap
  rw [hswap] at hge
  cases hcmp : cmp a b with
  | lt => simp [hcmp] at hge
  | eq => rfl
  | gt => simp [hcmp] at hle

theorem pairwise_isLE_mergeSort (items : List α) :
    (items.mergeSort fun a b => (cmp a b).isLE).Pairwise fun a b => (cmp a b).isLE := by
  apply List.pairwise_mergeSort
  · intro a b c
    exact Std.TransCmp.isLE_trans
  · exact isLE_total

/-- Elements that are equal in order stand as they stood before. -/
theorem tiedWith_mergeSort (a : α) (items : List α) :
    tiedWith cmp a (items.mergeSort fun a b => (cmp a b).isLE) = tiedWith cmp a items := by
  have htied : (tiedWith cmp a items).Pairwise fun b c => (cmp b c).isLE := by
    refine List.pairwise_of_forall_mem_list ?_
    intro b hb c hc
    have hab : cmp a b = .eq := (mem_tiedWith_iff.mp hb).2
    have hac : cmp a c = .eq := (mem_tiedWith_iff.mp hc).2
    rw [← Std.TransCmp.congr_left hab, hac]
    rfl
  have hsublist : (tiedWith cmp a items).Sublist (items.mergeSort fun a b => (cmp a b).isLE) := by
    apply List.sublist_mergeSort _ isLE_total htied List.filter_sublist
    intro b c d
    exact Std.TransCmp.isLE_trans
  have hkept := hsublist.filter fun b => cmp a b == .eq
  rw [tiedWith, List.filter_filter] at hkept
  simp only [Bool.and_self] at hkept
  have hlength := ((List.mergeSort_perm items fun a b => (cmp a b).isLE).filter
    fun b => cmp a b == .eq).length_eq
  exact (hkept.eq_of_length hlength.symm).symm

theorem mem_iff_of_tiedWith_eq {first second : List α}
    (h : ∀ a, tiedWith cmp a first = tiedWith cmp a second) (a : α) : a ∈ first ↔ a ∈ second := by
  have hself : cmp a a = .eq := Std.ReflCmp.compare_self
  have hiff : a ∈ tiedWith cmp a first ↔ a ∈ tiedWith cmp a second := by rw [h a]
  simpa [mem_tiedWith_iff, hself] using hiff

theorem head_isLE {a b : α} {items : List α}
    (hsorted : (a :: items).Pairwise fun a b => (cmp a b).isLE) (hmem : b ∈ a :: items) :
    (cmp a b).isLE := by
  rcases List.mem_cons.mp hmem with rfl | hmem
  · have hself : cmp b b = .eq := Std.ReflCmp.compare_self
    rw [hself]
    rfl
  · exact (List.pairwise_cons.mp hsorted).1 b hmem

/-- A sorted list is known by what is equal in order to each of its elements. -/
theorem eq_of_tiedWith_eq {first second : List α}
    (hfirst : first.Pairwise fun a b => (cmp a b).isLE)
    (hsecond : second.Pairwise fun a b => (cmp a b).isLE)
    (h : ∀ a, tiedWith cmp a first = tiedWith cmp a second) : first = second := by
  have hmem := mem_iff_of_tiedWith_eq h
  induction first generalizing second with
  | nil =>
      cases second with
      | nil => rfl
      | cons b second => exact absurd ((hmem b).mpr List.mem_cons_self) List.not_mem_nil
  | cons a first ih =>
      cases second with
      | nil => exact absurd ((hmem a).mp List.mem_cons_self) List.not_mem_nil
      | cons b second =>
          -- both heads are least, so they are equal in order and the first of their kind
          have hle : (cmp a b).isLE := head_isLE hfirst ((hmem b).mpr List.mem_cons_self)
          have hge : (cmp b a).isLE := head_isLE hsecond ((hmem a).mp List.mem_cons_self)
          have hheads := h a
          rw [tiedWith_cons_of_eq Std.ReflCmp.compare_self,
            tiedWith_cons_of_eq (eq_of_isLE_of_isLE hle hge)] at hheads
          obtain ⟨rfl, -⟩ := List.cons.inj hheads
          have htails : ∀ c, tiedWith cmp c first = tiedWith cmp c second := by
            intro c
            have hc := h c
            by_cases heq : cmp c a = .eq
            · rw [tiedWith_cons_of_eq heq, tiedWith_cons_of_eq heq] at hc
              exact (List.cons.inj hc).2
            · rwa [tiedWith_cons_of_ne heq, tiedWith_cons_of_ne heq] at hc
          rw [ih (List.pairwise_cons.mp hfirst).2 (List.pairwise_cons.mp hsecond).2 htails
            (mem_iff_of_tiedWith_eq htails)]

/-- Lists in which the elements that are equal in order stand alike are sorted alike. -/
theorem mergeSort_eq_of_tiedWith_eq {first second : List α}
    (h : ∀ a, tiedWith cmp a first = tiedWith cmp a second) :
    (first.mergeSort fun a b => (cmp a b).isLE) = second.mergeSort fun a b => (cmp a b).isLE := by
  apply eq_of_tiedWith_eq (pairwise_isLE_mergeSort first) (pairwise_isLE_mergeSort second)
  intro a
  rw [tiedWith_mergeSort, tiedWith_mergeSort, h a]

/-- The sorted list has the items in order, and those that are equal in order as they stood. -/
structure IsStableSort (notAfter tied : α → α → Prop) [DecidableRel tied] (sorted items : List α) :
    Prop where
  perm : sorted.Perm items
  ordered : sorted.Pairwise notAfter
  stable : ∀ a, sorted.filter (fun b => tied a b) = items.filter fun b => tied a b

theorem isStableSort_mergeSort {notAfter tied : α → α → Prop} [DecidableRel tied]
    (hle : ∀ a b, (cmp a b).isLE → notAfter a b) (htied : ∀ a b, cmp a b = .eq ↔ tied a b)
    (items : List α) :
    IsStableSort notAfter tied (items.mergeSort fun a b => (cmp a b).isLE) items where
  perm := List.mergeSort_perm _ _
  ordered := (pairwise_isLE_mergeSort items).imp fun h => hle _ _ h
  stable a := by
    have hfilter : ∀ items : List α, (items.filter fun b => tied a b) = tiedWith cmp a items := by
      intro items
      apply List.filter_congr
      intro b _
      rw [Bool.eq_iff_iff, decide_eq_true_iff, beq_iff_eq, htied]
    rw [hfilter, hfilter, tiedWith_mergeSort]

/-- Where no two elements are equal in order, sorting does not show how they stood before. -/
theorem mergeSort_eq_of_perm {first second : List α} (hperm : first.Perm second)
    (hapart : second.Pairwise fun a b => cmp a b ≠ .eq) :
    (first.mergeSort fun a b => (cmp a b).isLE) = second.mergeSort fun a b => (cmp a b).isLE := by
  have hperm' : (first.mergeSort fun a b => (cmp a b).isLE).Perm
      (second.mergeSort fun a b => (cmp a b).isLE) :=
    (List.mergeSort_perm _ _).trans (hperm.trans (List.mergeSort_perm _ _).symm)
  have hapart' : (second.mergeSort fun a b => (cmp a b).isLE).Pairwise fun a b => cmp a b ≠ .eq :=
    hapart.perm (List.mergeSort_perm _ _).symm fun hne heq => hne (Std.OrientedCmp.eq_symm heq)
  have hsame : ∀ a ∈ second.mergeSort fun a b => (cmp a b).isLE,
      ∀ b ∈ second.mergeSort fun a b => (cmp a b).isLE, cmp a b = .eq → a = b := by
    intro a ha b hb
    have hsymm : Std.Symm fun a b => cmp a b = .eq → a = b :=
      ⟨fun _ _ h heq => (h (Std.OrientedCmp.eq_symm heq)).symm⟩
    apply List.Pairwise.forall_of_forall (fun _ _ _ => rfl) _ ha hb
    exact hapart'.imp fun hne heq => absurd heq hne
  apply hperm'.eq_of_pairwise _ (pairwise_isLE_mergeSort first) (pairwise_isLE_mergeSort second)
  intro a b ha hb hle hge
  exact hsame a (hperm'.mem_iff.mp ha) b hb (eq_of_isLE_of_isLE hle hge)

end SceneAudit
