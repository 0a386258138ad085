import SceneAudit.Path
import SceneAudit.Proofs.StableSort

/-!
# The order of paths

Paths are compared by their components, so two paths are equal in order if and only if
they have the same components, however many slashes they are written with.
-/

namespace SceneAudit.Path

namespace Component

instance : Std.TransOrd Component :=
  inferInstanceAs (Std.TransCmp (compareLex (compareOn rank) (compareOn nameText)))

theorem eq_of_rank_eq {a b : Component} (hrank : a.rank = b.rank) (htext : a.nameText = b.nameText) :
    a = b := by
  cases a <;> cases b <;> simp_all [rank, nameText]

instance : Std.LawfulEqOrd Component where
  compare_self := Std.ReflCmp.compare_self
  eq_of_compare := by
    intro a b h
    obtain ⟨hrank, htext⟩ := compareLex_eq_eq.mp h
    exact eq_of_rank_eq (Std.LawfulEqCmp.eq_of_compare hrank) (Std.LawfulEqCmp.eq_of_compare htext)

end Component

instance : Std.TransOrd Path :=
  inferInstanceAs (Std.TransCmp (compareOn components))

theorem compare_eq_eq_iff {a b : Path} : compare a b = .eq ↔ a.components = b.components := by
  constructor
  · intro h
    have hcomponents : compare a.components b.components = .eq := h
    exact Std.LawfulEqCmp.eq_of_compare hcomponents
  · intro h
    have hself : compare a.components a.components = .eq := Std.ReflCmp.compare_self
    show compare a.components b.components = .eq
    rw [← h]
    exact hself

end SceneAudit.Path
