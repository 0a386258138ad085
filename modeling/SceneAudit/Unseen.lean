import Std.Data.HashMap
import Std.Data.HashSet

/-!
# What a search has still to see

A search over the keys of a map marks every key that it expands.  The number of keys without a mark is the measure
of such a search: expanding a fresh key lowers it, and nothing raises it.
-/

namespace SceneAudit

variable {α β : Type}

/-- Counting by a stronger condition that one member fails gives less. -/
theorem countP_lt_countP {p q : α → Bool} {members : List α} (stronger : ∀ x, p x = true → q x = true)
    {x : α} (mem : x ∈ members) (holds : q x = true) (fails : p x = false) :
    members.countP p < members.countP q := by
  induction members with
  | nil => simp at mem
  | cons head tail ih =>
    have tail_le : tail.countP p ≤ tail.countP q := List.countP_mono_left fun x _ => stronger x
    rcases List.mem_cons.mp mem with rfl | later
    · rw [List.countP_cons_of_pos holds, List.countP_cons_of_neg (by simp [fails])]
      omega
    · have := ih later
      rw [List.countP_cons, List.countP_cons]
      by_cases hp : p head = true
      · simp [hp, stronger head hp, this]
      · simp only [Bool.not_eq_true] at hp
        simp only [hp, Bool.false_eq_true, if_false]
        omega

variable [BEq α] [Hashable α]

/-- The number of keys of a map that are not in `seen`. -/
def unseen (map : Std.HashMap α β) (seen : Std.HashSet α) : Nat :=
  map.keys.countP fun key => !seen.contains key

variable [LawfulBEq α]

/-- Marking a fresh key of the map leaves fewer to see. -/
theorem unseen_insert_lt {map : Std.HashMap α β} {seen : Std.HashSet α} {key : α} (mem : key ∈ map)
    (fresh : key ∉ seen) : unseen map (seen.insert key) < unseen map seen := by
  refine countP_lt_countP (fun x => ?_) (Std.HashMap.mem_keys.mpr mem) ?_ ?_
  · simp only [Std.HashSet.contains_insert, Bool.not_eq_true', Bool.or_eq_false_iff]
    exact fun h => h.2
  · simpa using fresh
  · simp

end SceneAudit
