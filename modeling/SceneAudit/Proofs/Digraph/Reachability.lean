import SceneAudit.Proofs.Digraph.Edge
import Mathlib.Data.List.Nodup
import Mathlib.Logic.Relation

/-!
# What the depth-first search finds

`Digraph.explore` works off tasks, and `Digraph.reach` starts it from some
vertices.  The main statements are about the search when it has ended:

* `mem_seen_reach_iff`: it has seen the vertices that are reachable from the
  vertices of the graph that it started from;
* `finished_reach`: it has left each of them, once.

Both are invariants of the tasks.  What has been seen is closed under edges but
for the targets that still wait to be entered; and what has been seen is what
was left together with what still waits to be left.
-/

namespace SceneAudit.Digraph

open Relation

variable {α : Type}

/-- The vertices that wait to be left, the next one first. -/
def leaving (tasks : List (Task α)) : List α :=
  tasks.filterMap fun task =>
    match task with
    | .enter _ => none
    | .leave vertex => some vertex

@[simp] theorem leaving_nil : leaving ([] : List (Task α)) = [] := rfl

@[simp] theorem leaving_enter_cons (vertex : α) (tasks : List (Task α)) :
    leaving (.enter vertex :: tasks) = leaving tasks := rfl

@[simp] theorem leaving_leave_cons (vertex : α) (tasks : List (Task α)) :
    leaving (.leave vertex :: tasks) = vertex :: leaving tasks := rfl

@[simp] theorem leaving_map_enter_append (vertices : List α) (tasks : List (Task α)) :
    leaving (vertices.map .enter ++ tasks) = leaving tasks := by
  induction vertices with
  | nil => rfl
  | cons vertex vertices ih => simpa using ih

variable [BEq α] [Hashable α] [LawfulBEq α] {graph : Digraph α}

/-! ## The search as a derivation -/

/-- Working off the tasks leads from one search to another. -/
inductive Explores (graph : Digraph α) : List (Task α) → Search α → Search α → Prop
  | done (search : Search α) : Explores graph [] search search
  | leave {vertex : α} {tasks : List (Task α)} {before after : Search α}
      (later : Explores graph tasks { before with finished := vertex :: before.finished } after) :
      Explores graph (.leave vertex :: tasks) before after
  | seen {vertex : α} {tasks : List (Task α)} {before after : Search α}
      (hseen : vertex ∈ before.seen) (later : Explores graph tasks before after) :
      Explores graph (.enter vertex :: tasks) before after
  | absent {vertex : α} {tasks : List (Task α)} {before after : Search α}
      (habsent : vertex ∉ graph.successors) (later : Explores graph tasks before after) :
      Explores graph (.enter vertex :: tasks) before after
  | enter {vertex : α} {tasks : List (Task α)} {before after : Search α}
      (hfresh : vertex ∉ before.seen) (hmem : vertex ∈ graph.successors)
      (later : Explores graph ((graph.next vertex).map .enter ++ .leave vertex :: tasks)
        { before with seen := before.seen.insert vertex } after) :
      Explores graph (.enter vertex :: tasks) before after

theorem explores_explore (graph : Digraph α) (tasks : List (Task α)) (search : Search α) :
    Explores graph tasks search (graph.explore tasks search) := by
  induction tasks, search using explore.induct graph with
  | case1 search =>
      rw [explore]
      exact .done search
  | case2 search vertex tasks ih =>
      rw [explore]
      exact .leave ih
  | case3 search vertex tasks hseen ih =>
      rw [explore, dif_pos hseen]
      exact .seen hseen ih
  | case4 search vertex tasks hfresh habsent ih =>
      have hexplore : graph.explore (.enter vertex :: tasks) search = graph.explore tasks search := by
        rw [explore, dif_neg hfresh]
        split <;> simp_all
      rw [hexplore]
      refine .absent (fun hmem => ?_) ih
      rw [Std.HashMap.mem_iff_isSome_getElem?, habsent] at hmem
      simp at hmem
  | case5 search vertex tasks hfresh next hfound ih =>
      have hexplore : graph.explore (.enter vertex :: tasks) search =
          graph.explore (next.map .enter ++ .leave vertex :: tasks)
            { search with seen := search.seen.insert vertex } := by
        rw [explore, dif_neg hfresh]
        split <;> simp_all
      have hmem : vertex ∈ graph.successors := by
        rw [Std.HashMap.mem_iff_isSome_getElem?, hfound]
        rfl
      rw [hexplore]
      rw [List.map_attach_eq_pmap] at ih
      refine .enter hfresh hmem ?_
      rw [next_eq_of_getElem? hfound]
      simpa using ih

namespace Explores

variable {tasks : List (Task α)} {before after : Search α}

/-! ## What has been seen -/

theorem mem_seen_of_mem (h : Explores graph tasks before after) {vertex : α}
    (hmem : vertex ∈ before.seen) : vertex ∈ after.seen := by
  induction h with
  | done search => exact hmem
  | leave later ih => exact ih hmem
  | seen hseen later ih => exact ih hmem
  | absent habsent later ih => exact ih hmem
  | enter hfresh hvertex later ih => exact ih (Std.HashSet.mem_insert.mpr (.inr hmem))

theorem mem_seen_of_enter_mem (h : Explores graph tasks before after) {vertex : α}
    (htask : .enter vertex ∈ tasks) (hmem : vertex ∈ graph.successors) : vertex ∈ after.seen := by
  induction h with
  | done search => simp at htask
  | leave later ih => exact ih (by simpa using htask)
  | seen hseen later ih =>
      rcases List.mem_cons.mp htask with heq | htask
      · obtain rfl := Task.enter.inj heq
        exact later.mem_seen_of_mem hseen
      · exact ih htask
  | absent habsent later ih =>
      rcases List.mem_cons.mp htask with heq | htask
      · obtain rfl := Task.enter.inj heq
        exact absurd hmem habsent
      · exact ih htask
  | enter hfresh hvertex later ih =>
      rcases List.mem_cons.mp htask with heq | htask
      · obtain rfl := Task.enter.inj heq
        exact later.mem_seen_of_mem Std.HashSet.mem_insert_self
      · exact ih (by simp [htask])

/-- What has been seen anew is reachable from vertices that were to be entered. -/
theorem exists_reachable_of_mem_seen (h : Explores graph tasks before after) {vertex : α}
    (hmem : vertex ∈ after.seen) :
    vertex ∈ before.seen ∨
      ∃ start, .enter start ∈ tasks ∧ start ∈ graph.successors ∧
        ReflTransGen graph.Edge start vertex := by
  induction h with
  | done search => exact .inl hmem
  | leave later ih =>
      exact (ih hmem).imp_right fun ⟨start, htask, hreach⟩ =>
        ⟨start, List.mem_cons_of_mem _ htask, hreach⟩
  | seen hseen later ih =>
      exact (ih hmem).imp_right fun ⟨start, htask, hreach⟩ =>
        ⟨start, List.mem_cons_of_mem _ htask, hreach⟩
  | absent habsent later ih =>
      exact (ih hmem).imp_right fun ⟨start, htask, hreach⟩ =>
        ⟨start, List.mem_cons_of_mem _ htask, hreach⟩
  | @enter entered tasks before after hfresh hvertex later ih =>
      rcases ih hmem with hseen | ⟨start, htask, hstart, hpath⟩
      · -- the vertex was seen before, or it is the one that is entered
        rcases Std.HashSet.mem_insert.mp hseen with heq | hseen
        · exact .inr ⟨entered, List.mem_cons_self, hvertex, eq_of_beq heq ▸ .refl⟩
        · exact .inl hseen
      · rcases List.mem_append.mp htask with htask | htask
        · obtain ⟨next, hnext, heq⟩ := List.mem_map.mp htask
          obtain rfl := Task.enter.inj heq
          exact .inr ⟨entered, List.mem_cons_self, hvertex, .head hnext hpath⟩
        · exact .inr ⟨start, by simpa using Or.inr htask, hstart, hpath⟩

/-- The targets of the edges of what has been seen anew have been seen too. -/
theorem mem_seen_of_edge (h : Explores graph tasks before after) {source target : α}
    (hmem : source ∈ after.seen) (hfresh : source ∉ before.seen) (hedge : graph.Edge source target)
    (htarget : target ∈ graph.successors) : target ∈ after.seen := by
  induction h with
  | done search => exact absurd hmem hfresh
  | leave later ih => exact ih hmem hfresh
  | seen hseen later ih => exact ih hmem hfresh
  | absent habsent later ih => exact ih hmem hfresh
  | @enter entered tasks before after hentered hvertex later ih =>
      by_cases heq : source = entered
      · subst heq
        exact later.mem_seen_of_enter_mem (List.mem_append_left _ (List.mem_map_of_mem hedge))
          htarget
      · refine ih hmem fun hinsert => ?_
        rcases Std.HashSet.mem_insert.mp hinsert with h | h
        · exact heq (eq_of_beq h).symm
        · exact hfresh h

end Explores

/-! ## What has been left -/

/-- If what has been seen is what waits to be left and what was left, each
vertex once, then in the end all of it has been left. -/
theorem Explores.finished {tasks : List (Task α)} {before after : Search α}
    (h : Explores graph tasks before after) (hnodup : (leaving tasks ++ before.finished).Nodup)
    (hseen : ∀ vertex, vertex ∈ before.seen ↔ vertex ∈ leaving tasks ++ before.finished) :
    after.finished.Nodup ∧ ∀ vertex, vertex ∈ after.finished ↔ vertex ∈ after.seen := by
  induction h with
  | done search => exact ⟨hnodup, fun vertex => (hseen vertex).symm⟩
  | @leave vertex tasks before after later ih =>
      -- the vertex moves from those that wait to those that were left
      have hperm : (vertex :: leaving tasks ++ before.finished).Perm
          (leaving tasks ++ vertex :: before.finished) := List.perm_middle.symm
      rw [leaving_leave_cons] at hnodup hseen
      exact ih (hperm.nodup hnodup) fun other => (hseen other).trans hperm.mem_iff
  | seen _ later ih => exact ih hnodup hseen
  | absent habsent later ih => exact ih hnodup hseen
  | @enter vertex tasks before after hfresh hvertex later ih =>
      -- the vertex is new, so it did not wait to be left nor was it left
      rw [leaving_enter_cons] at hnodup hseen
      refine ih ?_ fun other => ?_
      · rw [leaving_map_enter_append, leaving_leave_cons, List.cons_append, List.nodup_cons]
        exact ⟨fun hmem => hfresh ((hseen vertex).mpr hmem), hnodup⟩
      · rw [leaving_map_enter_append, leaving_leave_cons, List.cons_append, List.mem_cons,
          Std.HashSet.mem_insert, hseen, beq_iff_eq, eq_comm]

/-! ## Searching from some vertices -/

theorem mem_seen_reach_iff (hclosed : graph.Closed) {starts : List α} {vertex : α} :
    vertex ∈ (graph.reach starts).seen ↔
      ∃ start ∈ starts, start ∈ graph.successors ∧ ReflTransGen graph.Edge start vertex := by
  have h := explores_explore graph (starts.map .enter) .fresh
  constructor
  · intro hmem
    rcases h.exists_reachable_of_mem_seen hmem with hfresh | ⟨start, htask, hstart, hpath⟩
    · simp [Search.fresh] at hfresh
    · obtain ⟨other, hother, heq⟩ := List.mem_map.mp htask
      obtain rfl := Task.enter.inj heq
      exact ⟨other, hother, hstart, hpath⟩
  · rintro ⟨start, hmem, hstart, hpath⟩
    induction hpath with
    | refl => exact h.mem_seen_of_enter_mem (List.mem_map_of_mem hmem) hstart
    | tail _ hedge ih => exact h.mem_seen_of_edge ih (by simp [Search.fresh]) hedge (hclosed hedge)

theorem finished_reach (graph : Digraph α) (starts : List α) :
    (graph.reach starts).finished.Nodup ∧
      ∀ vertex, vertex ∈ (graph.reach starts).finished ↔ vertex ∈ (graph.reach starts).seen := by
  have hleaving : leaving (starts.map .enter) = [] := by
    have happend := leaving_map_enter_append starts []
    rwa [List.append_nil] at happend
  refine (explores_explore graph (starts.map .enter) .fresh).finished ?_ ?_
  · simp [hleaving, Search.fresh]
  · simp [hleaving, Search.fresh]

end SceneAudit.Digraph
