import SceneAudit.Proofs.Hierarchy.Walk
import Mathlib.Logic.Function.Basic

/-!
# Walks along a renaming

A walk asks its scenery three things of a file identifier: which transform it finds,
by what name and with which visits below that one is printed, and whether it is on a
cycle.  It asks a file identifier itself only whether it was printed before.  So where
two sceneries give the same answers along a renaming (`Scenery.Follows`), the walks
print the same lines and report the same faults along it (`Follows.run`), as long as
the renaming keeps file identifiers apart.

The renaming may be the identity: then the sceneries differ at most in what no walk
asks for.
-/

namespace SceneAudit

variable {rename : FileId → FileId}

/-- The line with its transform renamed. -/
def HierarchyLine.renamed (rename : FileId → FileId) (line : HierarchyLine) : HierarchyLine :=
  { line with transform := rename line.transform }

/-- The fault with every file identifier in it renamed. -/
def Fault.renamed (rename : FileId → FileId) : Fault → Fault
  | cycle members => cycle (members.map rename)
  | revisit parent child => revisit (rename parent) (rename child)
  | duplicateFileId fileId tag => duplicateFileId (rename fileId) tag
  | unterminatedBlock fileId tag headerLine => unterminatedBlock (rename fileId) tag headerLine

/-- The visit with its transforms renamed. -/
def Visit.renamed (rename : FileId → FileId) (visit : Visit) : Visit :=
  { visit with parent := visit.parent.map rename, transform := rename visit.transform }

theorem HierarchyLine.renamed_id : HierarchyLine.renamed id = id :=
  rfl

theorem Fault.renamed_id : Fault.renamed id = id := by
  funext fault
  cases fault <;> simp [Fault.renamed]

theorem Visit.renamed_id : Visit.renamed id = id := by
  funext visit
  simp [Visit.renamed]

namespace Walk

/-- Whatever a walk asks one scenery of a file identifier, the other scenery answers alike for the
renamed one. -/
structure Scenery.Follows (rename : FileId → FileId) (scenery other : Scenery) : Prop where
  absent : ∀ id, scenery.transforms[id]? = none → other.transforms[rename id]? = none
  found : ∀ id top, scenery.transforms[id]? = some top →
    ∃ image, other.transforms[rename id]? = some image ∧
      other.nameOf image = scenery.nameOf top ∧
        ∀ depth, other.visitsBelow image depth =
          (scenery.visitsBelow top depth).map (Visit.renamed rename)
  onCycle : ∀ id, other.onCycle (rename id) = scenery.onCycle id

/-- The second walk has done what the first one has, along the renaming. -/
structure Follows (rename : FileId → FileId) (walk other : Walk) : Prop where
  printed : ∀ id, rename id ∈ other.printed ↔ id ∈ walk.printed
  lines : other.reversedLines = walk.reversedLines.map (HierarchyLine.renamed rename)
  faults : other.reversedFaults = walk.reversedFaults.map (Fault.renamed rename)

theorem follows_start (rename : FileId → FileId) : Follows rename start start where
  printed := by simp [start]
  lines := rfl
  faults := rfl

namespace Follows

variable {scenery other : Scenery} {walk walk' : Walk}

theorem revisit (h : Follows rename walk walk') (hscenery : scenery.Follows rename other)
    (visit : Visit) :
    Follows rename (walk.revisit scenery visit) (walk'.revisit other (visit.renamed rename)) where
  printed := h.printed
  lines := h.lines
  faults := by
    have hnew : other.revisitFaults (visit.renamed rename) =
        (scenery.revisitFaults visit).map (Fault.renamed rename) := by
      obtain ⟨parent, transform, depth⟩ := visit
      cases parent with
      | none => rfl
      | some parent =>
          simp only [Scenery.revisitFaults, Visit.renamed, Option.map_some, hscenery.onCycle]
          split <;> rfl
    show other.revisitFaults _ ++ walk'.reversedFaults = _
    rw [hnew, h.faults, ← List.map_append]
    rfl

theorem print (h : Follows rename walk walk') (hinjective : Function.Injective rename)
    (visit : Visit) {top image : Transform} (hname : other.nameOf image = scenery.nameOf top) :
    Follows rename (walk.print scenery visit top)
      (walk'.print other (visit.renamed rename) image) where
  printed := by
    intro id
    rw [mem_printed_print_iff, mem_printed_print_iff, h.printed]
    exact or_congr_left hinjective.eq_iff
  lines := by
    simp only [Walk.print, List.map_cons, h.lines, hname]
    rfl
  faults := h.faults

/-- Walks that start alike along a renaming go on alike. -/
theorem run (h : Follows rename walk walk') (hscenery : scenery.Follows rename other)
    (hinjective : Function.Injective rename) (visits : List Visit) :
    Follows rename (Walk.run scenery visits walk)
      (Walk.run other (visits.map (Visit.renamed rename)) walk') := by
  induction visits, walk using run.induct scenery generalizing walk' with
  | case1 walk => simpa using h
  | case2 walk visit visits hprinted ih =>
      have hprinted' : (visit.renamed rename).transform ∈ walk'.printed :=
        (h.printed visit.transform).mpr hprinted
      rw [run_cons_of_printed _ hprinted, List.map_cons, run_cons_of_printed _ hprinted']
      exact ih (h.revisit hscenery visit)
  | case3 walk visit visits hfresh habsent ih =>
      have hfresh' : (visit.renamed rename).transform ∉ walk'.printed :=
        mt (h.printed visit.transform).mp hfresh
      have habsent' := hscenery.absent visit.transform habsent
      rw [run_cons_of_absent _ hfresh habsent, List.map_cons, run_cons_of_absent _ hfresh' habsent']
      exact ih h
  | case4 walk visit visits hfresh top hfound ih =>
      have hfresh' : (visit.renamed rename).transform ∉ walk'.printed :=
        mt (h.printed visit.transform).mp hfresh
      obtain ⟨image, hfound', hname, hbelow⟩ := hscenery.found visit.transform top hfound
      have hdepth : (visit.renamed rename).depth = visit.depth := rfl
      rw [run_cons_of_found _ hfresh hfound, List.map_cons, run_cons_of_found _ hfresh' hfound',
        hdepth, hbelow, ← List.map_append]
      exact ih (h.print hinjective visit hname)

end Follows

end Walk

end SceneAudit
