import SceneAudit.Proofs.Hierarchy.SpanningForest
import Mathlib.Data.List.Pairwise

/-!
# Paths of child entries

A path starts at a transform without parent and goes from transform to transform
by the entries in their lists of children, each entry given by its position.

* `exists_path_of_mem_lines`: to every line of a forest a path leads from one of
  its tops, and it is as long as the line is deep.
* `ShownForest.path_unique`: if the forest of a scene leaves no child out and none
  of its transforms lists a root, no other path leads there.

The second statement is by induction from the ends of the paths.  By
`Forest.Full.perm_ids` every transform is a top or an entry of one printed
transform, and not both; so the last entry of a path is determined by where the
path leads.
-/

namespace SceneAudit

/-! ## Paths of child entries -/

/-- The file identifiers of the transforms without parent, in document order. -/
def rootIds (transforms : List Transform) : List FileId :=
  (transforms.filter Transform.isRoot).map Transform.fileId

/-- The transform of the scene to which an entry among the children of a transform leads. -/
def childAt? (transforms : List Transform) (parent : FileId) (position : Nat) : Option FileId :=
  ((recordOf? Transform.fileId transforms parent).bind fun record =>
    record.children[position]?.bind Reference.target?).filter
      (· ∈ transforms.map Transform.fileId)

/-- Where a path of child entries leads, each given by its position. -/
def follow? (transforms : List Transform) : FileId → List Nat → Option FileId
  | id, [] => some id
  | id, position :: path =>
      (childAt? transforms id position).bind fun child => follow? transforms child path

/-- The path leads from a transform without parent to the transform `id`. -/
def IsRootPath (transforms : List Transform) (root : FileId) (path : List Nat) (id : FileId) :
    Prop :=
  root ∈ rootIds transforms ∧ follow? transforms root path = some id

variable {gameObjects : List GameObject} {transforms : List Transform}

theorem childAt?_eq_some_iff {parent child : FileId} {position : Nat} :
    childAt? transforms parent position = some child ↔
      ∃ record, recordOf? Transform.fileId transforms parent = some record ∧
        record.children[position]?.bind Reference.target? = some child ∧
        child ∈ transforms.map Transform.fileId := by
  rw [childAt?, Option.filter_eq_some_iff, Option.bind_eq_some_iff]
  constructor
  · rintro ⟨⟨record, hfound, hchild⟩, hpresent⟩
    exact ⟨record, hfound, hchild, by simpa using hpresent⟩
  · rintro ⟨record, hfound, hchild, hpresent⟩
    exact ⟨⟨record, hfound, hchild⟩, by simpa using hpresent⟩

theorem mem_presentChildren_iff {parent child : FileId} {record : Transform}
    (hfound : recordOf? Transform.fileId transforms parent = some record) :
    child ∈ presentChildren transforms record ↔
      ∃ position, childAt? transforms parent position = some child := by
  simp only [childAt?_eq_some_iff, hfound, Option.some.injEq, exists_eq_left', presentChildren,
    Transform.resolvedChildren, List.mem_filter, List.mem_filterMap, decide_eq_true_eq,
    Option.bind_eq_some_iff, exists_and_right]
  refine and_congr_left fun _ => ?_
  constructor
  · rintro ⟨reference, hmem, htarget⟩
    obtain ⟨position, hposition⟩ := List.getElem?_of_mem hmem
    exact ⟨position, reference, hposition, htarget⟩
  · rintro ⟨position, reference, hposition, htarget⟩
    exact ⟨reference, List.mem_of_getElem? hposition, htarget⟩

/-- Where no child is listed twice, the child determines the position of its
entry. -/
theorem childAt?_injective {parent child : FileId} {record : Transform} {first second : Nat}
    (hfound : recordOf? Transform.fileId transforms parent = some record)
    (hnodup : (presentChildren transforms record).Nodup)
    (hfirst : childAt? transforms parent first = some child)
    (hsecond : childAt? transforms parent second = some child) : first = second := by
  rw [presentChildren, Transform.resolvedChildren, List.filter_filterMap, List.Nodup,
    List.pairwise_filterMap, List.pairwise_iff_getElem] at hnodup
  -- entries for one child at two positions would give two equal items of the list
  have hdistinct : ∀ earlier later, childAt? transforms parent earlier = some child →
      childAt? transforms parent later = some child → ¬ earlier < later := by
    intro earlier later hearlier hlater hlt
    simp only [childAt?, hfound, Option.bind_some, Option.filter_eq_some_iff,
      Option.bind_eq_some_iff, List.getElem?_eq_some_iff] at hearlier hlater
    obtain ⟨⟨reference, ⟨hlength, rfl⟩, htarget⟩, hpresent⟩ := hearlier
    obtain ⟨⟨reference', ⟨hlength', rfl⟩, htarget'⟩, -⟩ := hlater
    exact hnodup earlier later hlength hlength' hlt child
      (Option.filter_eq_some_iff.mpr ⟨htarget, hpresent⟩) child
      (Option.filter_eq_some_iff.mpr ⟨htarget', hpresent⟩) rfl
  rcases Nat.lt_trichotomy first second with hlt | heq | hgt
  · exact absurd hlt (hdistinct first second hfirst hsecond)
  · exact heq
  · exact absurd hgt (hdistinct second first hsecond hfirst)

theorem follow?_append_singleton (root : FileId) (path : List Nat) (position : Nat) :
    follow? transforms root (path ++ [position]) =
      (follow? transforms root path).bind fun id => childAt? transforms id position := by
  induction path generalizing root with
  | nil => simp [follow?]
  | cons first path ih => simp [follow?, ih, Option.bind_assoc]

/-- A path takes its last entry from the transform to which the rest leads. -/
theorem isRootPath_append_singleton_iff {root id : FileId} {path : List Nat} {position : Nat} :
    IsRootPath transforms root (path ++ [position]) id ↔
      ∃ parent, IsRootPath transforms root path parent ∧
        childAt? transforms parent position = some id := by
  simp only [IsRootPath, follow?_append_singleton, Option.bind_eq_some_iff, and_assoc,
    exists_and_left]

theorem Reachable.of_follow? {root id : FileId} {path : List Nat}
    (hroot : Reachable transforms root) (hpath : follow? transforms root path = some id) :
    Reachable transforms id := by
  induction path generalizing root with
  | nil => exact Option.some.inj hpath ▸ hroot
  | cons position path ih =>
      obtain ⟨child, hchild, hpath⟩ := Option.bind_eq_some_iff.mp hpath
      obtain ⟨record, hfound, -⟩ := childAt?_eq_some_iff.mp hchild
      exact ih (.child hroot hfound ((mem_presentChildren_iff hfound).mpr ⟨position, hchild⟩)) hpath

/-! ## Paths in the forest of a scene -/

/-- Every line of a forest is reached from a top, and its depth counts the entries
on the way. -/
theorem exists_path_of_mem_lines {forest : Forest} {nameOf : Transform → Option String}
    (hspans : forest.Spans (presentChildren transforms))
    (hfound : ∀ node ∈ forest.nodes, recordOf? Transform.fileId transforms node.fileId = some node)
    {depth : Nat} {line : HierarchyLine} (hline : line ∈ forest.lines nameOf depth) :
    ∃ top ∈ forest.tops.map Transform.fileId, ∃ path,
      follow? transforms top path = some line.transform ∧ depth + path.length = line.depth := by
  induction forest generalizing depth with
  | empty => simp [Forest.lines] at hline
  | tree top below rest ihbelow ihrest =>
      obtain ⟨hchildren, hbelow, hrest⟩ := hspans
      simp only [Forest.nodes, List.mem_cons, List.mem_append] at hfound
      simp only [Forest.lines, List.mem_cons, List.mem_append] at hline
      rw [Forest.tops, List.map_cons]
      rcases hline with rfl | hline | hline
      · exact ⟨top.fileId, List.mem_cons_self, [], rfl, rfl⟩
      · -- the path below a child, with the entry for the child in front
        obtain ⟨child, hchild, path, hpath, hdepth⟩ :=
          ihbelow hbelow (fun node hnode => hfound node (.inr (.inl hnode))) hline
        obtain ⟨position, hposition⟩ :=
          (mem_presentChildren_iff (hfound top (.inl rfl))).mp (hchildren.subset hchild)
        refine ⟨top.fileId, List.mem_cons_self, position :: path, ?_, ?_⟩
        · rw [follow?, hposition, Option.bind_some, hpath]
        · rw [List.length_cons]
          omega
      · obtain ⟨other, hother, path, hpath, hdepth⟩ :=
          ihrest hrest (fun node hnode => hfound node (.inr (.inr hnode))) hline
        exact ⟨other, List.mem_cons_of_mem _ hother, path, hpath, hdepth⟩

namespace ShownForest

variable {forest : Forest}

/-- No transform is listed twice as a child by what is printed, nor is it a top
and a child. -/
theorem nodup_entries (h : ShownForest gameObjects transforms forest)
    (hfull : forest.Full (presentChildren transforms)) :
    (forest.tops.map Transform.fileId ++
      forest.nodes.flatMap (presentChildren transforms)).Nodup :=
  hfull.perm_ids.nodup_iff.mp h.nodup

/-- One entry leads to every transform. -/
theorem childAt?_unique (h : ShownForest gameObjects transforms forest)
    (hfull : forest.Full (presentChildren transforms)) {parent other child : FileId}
    {first second : Nat} (hparent : Reachable transforms parent)
    (hother : Reachable transforms other)
    (hfirst : childAt? transforms parent first = some child)
    (hsecond : childAt? transforms other second = some child) : parent = other ∧ first = second := by
  obtain ⟨record, hmem, rfl⟩ := Forest.mem_ids_iff.mp ((h.mem_ids_iff parent).mpr hparent)
  obtain ⟨record', hmem', rfl⟩ := Forest.mem_ids_iff.mp ((h.mem_ids_iff other).mpr hother)
  obtain ⟨hnodup, hdisjoint⟩ := List.nodup_flatMap.mp (h.nodup_entries hfull).of_append_right
  have hchild := (mem_presentChildren_iff (h.found record hmem)).mpr ⟨first, hfirst⟩
  have hchild' := (mem_presentChildren_iff (h.found record' hmem')).mpr ⟨second, hsecond⟩
  have hrecord : record = record' := by
    have hsymm : Std.Symm (Function.onFun List.Disjoint (presentChildren transforms)) :=
      ⟨fun _ _ hdisjoint => List.disjoint_symm hdisjoint⟩
    by_contra hne
    exact hdisjoint.forall hmem hmem' hne hchild hchild'
  subst hrecord
  exact ⟨rfl, childAt?_injective (h.found record hmem) (hnodup record hmem) hfirst hsecond⟩

/-- If no reachable transform lists a root, two paths to a transform are equal. -/
theorem path_unique (h : ShownForest gameObjects transforms forest)
    (hfull : forest.Full (presentChildren transforms))
    (hroots : ∀ root ∈ rootIds transforms, Reachable transforms root)
    (hlisted : ∀ parent position child, Reachable transforms parent →
      childAt? transforms parent position = some child → child ∉ rootIds transforms)
    {root other id : FileId} {path way : List Nat} (hpath : IsRootPath transforms root path id)
    (hway : IsRootPath transforms other way id) : other = root ∧ way = path := by
  have hreach : ∀ {root id : FileId} {path : List Nat}, IsRootPath transforms root path id →
      Reachable transforms id := fun hpath => (hroots _ hpath.1).of_follow? hpath.2
  induction path using List.reverseRecOn generalizing way id with
  | nil =>
      obtain rfl : root = id := Option.some.inj hpath.2
      cases way using List.reverseRecOn with
      | nil => exact ⟨Option.some.inj hway.2, rfl⟩
      | append_singleton way last =>
          -- the last entry of the other path would list the root where this one starts
          obtain ⟨parent, hparent, hentry⟩ := isRootPath_append_singleton_iff.mp hway
          exact absurd hpath.1 (hlisted parent last root (hreach hparent) hentry)
  | append_singleton path last ih =>
      obtain ⟨parent, hparent, hentry⟩ := isRootPath_append_singleton_iff.mp hpath
      cases way using List.reverseRecOn with
      | nil =>
          obtain rfl : other = id := Option.some.inj hway.2
          exact absurd hway.1 (hlisted parent last other (hreach hparent) hentry)
      | append_singleton way last' =>
          obtain ⟨parent', hparent', hentry'⟩ := isRootPath_append_singleton_iff.mp hway
          obtain ⟨rfl, rfl⟩ :=
            h.childAt?_unique hfull (hreach hparent) (hreach hparent') hentry hentry'
          obtain ⟨rfl, rfl⟩ := ih hparent hparent'
          exact ⟨rfl, rfl⟩

end ShownForest

end SceneAudit
