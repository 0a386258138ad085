import SceneAudit.Proofs.FileTree.Locate

/-!
# What a tree holds

Two trees with the same contents cannot be told apart by any path (`SameContents`),
whatever the order in which their entries were made.  In a well-formed tree every
entry has a name and lies in a directory, so every entry can be reached; each change of
the tree puts one entry in such a place and keeps the directories (`IsUpdate`).
-/

namespace SceneAudit.FileTree

open SceneAudit.Path (IsStep IsName)

/-! ## Finding and reading -/

theorem find_eq_ok_iff {tree : FileTree} {path : Path} {place : Place} {entry : Entry} :
    tree.find path = .ok (place, entry) ↔
      tree.locate path = .ok place ∧ tree.entry? place = some entry := by
  unfold find
  cases tree.locate path with
  | error error => simp [bind, Except.bind]
  | ok found =>
      simp only [bind, Except.bind, Except.ok.injEq]
      constructor
      · intro h
        split at h
        · rename_i held hheld
          obtain ⟨rfl, rfl⟩ := Prod.mk.inj (Except.ok.inj h)
          exact ⟨rfl, hheld⟩
        · exact absurd h (by simp)
      · rintro ⟨rfl, hentry⟩
        rw [hentry]

theorem exists_find_of_read {tree : FileTree} {path : Path} {contents : ByteArray}
    (h : tree.read path = .ok contents) : ∃ place entry, tree.find path = .ok (place, entry) := by
  unfold read at h
  cases hfind : tree.find path with
  | error error => simp [hfind, bind, Except.bind] at h
  | ok found => exact ⟨found.1, found.2, rfl⟩

theorem read_congr {before after : FileTree} {path : Path} (h : after.find path = before.find path) :
    after.read path = before.read path := by
  rw [read, read, h]

/-! ## Trees with the same contents -/

/-- The trees hold the same at every place. -/
structure SameContents (first second : FileTree) : Prop where
  here : second.here = first.here
  entry?_eq : ∀ place, second.entry? place = first.entry? place

namespace SameContents

variable {first second : FileTree}

theorem refl (tree : FileTree) : SameContents tree tree :=
  ⟨rfl, fun _ => rfl⟩

theorem startOf_eq (h : SameContents first second) (path : Path) :
    second.startOf path = first.startOf path := by
  rw [startOf, startOf, h.here]

theorem checkDirectory_eq (h : SameContents first second) (place : Place) :
    second.checkDirectory place = first.checkDirectory place := by
  rw [checkDirectory, checkDirectory, h.entry?_eq]

theorem follow_eq (h : SameContents first second) (place : Place) (names : List String) :
    second.follow place names = first.follow place names := by
  induction names generalizing place with
  | nil => rfl
  | cons name names ih => simp only [follow_cons, h.checkDirectory_eq, ih]

theorem locate_eq (h : SameContents first second) (path : Path) :
    second.locate path = first.locate path := by
  rw [locate, locate, h.startOf_eq, h.follow_eq]

theorem locateFile_eq (h : SameContents first second) (path : Path) :
    second.locateFile path = first.locateFile path := by
  simp only [locateFile, h.startOf_eq, h.follow_eq, h.checkDirectory_eq]

theorem find_eq (h : SameContents first second) (path : Path) :
    second.find path = first.find path := by
  simp only [find, h.locate_eq, h.entry?_eq]

end SameContents

/-! ## One entry put in its place -/

/-- The tree holds `entry` at the place, and elsewhere what it held before. -/
structure IsUpdate (before : FileTree) (place : Place) (entry : Option Entry) (after : FileTree) :
    Prop where
  here : after.here = before.here
  at_place : after.entry? place = entry
  elsewhere : ∀ other, other ≠ place → after.entry? other = before.entry? other

theorem isUpdate_self (tree : FileTree) (place : Place) :
    IsUpdate tree place (tree.entry? place) tree :=
  ⟨rfl, rfl, fun _ _ => rfl⟩

theorem entry?_cons (tree : FileTree) (name : String) (outer : Place) :
    tree.entry? (name :: outer) = tree.entries[name :: outer]? := rfl

theorem entry?_insert (tree : FileTree) (name : String) (outer : Place) (entry : Entry) (place : Place) :
    FileTree.entry? (tree.insert (name :: outer) entry) place =
      if place = name :: outer then some entry else tree.entry? place := by
  cases place with
  | nil => rfl
  | cons first rest =>
      rw [insert, entry?_cons, entry?_cons, Std.HashMap.getElem?_insert]
      by_cases heq : first :: rest = name :: outer
      · rw [if_pos heq, if_pos (beq_iff_eq.mpr heq.symm)]
      · rw [if_neg heq, if_neg (by simpa using Ne.symm heq)]

theorem entry?_empty (name : String) (outer here : Place) :
    FileTree.entry? ⟨∅, here⟩ (name :: outer) = none :=
  Std.HashMap.getElem?_empty

theorem isUpdate_insert (tree : FileTree) (name : String) (outer : Place) (entry : Entry) :
    IsUpdate tree (name :: outer) (some entry) (tree.insert (name :: outer) entry) where
  here := rfl
  at_place := by rw [tree.entry?_insert, if_pos rfl]
  elsewhere other hother := by rw [tree.entry?_insert, if_neg hother]

namespace IsUpdate

variable {before after later : FileTree} {place : Place} {entry : Option Entry}

theorem trans {newer : Option Entry} (h : IsUpdate before place entry after)
    (hlater : IsUpdate after place newer later) : IsUpdate before place newer later where
  here := hlater.here.trans h.here
  at_place := hlater.at_place
  elsewhere other hother := (hlater.elsewhere other hother).trans (h.elsewhere other hother)

theorem sameContents {other otherAfter : FileTree} (hsame : SameContents before other)
    (h : IsUpdate before place entry after) (hother : IsUpdate other place entry otherAfter) :
    SameContents after otherAfter where
  here := by rw [hother.here, hsame.here, h.here]
  entry?_eq := by
    intro found
    by_cases hfound : found = place
    · rw [hfound, hother.at_place, h.at_place]
    · rw [hother.elsewhere found hfound, h.elsewhere found hfound, hsame.entry?_eq]

/-- Only where an entry was or is a directory does an update change which places are. -/
theorem sameDirectories (h : IsUpdate before place entry after)
    (hdirectory : entry = some .directory ↔ before.IsDirectory place) :
    SameDirectories before after where
  here := h.here
  directory := by
    intro other
    unfold IsDirectory at hdirectory ⊢
    by_cases hother : other = place
    · rw [hother, h.at_place, hdirectory]
    · rw [h.elsewhere other hother]

end IsUpdate

/-! ## Files put in their places -/

/-- Both paths lead to one place. -/
def SamePlace (tree : FileTree) (first second : Path) : Prop :=
  ∃ place, tree.locate first = .ok place ∧ tree.locate second = .ok place

/-- Only the files at some paths have changed, and the directories stayed. -/
structure KeptExcept (before : FileTree) (written : List Path) (after : FileTree) : Prop where
  directories : SameDirectories before after
  entry?_eq : ∀ place, (∀ path ∈ written, before.locateFile path ≠ .ok place) →
    after.entry? place = before.entry? place

theorem SameDirectories.samePlace_iff {before after : FileTree} (h : SameDirectories before after)
    {first second : Path} : after.SamePlace first second ↔ before.SamePlace first second := by
  simp only [SamePlace, h.locate_eq_ok_iff]

namespace KeptExcept

variable {before after later : FileTree} {written more : List Path} {path : Path} {place : Place}

theorem refl (tree : FileTree) (written : List Path) : KeptExcept tree written tree where
  directories := ⟨rfl, fun _ => Iff.rfl⟩
  entry?_eq _ _ := rfl

theorem trans (h : KeptExcept before written after) (hlater : KeptExcept after more later)
    (hmore : ∀ path ∈ more, path ∈ written) : KeptExcept before written later where
  directories := h.directories.trans hlater.directories
  entry?_eq := by
    intro place hplace
    rw [hlater.entry?_eq, h.entry?_eq place hplace]
    intro path hpath hlocated
    exact hplace path (hmore path hpath) (h.directories.locateFile_eq_ok_iff.mp hlocated)

theorem mono (h : KeptExcept before written after) (hmore : ∀ path ∈ written, path ∈ more) :
    KeptExcept before more after where
  directories := h.directories
  entry?_eq := by
    intro place hplace
    apply h.entry?_eq
    exact fun path hpath => hplace path (hmore path hpath)

/-- Where the only file that may have changed has not, nothing has. -/
theorem sameContents (h : KeptExcept before [path] after) (hlocated : before.locateFile path = .ok place)
    (hentry : after.entry? place = before.entry? place) : SameContents before after where
  here := h.directories.here
  entry?_eq := by
    intro other
    by_cases hother : other = place
    · rw [hother, hentry]
    · apply h.entry?_eq
      intro found hfound hlocatedOther
      rw [List.mem_singleton.mp hfound, hlocated] at hlocatedOther
      exact hother (Except.ok.inj hlocatedOther).symm

/-- What no file was put in place of is found as before. -/
theorem find_eq (h : KeptExcept before written after) (hlocate : before.locate path = .ok place)
    (hapart : ∀ other ∈ written, ¬ before.SamePlace other path) : after.find path = before.find path := by
  have hentry : after.entry? place = before.entry? place := by
    apply h.entry?_eq
    intro other hother hlocated
    exact hapart other hother ⟨place, locate_of_locateFile hlocated, hlocate⟩
  unfold find
  rw [h.directories.locate_eq_ok_iff.mpr hlocate, hlocate]
  simp only [bind, Except.bind, hentry]

end KeptExcept

/-! ## Well-formed trees -/

/-- Every entry has a name and lies in a directory. -/
structure WellFormed (tree : FileTree) : Prop where
  here : tree.IsDirectory tree.here
  isName : ∀ name outer, tree.entry? (name :: outer) ≠ none → IsName name
  inDirectory : ∀ name outer, tree.entry? (name :: outer) ≠ none → tree.IsDirectory outer

theorem IsUpdate.wellFormed {before after : FileTree} {name : String} {outer : Place}
    {entry : Option Entry} (h : IsUpdate before (name :: outer) entry after)
    (hwf : before.WellFormed) (hname : IsName name) (houter : before.IsDirectory outer)
    (hkept : before.IsDirectory (name :: outer) → entry = some .directory) : after.WellFormed := by
  have hdirectory : ∀ place, before.IsDirectory place → after.IsDirectory place := by
    intro place hplace
    by_cases heq : place = name :: outer
    · rw [heq] at hplace ⊢
      exact h.at_place.trans (hkept hplace)
    · exact (h.elsewhere place heq).trans hplace
  refine ⟨?_, ?_, ?_⟩
  · rw [h.here]
    exact hdirectory _ hwf.here
  · intro other place hentry
    by_cases heq : other :: place = name :: outer
    · rw [(List.cons.inj heq).1]
      exact hname
    · rw [h.elsewhere _ heq] at hentry
      exact hwf.isName other place hentry
  · intro other place hentry
    apply hdirectory
    by_cases heq : other :: place = name :: outer
    · rw [(List.cons.inj heq).2]
      exact houter
    · rw [h.elsewhere _ heq] at hentry
      exact hwf.inDirectory other place hentry

namespace WellFormed

theorem empty : (⟨∅, []⟩ : FileTree).WellFormed where
  here := isDirectory_root _
  isName _ _ hentry := absurd (FileTree.entry?_empty _ _ _) hentry
  inDirectory _ _ hentry := absurd (FileTree.entry?_empty _ _ _) hentry

theorem insert {tree : FileTree} (hwf : tree.WellFormed) {name : String} {outer : Place} (entry : Entry)
    (hname : IsName name) (houter : tree.IsDirectory outer) (habsent : ¬ tree.IsDirectory (name :: outer)) :
    (tree.insert (name :: outer) entry).WellFormed :=
  (tree.isUpdate_insert name outer entry).wellFormed hwf hname houter fun h => absurd h habsent

end WellFormed

end SceneAudit.FileTree
