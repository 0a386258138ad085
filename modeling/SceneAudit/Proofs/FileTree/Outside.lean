import SceneAudit.Proofs.Discovery

/-!
# Files put outside a directory

Files come and go without a directory noticing as long as none of them lies in it
(`LiesIn`): the same files are found there afterwards, in the same order
(`KeptExcept.discovered_eq`).  Directories are found where they were in any case
(`KeptExcept.find_directory_iff`).
-/

namespace SceneAudit.FileTree

variable {tree after : FileTree} {deep : Bool} {directory path : Path} {written : List Path}
  {place : Place} {extension : String}

/-- The path leads into the directory, or also anywhere below it. -/
def LiesIn (tree : FileTree) (deep : Bool) (directory path : Path) : Prop :=
  ∃ outer front, tree.locate directory = .ok outer ∧ tree.IsDirectory outer ∧ front ≠ [] ∧
    (deep = true ∨ front.length = 1) ∧ tree.locate path = .ok (front ++ outer)

/-! ## Paths in a directory -/

theorem LiesIn.of_samePlace {other : Path} (h : tree.LiesIn deep directory path)
    (hsame : tree.SamePlace other path) : tree.LiesIn deep directory other := by
  obtain ⟨outer, front, houter, hdirectory, hne, hdepth, hlocate⟩ := h
  obtain ⟨place, hother, hplace⟩ := hsame
  obtain rfl := Except.ok.inj (hplace.symm.trans hlocate)
  exact ⟨outer, front, houter, hdirectory, hne, hdepth, hother⟩

theorem WellFormed.isDirectory_tail (hwf : tree.WellFormed) (h : tree.IsDirectory place) :
    tree.IsDirectory place.tail := by
  cases place with
  | nil => exact h
  | cons name outer =>
      apply hwf.inDirectory name outer
      rw [h]
      simp

theorem liesIn_of_mem_discovered (hwf : tree.WellFormed)
    (h : path ∈ tree.discovered deep directory extension) : tree.LiesIn deep directory path := by
  obtain ⟨outer, front, -, hinto, hne, hdepth, hentry, -⟩ := isEntryPath_of_mem_discovered hwf h
  exact ⟨outer, front, locate_of_mem_discovered h hinto, hinto.directory, hne, hdepth, hentry.locate_eq⟩

/-! ## What stays as it was -/

namespace KeptExcept

/-- What lies in a directory that no file is put in is found as before. -/
theorem find_of_liesIn (h : tree.KeptExcept written after)
    (houtside : ∀ other ∈ written, ¬ tree.LiesIn deep directory other)
    (hpath : tree.LiesIn deep directory path) : after.find path = tree.find path := by
  obtain ⟨_, _, -, -, -, -, hlocate⟩ := id hpath
  apply h.find_eq hlocate
  exact fun other hother hsame => houtside other hother (hpath.of_samePlace hsame)

/-- Directories are found where they were. -/
theorem find_directory_iff (h : tree.KeptExcept written after) :
    after.find path = .ok (place, .directory) ↔ tree.find path = .ok (place, .directory) := by
  rw [find_eq_ok_iff, find_eq_ok_iff, h.directories.locate_eq_ok_iff]
  exact and_congr_right fun _ => h.directories.directory place

/-- Every file that was written has a name in a directory, so the tree stays well-formed. -/
theorem wellFormed (h : tree.KeptExcept written after) (hwf : tree.WellFormed) : after.WellFormed := by
  have hfound : ∀ name outer, after.entry? (name :: outer) ≠ none →
      Path.IsName name ∧ tree.IsDirectory outer := by
    intro name outer hentry
    by_cases hwritten : ∃ path ∈ written, tree.locateFile path = .ok (name :: outer)
    · obtain ⟨path, -, hlocated⟩ := hwritten
      obtain ⟨_, _, heq, hname, hdirectory⟩ := exists_of_locateFile hlocated
      obtain ⟨rfl, rfl⟩ := List.cons.inj heq
      exact ⟨hname, hdirectory⟩
    · push Not at hwritten
      rw [h.entry?_eq _ hwritten] at hentry
      exact ⟨hwf.isName name outer hentry, hwf.inDirectory name outer hentry⟩
  refine ⟨?_, fun name outer hentry => (hfound name outer hentry).1, ?_⟩
  · rw [h.directories.here]
    exact (h.directories.directory _).mpr hwf.here
  · intro name outer hentry
    exact (h.directories.directory outer).mpr (hfound name outer hentry).2

theorem mem_files_iff (h : tree.KeptExcept written after)
    (houtside : ∀ path ∈ written, ¬ tree.LiesIn deep directory path) :
    path ∈ after.files deep directory ↔ path ∈ tree.files deep directory := by
  have hentry : ∀ {place names}, tree.find directory = .ok (place, .directory) → names ≠ [] →
      (deep = true ∨ names.length = 1) →
        after.entry? (names.reverse ++ place) = tree.entry? (names.reverse ++ place) := by
    intro place names hfind hne hdepth
    obtain ⟨hlocate, hdirectory⟩ := find_eq_ok_iff.mp hfind
    apply h.entry?_eq
    intro path hpath hlocated
    refine houtside path hpath ⟨place, names.reverse, hlocate, hdirectory, ?_, ?_, ?_⟩
    · exact mt List.reverse_eq_nil_iff.mp hne
    · rwa [List.length_reverse]
    · exact locate_of_locateFile hlocated
  rw [FileTree.mem_files_iff, FileTree.mem_files_iff]
  constructor
  · rintro ⟨place, names, contents, hfind, hne, hdepth, hheld, hpath⟩
    rw [h.find_directory_iff] at hfind
    rw [hentry hfind hne hdepth] at hheld
    exact ⟨place, names, contents, hfind, hne, hdepth, hheld, hpath⟩
  · rintro ⟨place, names, contents, hfind, hne, hdepth, hheld, hpath⟩
    rw [← hentry hfind hne hdepth] at hheld
    exact ⟨place, names, contents, h.find_directory_iff.mpr hfind, hne, hdepth, hheld, hpath⟩

/-- A directory that no file is put in has the same files. -/
theorem discovered_eq (h : tree.KeptExcept written after) (hwf : tree.WellFormed)
    (houtside : ∀ path ∈ written, ¬ tree.LiesIn deep directory path) :
    after.discovered deep directory extension = tree.discovered deep directory extension := by
  refine (ascending_discovered (h.wellFormed hwf) _ _ _).eq_of_mem_iff (ascending_discovered hwf _ _ _) ?_
  intro path
  rw [mem_discovered_iff, mem_discovered_iff, h.mem_files_iff houtside]

end KeptExcept

end SceneAudit.FileTree
