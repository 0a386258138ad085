import SceneAudit.FileTree
import SceneAudit.Proofs.Path.Join

/-!
# Following paths

A path is followed through directories only, so where it leads depends on nothing but
the place it starts from and on which places are directories
(`SameDirectories.locate_eq_ok_iff`).  The path of an entry leads one step on from the
place of the entry's directory (`LeadsInto.locate_join`, `LeadsInto.locateFile_join`).
-/

namespace SceneAudit.FileTree

open SceneAudit.Path (IsStep IsName)

variable {tree : FileTree} {path : Path} {place : Place}

/-- There is a directory at the place. -/
def IsDirectory (tree : FileTree) (place : Place) : Prop :=
  tree.entry? place = some .directory

theorem isDirectory_root (tree : FileTree) : tree.IsDirectory [] := rfl

theorem checkDirectory_eq_ok_iff : tree.checkDirectory place = .ok () ↔ tree.IsDirectory place := by
  unfold checkDirectory IsDirectory
  split
  · rename_i hentry
    simp [hentry]
  · rename_i entry hother hentry
    rw [hentry]
    constructor
    · intro h
      exact absurd h (by simp)
    · intro h
      exact absurd (Option.some.inj h) hother
  · rename_i hentry
    simp [hentry]

/-! ## Following names -/

theorem follow_nil (tree : FileTree) (place : Place) : tree.follow place [] = .ok place := rfl

theorem follow_cons (tree : FileTree) (place : Place) (name : String) (names : List String) :
    tree.follow place (name :: names) =
      (tree.checkDirectory place).bind fun _ => tree.follow (descend place name) names := rfl

theorem follow_append (tree : FileTree) (place : Place) (names more : List String) :
    tree.follow place (names ++ more) =
      (tree.follow place names).bind fun inner => tree.follow inner more := by
  induction names generalizing place with
  | nil => rfl
  | cons name names ih =>
      rw [List.cons_append, follow_cons, follow_cons]
      cases tree.checkDirectory place with
      | error error => rfl
      | ok _ => exact ih _

theorem follow_cons_eq_ok_iff {name : String} {names : List String} {inner : Place} :
    tree.follow place (name :: names) = .ok inner ↔
      tree.IsDirectory place ∧ tree.follow (descend place name) names = .ok inner := by
  rw [follow_cons, ← checkDirectory_eq_ok_iff]
  cases tree.checkDirectory place with
  | error error => simp [Except.bind]
  | ok _ => simp [Except.bind]

theorem follow_append_step {start : Place} {names : List String}
    (h : tree.follow start names = .ok place) (hdirectory : tree.IsDirectory place) (step : String) :
    tree.follow start (names ++ [step]) = .ok (descend place step) := by
  rw [follow_append, h]
  exact follow_cons_eq_ok_iff.mpr ⟨hdirectory, follow_nil _ _⟩

theorem descend_of_isName {name : String} (hname : IsName name) (place : Place) :
    descend place name = name :: place := by
  obtain ⟨-, hdot, hdots⟩ := hname
  rw [descend, if_neg hdot, if_neg hdots]

/-- One name leads at most one step away. -/
theorem suffix_of_descend {inner outer : Place} {step name : String}
    (h : descend inner step = name :: outer) : outer <:+ inner := by
  unfold descend at h
  split_ifs at h
  · rw [h]
    exact List.suffix_cons name outer
  · exact (List.suffix_cons name outer).trans (h ▸ List.tail_suffix inner)
  · exact (List.cons.inj h).2 ▸ List.suffix_refl inner

/-! ## The names in a path -/

theorem names_eq (path : Path) :
    names path =
      ((Path.splitAtSlashes path.text.toList).filter (· ≠ [])).map String.ofList := by
  rw [names, List.filter_map]
  congr 1
  apply List.filter_congr
  intro piece _
  simp [String.ofList_eq_empty_iff]

theorem isStep_of_mem_names {name : String} (h : name ∈ names path) : IsStep name := by
  rw [names_eq] at h
  obtain ⟨piece, hpiece, rfl⟩ := List.mem_map.mp h
  obtain ⟨hmem, hne⟩ := List.mem_filter.mp hpiece
  constructor
  · simpa [String.ofList_eq_empty_iff] using hne
  · rw [String.toList_ofList]
    exact Path.slash_not_mem_of_mem_splitAtSlashes _ piece hmem

theorem names_join (path : Path) {step : String} (hstep : IsStep step) :
    names (path.join step) = names path ++ [step] := by
  rw [names_eq, names_eq, Path.filter_splitAtSlashes_join path hstep]
  simp

theorem endsInSlash_join (path : Path) {step : String} (hstep : IsStep step) :
    endsInSlash (path.join step) = false := by
  unfold endsInSlash
  rw [Path.toList_join path hstep, List.getLast?_append_of_ne_nil _ hstep.toList_ne_nil,
    decide_eq_false_iff_not]
  intro hlast
  exact hstep.2 (List.mem_of_getLast? hlast)

theorem text_join_ne_empty (path : Path) {step : String} (hstep : IsStep step) :
    (path.join step).text ≠ "" := by
  intro hempty
  have htext := Path.toList_join path hstep
  rw [hempty] at htext
  exact hstep.toList_ne_nil (List.append_eq_nil_iff.mp htext.symm).2

theorem startOf_join (tree : FileTree) (path : Path) {step : String} (hstep : IsStep step) :
    tree.startOf (path.join step) = tree.startOf path := by
  rw [startOf, startOf, Path.isAbsolute_join path hstep]

/-! ## Where paths lead -/

theorem locate_eq (hne : path.text ≠ "") :
    tree.locate path =
      tree.follow (tree.startOf path) (names path ++ if endsInSlash path then ["."] else []) := by
  rw [locate, if_neg hne]

/-- The empty path leads nowhere. -/
theorem text_ne_empty_of_locate (h : tree.locate path = .ok place) : path.text ≠ "" := by
  intro hempty
  rw [locate, if_pos hempty] at h
  exact absurd h (by simp)

/-- A path leads where its names lead, with or without a slash at its end. -/
theorem follow_names_of_locate (h : tree.locate path = .ok place) :
    tree.follow (tree.startOf path) (names path) = .ok place := by
  rw [locate_eq (text_ne_empty_of_locate h)] at h
  cases hslash : endsInSlash path with
  | false => simpa [hslash] using h
  | true =>
      rw [hslash, if_pos rfl, follow_append] at h
      cases hnames : tree.follow (tree.startOf path) (names path) with
      | error error => simp [hnames, Except.bind] at h
      | ok inner =>
          rw [hnames] at h
          have hinner := (follow_cons_eq_ok_iff.mp h).2
          rw [follow_nil, descend, if_pos rfl] at hinner
          exact hinner

/-- The names in a path lead to the directory, with or without a slash at its end. -/
structure LeadsInto (tree : FileTree) (path : Path) (place : Place) : Prop where
  follow : tree.follow (tree.startOf path) (names path) = .ok place
  directory : tree.IsDirectory place

theorem leadsInto_of_locate (h : tree.locate path = .ok place) (hdirectory : tree.IsDirectory place) :
    tree.LeadsInto path place :=
  ⟨follow_names_of_locate h, hdirectory⟩

theorem LeadsInto.locate_self (h : tree.LeadsInto path place) (hne : path.text ≠ "") :
    tree.locate path = .ok place := by
  rw [FileTree.locate_eq hne]
  split
  · exact follow_append_step h.follow h.directory "."
  · rw [List.append_nil]
    exact h.follow

theorem LeadsInto.eq {other : Place} (h : tree.LeadsInto path place) (hother : tree.LeadsInto path other) :
    place = other :=
  Except.ok.inj (h.follow.symm.trans hother.follow)

/-- The empty path leads nowhere, but a name behind it is one in the current directory. -/
theorem leadsInto_of_empty (hempty : path.text = "") (hhere : tree.IsDirectory tree.here) :
    tree.LeadsInto path tree.here := by
  obtain rfl : path = ⟨""⟩ := by
    cases path
    exact congrArg Path.mk hempty
  exact ⟨rfl, hhere⟩

theorem LeadsInto.locate_join (h : tree.LeadsInto path place) {step : String} (hstep : IsStep step) :
    tree.locate (path.join step) = .ok (descend place step) := by
  rw [locate_eq (text_join_ne_empty path hstep), endsInSlash_join path hstep, startOf_join tree path hstep,
    names_join path hstep]
  simpa using follow_append_step h.follow h.directory step

/-- A path that leads somewhere passes through a directory just before. -/
theorem exists_leadsInto_of_locate_join {step : String} (hstep : IsStep step)
    (h : tree.locate (path.join step) = .ok place) :
    ∃ outer, tree.LeadsInto path outer ∧ place = descend outer step := by
  rw [locate_eq (text_join_ne_empty path hstep), endsInSlash_join path hstep, startOf_join tree path hstep,
    names_join path hstep, if_neg Bool.false_ne_true, List.append_nil, follow_append] at h
  cases hfollow : tree.follow (tree.startOf path) (names path) with
  | error error => simp [hfollow, Except.bind] at h
  | ok outer =>
      rw [hfollow] at h
      obtain ⟨hdirectory, hlast⟩ := follow_cons_eq_ok_iff.mp h
      exact ⟨outer, ⟨hfollow, hdirectory⟩, (Except.ok.inj hlast).symm⟩

/-- A file may be opened where the last name of the path leads on from a directory. -/
theorem names_of_reverse_eq_cons {last : String} {reversedFront : List String}
    (h : (names path).reverse = last :: reversedFront) :
    names path = reversedFront.reverse ++ [last] ∧ IsStep last := by
  have hnames : names path = reversedFront.reverse ++ [last] := by
    rw [← List.reverse_reverse (names path), h, List.reverse_cons]
  have hmem : last ∈ names path := by
    rw [hnames]
    exact List.mem_append_right _ List.mem_cons_self
  exact ⟨hnames, isStep_of_mem_names hmem⟩

theorem locateFile_eq_ok_iff :
    tree.locateFile path = .ok place ↔
      ∃ front last outer, names path = front ++ [last] ∧ IsName last ∧ endsInSlash path = false ∧
        tree.follow (tree.startOf path) front = .ok outer ∧ tree.IsDirectory outer ∧
          place = last :: outer := by
  unfold locateFile
  cases hreverse : (names path).reverse with
  | nil =>
      have hnames : names path = [] := List.reverse_eq_nil_iff.mp hreverse
      simp [hnames]
  | cons last reversedFront =>
      obtain ⟨hnames, hstep⟩ := names_of_reverse_eq_cons hreverse
      simp only [bind, Except.bind]
      constructor
      · intro h
        split at h
        · exact absurd h (by simp)
        · rename_i outer hfollow
          split at h
          · exact absurd h (by simp)
          · rename_i hcheck
            split_ifs at h with hlast
            simp only [Bool.or_eq_true, decide_eq_true_eq, not_or, Bool.not_eq_true] at hlast
            obtain ⟨⟨hslash, hdot⟩, hdots⟩ := hlast
            exact ⟨_, last, outer, hnames, ⟨hstep, hdot, hdots⟩, hslash, hfollow,
              checkDirectory_eq_ok_iff.mp hcheck, (Except.ok.inj h).symm⟩
      · rintro ⟨front, name, outer, hsplit, hname, hslash, hfollow, hdirectory, rfl⟩
        obtain ⟨rfl, hlast⟩ := List.append_inj' (hnames.symm.trans hsplit) rfl
        obtain rfl := List.singleton_inj.mp hlast
        simp [hfollow, checkDirectory_eq_ok_iff.mpr hdirectory, hslash, hname.2.1, hname.2.2]

theorem LeadsInto.locateFile_join (h : tree.LeadsInto path place) {name : String}
    (hname : IsName name) : tree.locateFile (path.join name) = .ok (name :: place) := by
  rw [locateFile_eq_ok_iff]
  refine ⟨names path, name, place, names_join path hname.1, hname, endsInSlash_join path hname.1,
    ?_, h.directory, rfl⟩
  rw [startOf_join tree path hname.1]
  exact h.follow

theorem locate_of_locateFile (h : tree.locateFile path = .ok place) :
    tree.locate path = .ok place := by
  obtain ⟨front, last, outer, hnames, hname, hslash, hfollow, hdirectory, rfl⟩ :=
    locateFile_eq_ok_iff.mp h
  have hne : path.text ≠ "" := by
    intro hempty
    rw [names, hempty] at hnames
    simp [Path.splitAtSlashes] at hnames
  rw [locate_eq hne, hnames, hslash]
  simpa [descend_of_isName hname] using follow_append_step hfollow hdirectory last

theorem exists_of_locateFile (h : tree.locateFile path = .ok place) :
    ∃ name outer, place = name :: outer ∧ IsName name ∧ tree.IsDirectory outer := by
  obtain ⟨-, last, outer, -, hname, -, -, hdirectory, rfl⟩ := locateFile_eq_ok_iff.mp h
  exact ⟨last, outer, rfl, hname, hdirectory⟩

/-! ## Trees with the same directories -/

/-- The trees have their directories at the same places. -/
structure SameDirectories (before after : FileTree) : Prop where
  here : after.here = before.here
  directory : ∀ place, after.IsDirectory place ↔ before.IsDirectory place

namespace SameDirectories

variable {before after : FileTree}

theorem trans {later : FileTree} (h : SameDirectories before after)
    (hlater : SameDirectories after later) : SameDirectories before later where
  here := hlater.here.trans h.here
  directory place := (hlater.directory place).trans (h.directory place)

theorem symm (h : SameDirectories before after) : SameDirectories after before where
  here := h.here.symm
  directory place := (h.directory place).symm

theorem startOf_eq (h : SameDirectories before after) (path : Path) :
    after.startOf path = before.startOf path := by
  rw [startOf, startOf, h.here]

theorem follow_eq_ok_iff (h : SameDirectories before after) {names : List String} {inner : Place} :
    after.follow place names = .ok inner ↔ before.follow place names = .ok inner := by
  induction names generalizing place with
  | nil => rw [follow_nil, follow_nil]
  | cons name names ih => rw [follow_cons_eq_ok_iff, follow_cons_eq_ok_iff, h.directory, ih]

theorem locate_eq_ok_iff (h : SameDirectories before after) :
    after.locate path = .ok place ↔ before.locate path = .ok place := by
  by_cases hempty : path.text = ""
  · rw [locate, locate, if_pos hempty, if_pos hempty]
  · rw [locate_eq hempty, locate_eq hempty, h.startOf_eq, h.follow_eq_ok_iff]

theorem leadsInto (h : SameDirectories before after) (hinto : before.LeadsInto path place) :
    after.LeadsInto path place where
  follow := by
    rw [h.startOf_eq, h.follow_eq_ok_iff]
    exact hinto.follow
  directory := (h.directory place).mpr hinto.directory

theorem locateFile_eq_ok_iff (h : SameDirectories before after) :
    after.locateFile path = .ok place ↔ before.locateFile path = .ok place := by
  simp only [FileTree.locateFile_eq_ok_iff, h.startOf_eq, h.follow_eq_ok_iff, h.directory]

end SameDirectories

end SceneAudit.FileTree
