import SceneAudit.Proofs.FileTree.Restricted

/-!
# Making directories

A directory is made where there is nothing, inside one that there is
(`exists_of_makeDirectory`), so a tree stays well-formed while the directories around a
path are made one after the other (`wellFormed_run_createDirectories`).  When they are
there, the path leads into the last of them (`leadsInto_of_run_createDirectories`), and
none is made again (`run_createDirectories_again`).  What the tree held stays in any case:
all that is new are directories around the path (`madeAround_run_createDirectories`).
-/

namespace SceneAudit

open SceneAudit.Path (IsStep IsName)

namespace FileTree

variable {tree after : FileTree} {path : Path}

/-! ## One directory -/

theorem exists_of_makeDirectory (h : tree.makeDirectory path = .ok after) :
    ∃ front name outer, names path = front ++ [name] ∧ IsName name ∧
      tree.follow (tree.startOf path) front = .ok outer ∧ tree.IsDirectory outer ∧
        tree.entry? (name :: outer) = none ∧ after = tree.insert (name :: outer) .directory := by
  unfold makeDirectory at h
  cases hreverse : (names path).reverse with
  | nil => simp [hreverse] at h
  | cons name reversedFront =>
      obtain ⟨hnames, hstep⟩ := names_of_reverse_eq_cons hreverse
      rw [hreverse] at h
      simp only [bind, Except.bind] at h
      split at h
      · exact absurd h (by simp)
      · rename_i outer hfollow
        split at h
        · exact absurd h (by simp)
        · rename_i hcheck
          split_ifs at h with hrefused
          simp only [Bool.or_eq_true, decide_eq_true_eq, not_or, Bool.not_eq_true,
            Option.isSome_eq_false_iff, Option.isNone_iff_eq_none] at hrefused
          obtain ⟨⟨hdot, hdots⟩, habsent⟩ := hrefused
          exact ⟨_, name, outer, hnames, ⟨hstep, hdot, hdots⟩, hfollow,
            checkDirectory_eq_ok_iff.mp hcheck, habsent, (Except.ok.inj h).symm⟩

theorem WellFormed.makeDirectory (hwf : tree.WellFormed) (h : tree.makeDirectory path = .ok after) :
    after.WellFormed := by
  obtain ⟨-, name, outer, -, hname, -, hdirectory, habsent, rfl⟩ := exists_of_makeDirectory h
  exact hwf.insert .directory hname hdirectory (by simp [IsDirectory, habsent])

/-- Names lead on where directories have been added. -/
theorem follow_eq_ok_of_directories (hmore : ∀ place, tree.IsDirectory place → after.IsDirectory place)
    {start place : Place} {names : List String} (h : tree.follow start names = .ok place) :
    after.follow start names = .ok place := by
  induction names generalizing start with
  | nil => exact h
  | cons name names ih =>
      obtain ⟨hdirectory, hrest⟩ := follow_cons_eq_ok_iff.mp h
      exact follow_cons_eq_ok_iff.mpr ⟨hmore _ hdirectory, ih hrest⟩

theorem isDirectory_eq_true_iff :
    tree.isDirectory path = true ↔ ∃ place, tree.locate path = .ok place ∧ tree.IsDirectory place := by
  unfold isDirectory find IsDirectory
  cases tree.locate path with
  | error error => simp [bind, Except.bind]
  | ok place =>
      simp only [bind, Except.bind, Except.ok.injEq, exists_eq_left']
      rcases hentry : tree.entry? place with - | - | contents | - <;> simp

/-- A directory that was made is new, and its path leads into it. -/
theorem exists_leadsInto_of_makeDirectory (h : tree.makeDirectory path = .ok after) :
    ∃ name outer, path.text ≠ "" ∧ tree.entry? (name :: outer) = none ∧
      after = tree.insert (name :: outer) .directory ∧ after.LeadsInto path (name :: outer) := by
  obtain ⟨front, name, outer, hnames, hname, hfollow, hdirectory, habsent, rfl⟩ :=
    exists_of_makeDirectory h
  have hupdate := tree.isUpdate_insert name outer .directory
  have hmore : ∀ place, tree.IsDirectory place →
      (tree.insert (name :: outer) .directory).IsDirectory place := by
    intro place hplace
    refine (hupdate.elsewhere place ?_).trans hplace
    rintro rfl
    exact absurd hplace (by simp [IsDirectory, habsent])
  have hne : path.text ≠ "" := by
    intro hempty
    rw [names, hempty] at hnames
    simp [Path.splitAtSlashes] at hnames
  have hlast := follow_append_step (follow_eq_ok_of_directories hmore hfollow) (hmore _ hdirectory) name
  rw [descend_of_isName hname, ← hnames] at hlast
  exact ⟨name, outer, hne, habsent, rfl, hlast, hupdate.at_place⟩

theorem isDirectory_of_makeDirectory (h : tree.makeDirectory path = .ok after) :
    after.isDirectory path = true := by
  obtain ⟨name, outer, hne, -, -, hinto⟩ := exists_leadsInto_of_makeDirectory h
  exact isDirectory_eq_true_iff.mpr ⟨name :: outer, hinto.locate_self hne, hinto.directory⟩

/-- A directory that is there is not made again. -/
theorem makeDirectory_of_isDirectory (h : tree.isDirectory path = true) :
    tree.makeDirectory path = .error .alreadyExists := by
  obtain ⟨place, hlocate, hdirectory⟩ := isDirectory_eq_true_iff.mp h
  have hne := text_ne_empty_of_locate hlocate
  have hfollow := follow_names_of_locate hlocate
  unfold makeDirectory
  cases hreverse : (names path).reverse with
  | nil => simp [hne]
  | cons name reversedFront =>
      obtain ⟨hnames, -⟩ := names_of_reverse_eq_cons hreverse
      rw [hnames, follow_append] at hfollow
      simp only [bind]
      cases hfront : tree.follow (tree.startOf path) reversedFront.reverse with
      | error error => simp [hfront, Except.bind] at hfollow
      | ok outer =>
          rw [hfront] at hfollow
          obtain ⟨houter, hlast⟩ := follow_cons_eq_ok_iff.mp hfollow
          rw [follow_nil, Except.ok.injEq] at hlast
          simp only [Except.bind, checkDirectory_eq_ok_iff.mpr houter]
          rw [if_pos]
          by_cases hstay : name = "." ∨ name = ".."
          · rcases hstay with rfl | rfl <;> simp
          · rw [not_or] at hstay
            rw [descend, if_neg hstay.1, if_neg hstay.2] at hlast
            simp [hlast, show tree.entry? place = some .directory from hdirectory]

end FileTree

/-! ## A directory and those around it -/

namespace Restricted

open FileTree (changed)

variable {refusals : Refusals} {tree after : FileTree} {path : Path}

/-- Looking whether a directory is there changes nothing. -/
theorem run_unlessDirectory (attempt : Except DiskError Unit) (tree : FileTree) :
    ((Disk.unlessDirectory path attempt : Restricted refusals _).run tree).2 = tree := by
  cases attempt <;> rfl

section

variable {motive : FileTree → Prop}
  (hmake : ∀ {path : Path} {before after : FileTree}, motive before →
    before.makeDirectory path = .ok after → motive after)

include hmake

theorem run_makeDirectory_induct (h : motive tree) :
    motive ((Disk.makeDirectory path : Restricted refusals _).run tree).2 := by
  rw [run_makeDirectory]
  cases hmade : tree.makeDirectory path with
  | ok made => exact hmake h hmade
  | error error => exact h

theorem run_createWithin_induct (depth : Nat) (h : motive tree) :
    motive ((Disk.createWithin depth path : Restricted refusals _).run tree).2 := by
  have hmade : ∀ {path : Path} {tree : FileTree}, motive tree →
      motive ((Disk.makeDirectory path >>= Disk.unlessDirectory path : Restricted refusals _).run tree).2 := by
    intro path tree h
    rw [run_bind, run_unlessDirectory]
    exact run_makeDirectory_induct hmake h
  induction depth generalizing tree path with
  | zero => exact hmade h
  | succ depth ih =>
      have hattempt := @run_makeDirectory_induct refusals tree path _ hmake h
      unfold Disk.createWithin
      rw [run_bind]
      split
      · rename_i parent _ _
        have hparent := @ih _ parent hattempt
        rw [run_bind]
        split
        · exact hparent
        · exact hmade hparent
      · rw [run_unlessDirectory]
        exact hattempt

/-- What making one directory preserves, making those around it as well preserves. -/
theorem run_createDirectories_induct (h : motive tree) :
    motive ((Disk.createDirectories path : Restricted refusals _).run tree).2 := by
  unfold Disk.createDirectories
  split_ifs
  · exact h
  · exact run_createWithin_induct hmake _ h

end

theorem wellFormed_run_createDirectories (hwf : tree.WellFormed) :
    ((Disk.createDirectories path : Restricted refusals _).run tree).2.WellFormed :=
  run_createDirectories_induct FileTree.WellFormed.makeDirectory hwf

/-- An attempt that succeeds leaves a directory at the path. -/
theorem isDirectory_of_run_unlessDirectory
    (h : (Disk.makeDirectory path >>= Disk.unlessDirectory path : Restricted refusals _).run tree =
      (.ok (), after)) : after.isDirectory path = true := by
  rw [run_bind, run_makeDirectory] at h
  cases hmade : tree.makeDirectory path with
  | ok made =>
      rw [hmade] at h
      obtain rfl : made = after := congrArg Prod.snd h
      exact FileTree.isDirectory_of_makeDirectory hmade
  | error error =>
      rw [hmade] at h
      obtain rfl : tree = after := congrArg Prod.snd h
      cases hdirectory : tree.isDirectory path with
      | true => rfl
      | false =>
          have houtcome := congrArg Prod.fst h
          simp only [changed, Disk.unlessDirectory, run_bind, run_isDirectory, hdirectory] at houtcome
          exact absurd houtcome (by simp)

theorem isDirectory_of_run_createWithin (depth : Nat)
    (h : (Disk.createWithin depth path : Restricted refusals _).run tree = (.ok (), after)) :
    after.isDirectory path = true := by
  cases depth with
  | zero => exact isDirectory_of_run_unlessDirectory h
  | succ depth =>
      unfold Disk.createWithin at h
      have hplain : (Disk.makeDirectory path >>= Disk.unlessDirectory path : Restricted refusals _).run
          tree = (.ok (), after) → after.isDirectory path = true := isDirectory_of_run_unlessDirectory
      rw [run_bind, run_makeDirectory] at h hplain
      cases hmade : tree.makeDirectory path with
      | ok made =>
          rw [hmade] at h hplain
          exact hplain h
      | error error =>
          rw [hmade] at h hplain
          simp only [changed] at h hplain
          split at h
          · rename_i parent _ _
            rw [run_bind] at h
            rcases hrun : (Disk.createWithin depth parent : Restricted refusals _).run tree with
              ⟨_ | _, middle⟩
            · rw [hrun] at h
              exact absurd (congrArg Prod.fst h) (by simp)
            · rw [hrun] at h
              exact isDirectory_of_run_unlessDirectory h
          · exact hplain h

theorem run_createDirectories_of_isDirectory (h : tree.isDirectory path = true) :
    (Disk.createDirectories path : Restricted refusals _).run tree = (.ok (), tree) := by
  have hattempt : (Disk.makeDirectory path : Restricted refusals _).run tree =
      (.error .alreadyExists, tree) := by
    rw [run_makeDirectory, FileTree.makeDirectory_of_isDirectory h]
    rfl
  have hunless : (Disk.unlessDirectory path (.error .alreadyExists) : Restricted refusals _).run tree =
      (.ok (), tree) := by
    unfold Disk.unlessDirectory
    rw [run_bind, run_isDirectory, h]
    rfl
  unfold Disk.createDirectories
  split_ifs
  · rfl
  · cases path.components.length with
    | zero =>
        unfold Disk.createWithin
        rw [run_bind, hattempt]
        exact hunless
    | succ depth =>
        unfold Disk.createWithin
        rw [run_bind, hattempt]
        exact hunless

/-- A directory that was made once is not made again. -/
theorem run_createDirectories_again {later : FileTree}
    (h : (Disk.createDirectories path : Restricted refusals _).run tree = (.ok (), after))
    (hlater : FileTree.SameDirectories after later) :
    (Disk.createDirectories path : Restricted refusals _).run later = (.ok (), later) := by
  by_cases hempty : path.text = ""
  · unfold Disk.createDirectories
    rw [if_pos hempty]
    rfl
  · apply run_createDirectories_of_isDirectory
    unfold Disk.createDirectories at h
    rw [if_neg hempty] at h
    obtain ⟨place, hlocate, hdirectory⟩ :=
      FileTree.isDirectory_eq_true_iff.mp (isDirectory_of_run_createWithin _ h)
    exact FileTree.isDirectory_eq_true_iff.mpr
      ⟨place, hlater.locate_eq_ok_iff.mpr hlocate, (hlater.directory place).mpr hdirectory⟩

/-- Once a directory and those around it have been made, names may follow its path. -/
theorem leadsInto_of_run_createDirectories (hwf : tree.WellFormed)
    (h : (Disk.createDirectories path : Restricted refusals _).run tree = (.ok (), after)) :
    ∃ place, after.LeadsInto path place := by
  unfold Disk.createDirectories at h
  split_ifs at h with hempty
  · obtain rfl : tree = after := congrArg Prod.snd h
    exact ⟨tree.here, FileTree.leadsInto_of_empty hempty hwf.here⟩
  · obtain ⟨place, hlocate, hdirectory⟩ :=
      FileTree.isDirectory_eq_true_iff.mp (isDirectory_of_run_createWithin _ h)
    exact ⟨place, FileTree.leadsInto_of_locate hlocate hdirectory⟩

end Restricted

/-! ## Which directories are made -/

/-- The path itself, or one that is reached from it by going from parent to parent. -/
inductive Path.Encloses (outer : Path) : Path → Prop where
  | self : Encloses outer outer
  | inside {inner parent : Path} (hparent : inner.parent? = some parent) (h : Encloses outer parent) :
      Encloses outer inner

namespace FileTree

/-- The directories that were made are new and lie around the path; all else is as it was. -/
structure MadeAround (path : Path) (before after : FileTree) : Prop where
  here : after.here = before.here
  entry?_eq_or : ∀ place, after.entry? place = before.entry? place ∨
    before.entry? place = none ∧ ∃ outer, outer.Encloses path ∧ after.LeadsInto outer place

namespace MadeAround

variable {path parent : Path} {before middle after : FileTree} {place : Place}

theorem refl (path : Path) (tree : FileTree) : MadeAround path tree tree :=
  ⟨rfl, fun _ => .inl rfl⟩

/-- What there was is still there. -/
theorem entry?_eq (h : MadeAround path before after) (hentry : before.entry? place ≠ none) :
    after.entry? place = before.entry? place :=
  (h.entry?_eq_or place).resolve_right fun hmade => hentry hmade.1

theorem isDirectory (h : MadeAround path before after) (hdirectory : before.IsDirectory place) :
    after.IsDirectory place := by
  unfold IsDirectory at hdirectory ⊢
  rw [h.entry?_eq (by simp [hdirectory]), hdirectory]

theorem startOf_eq (h : MadeAround path before after) (other : Path) :
    after.startOf other = before.startOf other := by
  rw [startOf, startOf, h.here]

theorem leadsInto (h : MadeAround path before after) {other : Path}
    (hinto : before.LeadsInto other place) : after.LeadsInto other place where
  follow := by
    rw [h.startOf_eq]
    exact follow_eq_ok_of_directories (fun _ => h.isDirectory) hinto.follow
  directory := h.isDirectory hinto.directory

/-- What is found at a path is still found there. -/
theorem find_eq_ok (h : MadeAround path before after) {other : Path} {entry : Entry}
    (hfind : before.find other = .ok (place, entry)) : after.find other = .ok (place, entry) := by
  obtain ⟨hlocate, hentry⟩ := find_eq_ok_iff.mp hfind
  have hafter : after.locate other = .ok place := by
    have hne := text_ne_empty_of_locate hlocate
    rw [locate_eq hne] at hlocate ⊢
    rw [h.startOf_eq]
    exact follow_eq_ok_of_directories (fun _ => h.isDirectory) hlocate
  rw [find_eq_ok_iff, h.entry?_eq (hentry ▸ Option.some_ne_none entry)]
  exact ⟨hafter, hentry⟩

/-- What can be read is read as before. -/
theorem read_eq_ok (h : MadeAround path before after) {other : Path} {contents : ByteArray}
    (hread : before.read other = .ok contents) : after.read other = .ok contents := by
  obtain ⟨place, entry, hfind⟩ := exists_find_of_read hread
  rw [read_congr ((h.find_eq_ok hfind).trans hfind.symm), hread]

theorem trans (h : MadeAround path before middle) (hlater : MadeAround path middle after) :
    MadeAround path before after where
  here := hlater.here.trans h.here
  entry?_eq_or := by
    intro place
    rcases h.entry?_eq_or place with hsame | ⟨habsent, outer, hencloses, hinto⟩
    · rw [← hsame]
      exact hlater.entry?_eq_or place
    · exact .inr ⟨habsent, outer, hencloses, hlater.leadsInto hinto⟩

/-- What is made around the parent is made around the path. -/
theorem inside (hparent : path.parent? = some parent) (h : MadeAround parent before after) :
    MadeAround path before after where
  here := h.here
  entry?_eq_or := by
    intro place
    refine (h.entry?_eq_or place).imp_right fun ⟨habsent, outer, hencloses, hinto⟩ => ?_
    exact ⟨habsent, outer, .inside hparent hencloses, hinto⟩

theorem of_makeDirectory (h : before.makeDirectory path = .ok after) : MadeAround path before after := by
  obtain ⟨name, outer, -, habsent, rfl, hinto⟩ := exists_leadsInto_of_makeDirectory h
  refine ⟨rfl, fun place => ?_⟩
  by_cases hplace : place = name :: outer
  · rw [hplace]
    exact .inr ⟨habsent, path, .self, hinto⟩
  · exact .inl ((before.isUpdate_insert name outer .directory).elsewhere place hplace)

end MadeAround

end FileTree

namespace Restricted

open FileTree (MadeAround)

variable {refusals : Refusals}

theorem madeAround_run_makeDirectory (refusals : Refusals) (path : Path) (tree : FileTree) :
    MadeAround path tree ((Disk.makeDirectory path : Restricted refusals _).run tree).2 := by
  rw [run_makeDirectory]
  cases hmade : tree.makeDirectory path with
  | ok made => exact .of_makeDirectory hmade
  | error error => exact .refl path tree

theorem madeAround_run_createWithin (depth : Nat) (path : Path) (tree : FileTree) :
    MadeAround path tree ((Disk.createWithin depth path : Restricted refusals _).run tree).2 := by
  have hmade : ∀ path tree, MadeAround path tree
      ((Disk.makeDirectory path >>= Disk.unlessDirectory path : Restricted refusals _).run tree).2 := by
    intro path tree
    rw [run_bind, run_unlessDirectory]
    exact madeAround_run_makeDirectory refusals path tree
  induction depth generalizing path tree with
  | zero => exact hmade path tree
  | succ depth ih =>
      have hattempt := madeAround_run_makeDirectory refusals path tree
      unfold Disk.createWithin
      rw [run_bind]
      split
      · rename_i parent _ hparent
        have houter := hattempt.trans ((ih parent _).inside hparent)
        rw [run_bind]
        split
        · exact houter
        · exact houter.trans (hmade path _)
      · rw [run_unlessDirectory]
        exact hattempt

theorem madeAround_run_createDirectories (path : Path) (tree : FileTree) :
    MadeAround path tree ((Disk.createDirectories path : Restricted refusals _).run tree).2 := by
  unfold Disk.createDirectories
  split_ifs
  · exact .refl path tree
  · exact madeAround_run_createWithin _ path tree

/-- Directories are made where there was nothing, and all else stays. -/
theorem entry?_run_createDirectories (refusals : Refusals) (path : Path) (tree : FileTree) (place : Place) :
    FileTree.entry? ((Disk.createDirectories path : Restricted refusals _).run tree).2 place =
        tree.entry? place ∨
      FileTree.IsDirectory ((Disk.createDirectories path : Restricted refusals _).run tree).2 place :=
  ((madeAround_run_createDirectories path tree).entry?_eq_or place).imp_right
    fun ⟨_, _, _, hinto⟩ => hinto.directory

end Restricted

end SceneAudit
