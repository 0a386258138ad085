import SceneAudit.Proofs.Discovery
import SceneAudit.Proofs.FileTree.Making

/-!
# What discovery lists

Looking for files follows the tree from one directory on.  Here the answer is told
by paths alone: a path is listed if names lead to it from the directory, if there
is a regular file at it, and if its last name has the extension (`IsListing`).  For
scenes a single name may lead there.

A sidecar has the name of its asset with the extension behind it, so its path without
the extension is that of a neighbour, and no two sidecars have the same neighbour
(`PairsUp`).  This needs the asset's name to be one that an entry can have: `..meta`
and `...meta` are sidecars, but behind `.` and `..` there is no entry.

`discovery_isListing` states both of what the two searches find.
-/

namespace SceneAudit

open SceneAudit.Path (IsStep IsName HasExtension)

/-- In an ascending list no two items are equal in order. -/
theorem Ascending.eq_of_compare_eq {β : Type} [Ord β] [Std.OrientedOrd β] {items : List β}
    (h : Ascending items) {first second : β} (hfirst : first ∈ items) (hsecond : second ∈ items)
    (heq : compare first second = .eq) : first = second := by
  have hapart : items.Pairwise fun first second => compare first second ≠ .eq := by
    refine h.imp ?_
    intro first second hlt
    rw [hlt]
    simp
  have hsymm : Std.Symm fun first second : β => compare first second ≠ .eq :=
    ⟨fun first second hne hswapped => hne (Std.OrientedCmp.eq_symm hswapped)⟩
  by_contra hne
  exact hapart.forall hfirst hsecond hne heq

namespace FileTree

/-! ## The files below a directory -/

/-- There is a regular file at the path. -/
def IsFileAt (tree : FileTree) (path : Path) : Prop :=
  ∃ place contents, tree.find path = .ok (place, .file contents)

/-- Names lead from the directory to the path, and `name` is the last of them; unless `deep`,
there is no other. -/
def IsBelow (deep : Bool) (directory path : Path) (name : String) : Prop :=
  IsName name ∧ ∃ outer, (∀ step ∈ outer, IsName step) ∧ (deep = true ∨ outer = []) ∧
    path = (pathBelow directory outer).join name

/-- The paths are those of the files with an extension in a directory, or also below it. -/
structure IsListing (tree : FileTree) (deep : Bool) (directory : Path) (extension : String)
    (paths : List Path) : Prop where
  ascending : Ascending paths
  mem_iff : ∀ path, path ∈ paths ↔ tree.isDirectory directory = true ∧ tree.IsFileAt path ∧
    ∃ name, IsBelow deep directory path name ∧ HasExtension extension name
  /-- Where there is no directory, nothing is listed. -/
  eq_nil : tree.isDirectory directory = false → paths = []

variable {tree : FileTree} {deep : Bool} {directory path : Path} {place inner : Place}
  {extension : String}

/-- The names below a directory lead where they say. -/
theorem LeadsInto.pathBelow_eq (hdirectory : tree.LeadsInto directory place) {outer : List String}
    (houter : ∀ step ∈ outer, IsName step) (h : tree.LeadsInto (pathBelow directory outer) inner) :
    inner = outer.reverse ++ place := by
  induction outer using List.reverseRec generalizing inner with
  | nil => exact h.eq hdirectory
  | append_singleton outer name ih =>
      have hname : IsName name := houter name (List.mem_append_right _ List.mem_cons_self)
      rw [pathBelow_append_singleton] at h
      have hlocate := h.locate_self (text_join_ne_empty _ hname.1)
      obtain ⟨front, hfront, rfl⟩ := exists_leadsInto_of_locate_join hname.1 hlocate
      have hplace := ih (fun step hstep => houter step (List.mem_append_left _ hstep)) hfront
      rw [descend_of_isName hname, hplace, List.reverse_append, List.reverse_singleton,
        List.singleton_append, List.cons_append]

theorem mem_files_iff_isFileAt (hwf : tree.WellFormed) :
    path ∈ tree.files deep directory ↔
      tree.isDirectory directory = true ∧ tree.IsFileAt path ∧
        ∃ name, IsBelow deep directory path name := by
  rw [mem_files_iff]
  constructor
  · rintro ⟨place, names, contents, hfind, hne, hdepth, hentry, rfl⟩
    obtain ⟨hlocate, hdirectory⟩ := find_eq_ok_iff.mp hfind
    have hpresent : tree.entry? (names.reverse ++ place) ≠ none := by simp [hentry]
    have hfile := isEntryPath_pathBelow hwf hlocate hne hpresent
    have hnames : ∀ step ∈ names, IsName step := fun step hstep =>
      hwf.isName_of_mem hpresent step (List.mem_append_left _ (List.mem_reverse.mpr hstep))
    refine ⟨isDirectory_eq_true_iff.mpr ⟨place, hlocate, hdirectory⟩,
      ⟨_, contents, find_eq_ok_iff.mpr ⟨hfile.locate_eq, hentry⟩⟩, ?_⟩
    cases names using List.reverseRecOn with
    | nil => exact absurd rfl hne
    | append_singleton outer name =>
        refine ⟨name, hnames name (List.mem_append_right _ List.mem_cons_self), outer,
          fun step hstep => hnames step (List.mem_append_left _ hstep), ?_,
          pathBelow_append_singleton _ _ _⟩
        simpa using hdepth
  · rintro ⟨hdirectory, ⟨found, contents, hfind⟩, name, hname, outer, houter, hdepth, rfl⟩
    obtain ⟨place, hlocate, hplace⟩ := isDirectory_eq_true_iff.mp hdirectory
    obtain ⟨hfound, hentry⟩ := find_eq_ok_iff.mp hfind
    obtain ⟨inner, hinner, rfl⟩ := exists_leadsInto_of_locate_join hname.1 hfound
    obtain rfl := (leadsInto_of_locate hlocate hplace).pathBelow_eq houter hinner
    rw [descend_of_isName hname] at hentry
    refine ⟨place, outer ++ [name], contents, find_eq_ok_iff.mpr ⟨hlocate, hplace⟩, by simp, ?_, ?_,
      (pathBelow_append_singleton _ _ _).symm⟩
    · simpa using hdepth
    · simpa using hentry

theorem IsBelow.extension?_eq_some_iff {name : String} (h : IsBelow deep directory path name) :
    path.extension? = some extension ↔ HasExtension extension name := by
  obtain ⟨hname, outer, -, -, rfl⟩ := h
  exact Path.extension?_join_eq_some_iff _ hname

theorem isListing_discovered (hwf : tree.WellFormed) (deep : Bool) (directory : Path)
    (extension : String) :
    tree.IsListing deep directory extension (tree.discovered deep directory extension) where
  ascending := ascending_discovered hwf deep directory extension
  mem_iff := by
    intro path
    rw [mem_discovered_iff, mem_files_iff_isFileAt hwf]
    constructor
    · rintro ⟨⟨hdirectory, hfile, name, hbelow⟩, hextension⟩
      exact ⟨hdirectory, hfile, name, hbelow, hbelow.extension?_eq_some_iff.mp hextension⟩
    · rintro ⟨hdirectory, hfile, name, hbelow, hextension⟩
      exact ⟨⟨hdirectory, hfile, name, hbelow⟩, hbelow.extension?_eq_some_iff.mpr hextension⟩
  eq_nil := by
    intro hmissing
    rw [discovered, files_of_not_isDirectory hmissing]
    simp [withExtension]

end FileTree

/-! ## Sidecars and their assets -/

namespace Sidecar

/-- What a sidecar has behind the name of its asset. -/
def suffix : String := "." ++ fileExtension

/-- The file name of the sidecar is that of an asset with the suffix behind it. -/
def NamesAsset (sidecar : Sidecar) (asset : String) : Prop :=
  sidecar.path.fileName? = some (asset ++ suffix) ∧ asset ≠ "." ∧ asset ≠ ".."

/-- The source path is the path of the sidecar without the suffix, and that of an asset of this
name in the same directory. -/
structure IsBeside (sidecar : Sidecar) (asset : String) : Prop where
  text_eq : sidecar.path.text = sidecar.sourcePath.text ++ suffix
  fileName?_eq : sidecar.sourcePath.fileName? = some asset
  parent?_eq : sidecar.sourcePath.parent? = sidecar.path.parent?

/-- The sidecars at these paths have assets, all of them different. -/
structure PairsUp (paths : List Path) : Prop where
  /-- Each has a file name with the suffix at its end. -/
  exists_fileName : ∀ path ∈ paths, ∃ asset, asset ≠ "" ∧ path.fileName? = some (asset ++ suffix)
  isBeside : ∀ (sidecar : Sidecar) (asset : String), sidecar.path ∈ paths →
    sidecar.NamesAsset asset → sidecar.IsBeside asset
  /-- Different sidecars have source paths that are different in order, hence in their components. -/
  compare_ne : ∀ (first second : Sidecar) (firstAsset secondAsset : String),
    first.path ∈ paths → second.path ∈ paths → first.NamesAsset firstAsset →
      second.NamesAsset secondAsset → first.path ≠ second.path →
        compare first.sourcePath second.sourcePath ≠ .eq

variable {sidecar : Sidecar} {asset : String} {outer : Path}

theorem isName_of_append_suffix (hname : IsName (asset ++ suffix)) (hasset : asset ≠ "")
    (hdot : asset ≠ ".") (hdots : asset ≠ "..") : IsName asset := by
  refine ⟨⟨hasset, fun hslash => ?_⟩, hdot, hdots⟩
  apply hname.1.2
  rw [String.toList_append]
  exact List.mem_append_left _ hslash

/-- The source path is that of the asset's name in the directory of the sidecar. -/
theorem sourcePath_of_join (hpath : sidecar.path = outer.join (asset ++ suffix))
    (hname : IsName (asset ++ suffix)) (hasset : IsName asset) :
    sidecar.sourcePath = outer.join asset := by
  have hnoDot : '.' ∉ fileExtension.toList := by decide
  have hwhole : asset ++ suffix = asset ++ "." ++ fileExtension := String.append_assoc.symm
  have hextension : sidecar.path.extension? = some fileExtension := by
    rw [hpath, Path.extension?_join_eq_some_iff outer hname]
    exact ⟨asset, hasset.1.1, hnoDot, hwhole⟩
  have hparts := Path.splitExtension?_append hasset.1.1 hnoDot
  rw [← hwhole] at hparts
  have hdot : asset.toList ≠ ['.'] := fun heq => hasset.2.1 (String.toList_injective heq)
  rw [sourcePath, if_pos hextension, hpath, Path.withoutExtension_join_of_parts outer hname hparts hdot,
    String.ofList_toList]

/-- Without its suffix the file name would be `.`; what is left leads out of the directory. -/
example : Sidecar.sourcePath ⟨.unresolved .absent, ⟨"Scripts/..meta"⟩, false⟩ = ⟨"Scripts/.."⟩ := by
  decide

theorem isBeside_of_join (hpath : sidecar.path = outer.join (asset ++ suffix))
    (hname : IsName (asset ++ suffix)) (hasset : IsName asset) : sidecar.IsBeside asset := by
  have hsource := sourcePath_of_join hpath hname hasset
  refine ⟨?_, ?_, ?_⟩
  · apply String.toList_injective
    rw [hpath, hsource, Path.toList_join outer hname.1, String.toList_append, String.toList_append,
      Path.toList_join outer hasset.1, List.append_assoc]
  · rw [hsource, Path.fileName?_join outer hasset]
  · rw [hpath, hsource, Path.parent?_join outer hasset.1 hasset.2.1 hname.1 hname.2.1]

end Sidecar

namespace FileTree.IsListing

variable {tree : FileTree} {deep : Bool} {directory : Path} {paths : List Path}

/-- A listed sidecar that names an asset is the path of a directory with the two names joined. -/
theorem exists_join (h : tree.IsListing deep directory Sidecar.fileExtension paths)
    {path : Path} (hpath : path ∈ paths) :
    ∃ (outer : Path) (asset : String), asset ≠ "" ∧ IsName (asset ++ Sidecar.suffix) ∧
      path = outer.join (asset ++ Sidecar.suffix) := by
  obtain ⟨-, -, name, ⟨hname, outer, -, -, rfl⟩, asset, hasset, -, rfl⟩ := (h.mem_iff path).mp hpath
  rw [String.append_assoc] at hname ⊢
  exact ⟨_, asset, hasset, hname, rfl⟩

theorem exists_join_of_namesAsset (h : tree.IsListing deep directory Sidecar.fileExtension paths)
    {sidecar : Sidecar} {asset : String} (hpath : sidecar.path ∈ paths)
    (hnames : sidecar.NamesAsset asset) :
    ∃ outer : Path, IsName (asset ++ Sidecar.suffix) ∧ IsName asset ∧
      sidecar.path = outer.join (asset ++ Sidecar.suffix) := by
  obtain ⟨outer, other, hother, hname, hjoin⟩ := h.exists_join hpath
  obtain ⟨hfile, hdot, hdots⟩ := hnames
  rw [hjoin, Path.fileName?_join outer hname, Option.some.injEq, String.append_left_inj] at hfile
  subst hfile
  exact ⟨outer, hname, Sidecar.isName_of_append_suffix hname hother hdot hdots, hjoin⟩

/-- Listed sidecars and their assets pair up. -/
theorem pairsUp (h : tree.IsListing deep directory Sidecar.fileExtension paths) :
    Sidecar.PairsUp paths := by
  refine ⟨?_, ?_, ?_⟩
  · intro path hpath
    obtain ⟨outer, asset, hasset, hname, rfl⟩ := h.exists_join hpath
    exact ⟨asset, hasset, Path.fileName?_join outer hname⟩
  · intro sidecar asset hpath hnames
    obtain ⟨outer, hname, hasset, hjoin⟩ := h.exists_join_of_namesAsset hpath hnames
    exact Sidecar.isBeside_of_join hjoin hname hasset
  · intro first second firstAsset secondAsset hfirst hsecond hfirstNames hsecondNames hne heq
    obtain ⟨front, hname, hasset, hjoin⟩ := h.exists_join_of_namesAsset hfirst hfirstNames
    obtain ⟨back, hname', hasset', hjoin'⟩ := h.exists_join_of_namesAsset hsecond hsecondNames
    rw [Sidecar.sourcePath_of_join hjoin hname hasset,
      Sidecar.sourcePath_of_join hjoin' hname' hasset', Path.compare_eq_eq_iff,
      Path.components_join front hasset, Path.components_join back hasset'] at heq
    obtain ⟨hcomponents, hlast⟩ := List.append_inj' heq rfl
    obtain rfl : firstAsset = secondAsset := by simpa using hlast
    -- the sidecars have the same components too, and the list has no two such paths
    have hsame : compare first.path second.path = .eq := by
      rw [Path.compare_eq_eq_iff, hjoin, hjoin', Path.components_join front hname,
        Path.components_join back hname, hcomponents]
    exact hne (h.ascending.eq_of_compare_eq hfirst hsecond hsame)

end FileTree.IsListing

/-- **Discovery lists the files that there are**, each once and in order, and every sidecar that
is listed has an asset of its own beside it. -/
theorem discovery_isListing {tree : FileTree} (hwf : tree.WellFormed) (refusals : Refusals)
    (directory : Path) (extension : String) :
    ∃ scenes sidecars,
      (sceneFiles directory extension : Restricted refusals _).run tree = (scenes, tree) ∧
      (metaFiles directory : Restricted refusals _).run tree = (sidecars, tree) ∧
      tree.IsListing false directory extension scenes ∧
      tree.IsListing true directory Sidecar.fileExtension sidecars ∧ Sidecar.PairsUp sidecars := by
  have hsidecars := FileTree.isListing_discovered hwf true directory Sidecar.fileExtension
  exact ⟨_, _, Restricted.run_discover false directory extension tree,
    Restricted.run_discover true directory Sidecar.fileExtension tree,
    FileTree.isListing_discovered hwf false directory extension, hsidecars, hsidecars.pairsUp⟩

namespace OddSidecars

/-- A directory with the name of a sidecar, a sidecar in it, and a file whose name is all suffix. -/
def tree : FileTree :=
  ((((⟨∅, []⟩ : FileTree).insert ["Scripts"] .directory).insert ["Old.meta", "Scripts"]
    .directory).insert ["Gate.meta", "Old.meta", "Scripts"] (.file .empty)).insert
    [".meta", "Scripts"] (.file .empty)

theorem wellFormed : tree.WellFormed := by
  unfold tree
  refine ((((FileTree.WellFormed.empty.insert _ ?_ ?_ ?_).insert _ ?_ ?_ ?_).insert _ ?_ ?_ ?_).insert
    _ ?_ ?_ ?_)
  all_goals first
    | decide
    | exact FileTree.isDirectory_root _
    | simp [FileTree.IsDirectory, FileTree.entry?_insert, FileTree.entry?_empty]

theorem leadsInto_scripts : tree.LeadsInto ⟨"Scripts"⟩ ["Scripts"] := by
  have hnames : FileTree.names ⟨"Scripts"⟩ = ["Scripts"] := by decide
  refine ⟨?_, by simp [tree, FileTree.IsDirectory, FileTree.entry?_insert]⟩
  rw [hnames, FileTree.follow_cons_eq_ok_iff]
  exact ⟨tree.isDirectory_root, rfl⟩

theorem isDirectory_scripts : tree.isDirectory ⟨"Scripts"⟩ = true :=
  FileTree.isDirectory_eq_true_iff.mpr
    ⟨["Scripts"], leadsInto_scripts.locate_self (by decide), leadsInto_scripts.directory⟩

def gate : Path := ⟨"Scripts/Old.meta/Gate.meta"⟩

theorem isFileAt_gate : tree.IsFileAt gate := by
  have hold : tree.LeadsInto ((⟨"Scripts"⟩ : Path).join "Old.meta") ["Old.meta", "Scripts"] := by
    refine FileTree.leadsInto_of_locate (leadsInto_scripts.locate_join (by decide)) ?_
    simp [tree, FileTree.IsDirectory, FileTree.entry?_insert]
  have hstep : IsStep "Gate.meta" := by decide
  have hlocate : tree.locate gate = .ok ["Gate.meta", "Old.meta", "Scripts"] := hold.locate_join hstep
  refine ⟨_, .empty, FileTree.find_eq_ok_iff.mpr ⟨hlocate, ?_⟩⟩
  simp [tree, FileTree.entry?_insert]

/-- The sidecar in the inner directory is listed and stands beside its asset; the directory and the
file without stem are not listed. -/
theorem gate_listed :
    tree.WellFormed ∧ ∃ sidecars,
      (metaFiles ⟨"Scripts"⟩ : Restricted .nothing _).run tree = (sidecars, tree) ∧
      gate ∈ sidecars ∧ (∀ sidecar : Sidecar, sidecar.path = gate → sidecar.IsBeside "Gate") ∧
      (⟨"Scripts/Old.meta"⟩ : Path) ∉ sidecars ∧ (⟨"Scripts/.meta"⟩ : Path) ∉ sidecars := by
  obtain ⟨-, sidecars, -, hrun, -, hlisting, hpairs⟩ :=
    discovery_isListing wellFormed .nothing ⟨"Scripts"⟩ "unity"
  have hgate : gate ∈ sidecars := by
    refine (hlisting.mem_iff gate).mpr ⟨isDirectory_scripts, isFileAt_gate, "Gate.meta", ?_, ?_⟩
    · exact ⟨by decide, ["Old.meta"], by decide, .inl rfl, by decide⟩
    · exact ⟨"Gate", by decide, by decide, by decide⟩
  refine ⟨wellFormed, sidecars, hrun, hgate, ?_, ?_, ?_⟩
  · intro sidecar hpath
    refine hpairs.isBeside sidecar "Gate" (hpath ▸ hgate) ⟨?_, by decide, by decide⟩
    rw [hpath]
    decide
  · intro hmem
    obtain ⟨-, ⟨place, contents, hfind⟩, -⟩ := (hlisting.mem_iff _).mp hmem
    obtain ⟨hlocate, hentry⟩ := FileTree.find_eq_ok_iff.mp hfind
    have hstep : IsStep "Old.meta" := by decide
    have hplace : tree.locate ⟨"Scripts/Old.meta"⟩ = .ok ["Old.meta", "Scripts"] :=
      leadsInto_scripts.locate_join hstep
    obtain rfl := Except.ok.inj (hplace.symm.trans hlocate)
    simp [tree, FileTree.entry?_insert] at hentry
  · intro hmem
    obtain ⟨-, -, name, hbelow, hextension⟩ := (hlisting.mem_iff _).mp hmem
    exact absurd (hbelow.extension?_eq_some_iff.mpr hextension) (by decide)

end OddSidecars

end SceneAudit
